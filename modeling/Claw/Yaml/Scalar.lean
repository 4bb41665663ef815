import Claw.Binary.Arithmetic
import Claw.Binary.Shortest
import Claw.Numeral.AnyScript
import Claw.Text.Base64
import Claw.Text.Lowercase
import Claw.Yaml.Tag

/-!
# YAML scalars

What a text of a given type denotes.

* `Scalar`: the value of a scalar;
* `integerValue`, `floatValue`: what a text of a number type denotes, which a tag may declare
  whatever its shape;
* `Scalar.ofText`: the value of a text of a given type;
* `Scalar.shown`: a value as it is shown in messages.
-/

namespace Claw.Yaml

open Binary (Number)

/-- The value of a scalar. -/
inductive Scalar
  | null
  | boolean (value : Bool)
  | integer (value : Int)
  | float (value : Number Binary.double)
  | text (value : String)
  | bytes (value : List UInt8)
  | timestamp (value : Timestamp)
  deriving DecidableEq, Repr

/-! ## Numbers -/

/-- The text of a number without the underscores in it. -/
def withoutJoints (cs : List Char) : List Char :=
  cs.filter (· != '_')

/-- The integer that a text denotes in a base. -/
def integerIn (radix : Numeral.Radix) (cs : List Char) : Except ScalarFault Int :=
  (Numeral.signedInteger radix cs).mapError fun
    | .malformed => .notInteger radix.base (String.ofList cs)
    | .tooLong digits => .tooLong digits

/-- The value of places of base sixty, of which the last counts once. -/
def placesValue (places : List Int) : Int :=
  places.foldl (fun value place => value * 60 + place) 0

/-- The integer that a text denotes behind its sign. -/
def unsignedValue (cs : List Char) : Except ScalarFault Int :=
  match cs with
  | [] => .error .noNumber
  | ['0'] => .ok 0
  | '0' :: 'b' :: rest => integerIn .binary rest
  | '0' :: 'x' :: rest => integerIn .hexadecimal rest
  | '0' :: _ => integerIn .octal cs
  | _ => ((Text.pieces ':' cs).mapM (integerIn .decimal)).map placesValue

/-- The integer that a text denotes. -/
def integerValue (text : String) : Except ScalarFault Int :=
  let cs := withoutJoints text.toList
  (unsignedValue (dropSign cs)).map fun magnitude => if isNegative cs then -magnitude else magnitude

/-- The number that a text denotes in base ten. -/
def floatIn (cs : List Char) : Except ScalarFault (Number Binary.double) :=
  match Numeral.signedReal? cs with
  | some real => .ok (.ofReal real)
  | none => .error (.notNumber (String.ofList cs))

/-- The sum of places of base sixty, the last place first, when the first of them counts the given
multiple. -/
def sumPlaces (unit : Nat) (total : Number Binary.double) :
    List (Number Binary.double) → Except ScalarFault (Number Binary.double)
  | [] => .ok total
  | place :: rest =>
    match Number.ofReal (.number false unit 0) with
    | .infinite _ => .error .tooGreat
    | weight => sumPlaces (unit * 60) (total.add (place.mul weight)) rest

/-- The number that a text denotes behind its sign. -/
def unsignedFloat (cs : List Char) : Except ScalarFault (Number Binary.double) :=
  if cs = ".inf".toList then .ok (.infinite false)
  else if cs = ".nan".toList then .ok .nan
  else if cs.contains ':' then do
    let places ← (Text.pieces ':' cs).mapM floatIn
    sumPlaces 1 (.ofRank false 0) places.reverse
  else floatIn cs

/-- The floating-point number that a text denotes. -/
def floatValue (text : String) : Except ScalarFault (Number Binary.double) :=
  let cs := Text.lower (withoutJoints text.toList)
  if cs.isEmpty then .error .noNumber
  else (unsignedFloat (dropSign cs)).map fun magnitude =>
    if isNegative cs then magnitude.neg else magnitude

/-! ## Other types -/

/-- The truth value that a word denotes, in any case. -/
def booleanValue (text : String) : Except ScalarFault Bool :=
  let word := Text.lowercase text
  match booleans.lookup word with
  | some value => .ok value
  | none => .error (.notBoolean word)

/-- The timestamp that a text denotes; a line break at its end does not count. -/
def timestampValue (text : String) : Except ScalarFault Timestamp :=
  match Timestamp.fields? (withoutBreak text.toList) with
  | some fields => Timestamp.ofFields fields
  | none => .error .notTimestamp

/-- The bytes that a text denotes. -/
def bytesValue (text : String) : Except Failure (List UInt8) :=
  if text.toList.all fun c => c.toNat < 0x80 then
    match Text.decodeBase64 text.toList with
    | some bytes => .ok bytes
    | none => .error .malformed
  else .error .malformed

/-- The value of a text of the given type, which has to be a type of scalars. -/
def Scalar.ofText (tag : Tag) (text : String) : Except Failure Scalar :=
  match tag with
  | .null => .ok .null
  | .text => .ok (.text text)
  | .boolean => ((booleanValue text).map .boolean).mapError .scalar
  | .integer => ((integerValue text).map .integer).mapError .scalar
  | .float => ((floatValue text).map .float).mapError .scalar
  | .timestamp => ((timestampValue text).map .timestamp).mapError .scalar
  | .bytes => (bytesValue text).map .bytes
  | _ => .error .malformed

/-- A value as it is shown; an integer with too many digits cannot be. -/
def Scalar.shown : Scalar → Except Numeral.TooManyDigits String
  | .null => .ok "None"
  | .boolean value => .ok (if value then "True" else "False")
  | .integer value => Numeral.boundedText value
  | .float value => .ok value.text
  | .text value => .ok value
  | .bytes value => .ok (Text.quotedBytes value)
  | .timestamp value => .ok value.text

end Claw.Yaml
