import Claw.Binary.Shortest
import Claw.DataType
import Claw.Numeral.Integer
import Claw.Text.Lines

/-!
# Literals

What a data directive lists, and how it becomes a value of the declared type.

* `Datum`: a value together with its type; the integer types share one constructor;
* `LiteralFault`: why a literal cannot be converted, with its wording in `LiteralFault.message`;
* `integerLiteral`, `singleLiteral`, `literal`: the conversions;
* `fields`: the literals of a value list.

A numeric literal is ASCII throughout: the digits of other scripts, which a value list admits, are
refused here.  A string is taken as it stands.

The wording of a fault can itself be impossible: an integer that is out of range may have more
digits than can be written.  `LiteralFault.message` fails with `TooManyDigits` in that case.
-/

namespace Claw

open Binary (Number)
open Numeral (TooManyDigits)

/-- A value of one of the data types. -/
inductive Datum
  | integer (type : IntegerType) (value : Int)
  | single (value : Number Binary.double)
  | string (value : String)
  deriving DecidableEq, Repr

/-- The type of a value. -/
def Datum.type : Datum → DataType
  | .integer type _ => .integer type
  | .single _ => .single
  | .string _ => .string

/-- The number of bytes a value occupies; a string is held in UTF-8. -/
def Datum.bytes : Datum → Nat
  | .integer type _ => type.width.bytes
  | .single _ => 4
  | .string value => value.utf8ByteSize

/-- A value as it is shown: behind its directive, a string between double quotes. -/
def Datum.text (datum : Datum) : String :=
  datum.type.directive ++ " " ++
    match datum with
    | .integer _ value => Numeral.integerText value
    | .single value => value.text
    | .string value => "\"" ++ value ++ "\""

/-- Why a literal cannot be converted. -/
inductive LiteralFault
  /-- There is nothing but blanks. -/
  | empty
  /-- A numeric literal is not ASCII. -/
  | notNumeric (text : String)
  /-- The text is no integer numeral. -/
  | notInteger (text : String)
  /-- The text is no real numeral. -/
  | notReal (text : String)
  /-- The integer is not a value of the type. -/
  | outOfRange (type : IntegerType) (value : Int)
  /-- The number is beyond the finite single-precision numbers. -/
  | overflow (value : Number Binary.double)
  deriving DecidableEq, Repr

/-- The wording of a fault, where every number in it can be written. -/
def LiteralFault.message : LiteralFault → Except TooManyDigits String
  | .empty => .ok "Empty literal"
  | .notNumeric text => .ok ("Invalid numeric literal: " ++ text)
  | .notInteger text => .ok ("Invalid integer literal: " ++ text)
  | .notReal text => .ok ("Invalid float literal: " ++ text)
  | .outOfRange type value =>
    (Numeral.boundedText value).map fun shown =>
      "Value " ++ shown ++ " out of range for " ++ (DataType.integer type).directive ++ " (" ++
        Numeral.integerText type.minimum ++ ".." ++ Numeral.integerText type.maximum ++ ")"
  | .overflow value => .ok ("Value " ++ value.text ++ " out of range for a 32-bit float")

/-- The integer that a literal denotes. -/
def integerLiteral (text : String) : Except LiteralFault Int :=
  let body := Text.trim text.toList
  if body.isEmpty then .error .empty
  else
    match Numeral.integer? body with
    | some value => .ok value
    | none => .error (.notInteger (String.ofList body))

/-- The single-precision number nearest to a double, as a double. -/
def roundToSingle (value : Number Binary.double) : Except LiteralFault (Number Binary.double) :=
  match Binary.roundToSingle? value with
  | some rounded => .ok rounded
  | none => .error (.overflow value)

/-- The single-precision number that a literal denotes, rounded to a double first. -/
def singleLiteral (text : String) : Except LiteralFault (Number Binary.double) :=
  let body := Text.trim text.toList
  match Numeral.real? body with
  | some real => roundToSingle (.ofReal real)
  | none => .error (.notReal (String.ofList body))

/-- Whether every character is ASCII. -/
def isAscii (s : String) : Bool :=
  s.toList.all fun c => c.toNat < 0x80

/-- The value of the given type that a literal denotes. -/
def literal (type : DataType) (text : String) : Except LiteralFault Datum :=
  match type with
  | .string => .ok (.string text)
  | .single =>
    if !isAscii text then .error (.notNumeric (Text.trimmed text))
    else (singleLiteral text).map .single
  | .integer type =>
    if !isAscii text then .error (.notNumeric (Text.trimmed text))
    else do
      let value ← integerLiteral text
      if type.admits value then .ok (.integer type value) else .error (.outOfRange type value)

/-- The fields of a value list: the pieces between commas, trimmed, without the empty ones. -/
def fields (raw : String) : List String :=
  ((Text.pieces ',' raw.toList).map Text.trim).filterMap fun field =>
    if field.isEmpty then none else some (String.ofList field)

end Claw
