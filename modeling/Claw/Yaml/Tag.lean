import Claw.Text.Lines
import Claw.Yaml.Timestamp

/-!
# YAML types

Every node of a YAML document has a type, which a tag names or the shape of its text decides.

* `Tag`: the types of nodes that this library tells apart, and `Tag.ofName` the type of a full name;
* `resolve`: the type that a text has by its shape.

The shapes are those of YAML 1.1: `yes` and `off` are truth values, a leading zero makes an integer
octal, colons separate places of base sixty, and a number is floating-point only with a point.
-/

namespace Claw.Yaml

/-- The types of nodes. -/
inductive Tag
  | null
  | boolean
  | integer
  | float
  | text
  | bytes
  | timestamp
  | sequence
  | mapping
  | set
  /-- A mapping written as a sequence of single entries. -/
  | orderedMapping
  /-- A sequence of single entries, in which keys may come up again. -/
  | pairs
  /-- The key `<<`, which takes over the entries of other mappings. -/
  | merge
  /-- The key `=`, which holds the text that its mapping stands for. -/
  | equals
  /-- Any other type. -/
  | other
  deriving DecidableEq, Repr

/-- The type with the given full name. -/
def Tag.ofName (name : String) : Tag :=
  match name with
  | "tag:yaml.org,2002:null" => .null
  | "tag:yaml.org,2002:bool" => .boolean
  | "tag:yaml.org,2002:int" => .integer
  | "tag:yaml.org,2002:float" => .float
  | "tag:yaml.org,2002:str" => .text
  | "tag:yaml.org,2002:binary" => .bytes
  | "tag:yaml.org,2002:timestamp" => .timestamp
  | "tag:yaml.org,2002:seq" => .sequence
  | "tag:yaml.org,2002:map" => .mapping
  | "tag:yaml.org,2002:set" => .set
  | "tag:yaml.org,2002:omap" => .orderedMapping
  | "tag:yaml.org,2002:pairs" => .pairs
  | "tag:yaml.org,2002:merge" => .merge
  | "tag:yaml.org,2002:value" => .equals
  | _ => .other

/-- Whether the nodes of a type are collections. -/
def Tag.isCollection (tag : Tag) : Bool :=
  [.sequence, .mapping, .set, .orderedMapping, .pairs].contains tag

/-- Whether the nodes of a type are scalars. -/
def Tag.isScalar (tag : Tag) : Bool :=
  [.null, .boolean, .integer, .float, .text, .bytes, .timestamp].contains tag

/-! ## Shapes -/

/-- The text without a sign at its head. -/
def dropSign : List Char → List Char
  | '+' :: cs | '-' :: cs => cs
  | cs => cs

/-- Whether a sign stands at the head of the text and it is a minus sign. -/
def isNegative (cs : List Char) : Bool :=
  cs.head? == some '-'

/-- Whether the text is a non-empty run of a class of characters and underscores. -/
def isRun (p : Char → Bool) (cs : List Char) : Bool :=
  !cs.isEmpty && cs.all fun c => p c || c == '_'

/-- Whether the text starts with a decimal digit and goes on with digits and underscores. -/
def isNumberRun : List Char → Bool
  | c :: cs => c.isDigit && cs.all fun c => c.isDigit || c == '_'
  | [] => false

/-- Whether the text is a place of base sixty: one digit, or two of which the first is below six. -/
def isSixtieth : List Char → Bool
  | [a] => a.isDigit
  | [a, b] => '0' ≤ a && a ≤ '5' && b.isDigit
  | _ => false

/-- Whether the text is a number whose places of base sixty are separated by colons. -/
def isSexagesimal (cs : List Char) : Bool :=
  match Text.pieces ':' cs with
  | first :: second :: rest => isNumberRun first && (second :: rest).all isSixtieth
  | _ => false

/-- The words for a truth value. -/
def booleans : List (String × Bool) :=
  [("yes", true), ("Yes", true), ("YES", true), ("no", false), ("No", false), ("NO", false),
   ("true", true), ("True", true), ("TRUE", true), ("false", false), ("False", false),
   ("FALSE", false), ("on", true), ("On", true), ("ON", true), ("off", false), ("Off", false),
   ("OFF", false)]

/-- Whether the text, without its sign, has the shape of an integer. -/
def isUnsignedInteger : List Char → Bool
  | ['0'] => true
  | '0' :: 'b' :: cs => isRun (fun c => c == '0' || c == '1') cs
  | '0' :: 'x' :: cs => isRun (fun c => (Numeral.digit? 16 c).isSome) cs
  | '0' :: cs => isRun (fun c => '0' ≤ c && c ≤ '7') cs
  | cs => isNumberRun cs || isSexagesimal cs

/-- Whether the text is nothing, or an exponent with a sign. -/
def isExponent : List Char → Bool
  | [] => true
  | e :: sign :: cs =>
    (e == 'e' || e == 'E') && (sign == '+' || sign == '-') && !cs.isEmpty && cs.all Char.isDigit
  | _ => false

/-- Whether the text has the shape of a number with a point. -/
def isFloat (cs : List Char) : Bool :=
  let body := dropSign cs
  let whole := body.takeWhile (· != '.')
  match body.dropWhile (· != '.') with
  | [] => false
  | _ :: fraction =>
    let digit := fun c : Char => c.isDigit || c == '_'
    if whole.isEmpty then
      -- a fraction alone has no sign
      ["inf", "Inf", "INF"].contains (String.ofList fraction) ||
        (cs.head? == some '.' &&
          (["nan", "NaN", "NAN"].contains (String.ofList fraction) ||
            (fraction.head?.any Char.isDigit && isExponent (fraction.dropWhile digit))))
    else
      (isNumberRun whole && isExponent (fraction.dropWhile digit)) ||
        (isSexagesimal whole && fraction.all digit)

/-- The text as its shape is judged: a line break at its end does not count. -/
def withoutBreak (cs : List Char) : List Char :=
  if cs.getLast? = some '\n' then cs.dropLast else cs

/-- The type that a text has by its shape.  The indicators of a property and of an alias are of a
type of their own where they stand for themselves. -/
def resolve (text : String) : Tag :=
  let cs := withoutBreak text.toList
  let word := String.ofList cs
  if text = "" then .null
  else if cs.isEmpty then .text
  else if (booleans.lookup word).isSome then .boolean
  else if isFloat cs then .float
  else if isUnsignedInteger (dropSign cs) then .integer
  else if word = "<<" then .merge
  else if ["~", "null", "Null", "NULL"].contains word then .null
  else if Timestamp.isShape cs then .timestamp
  else if word = "=" then .equals
  else if ["!", "&", "*"].contains word then .other
  else .text

end Claw.Yaml
