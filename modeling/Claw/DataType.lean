import Claw.Text.Blank
import Claw.Text.Uppercase

/-!
# Data types

A data directive is written `.DB` and a suffix, which selects one of eight types: integers of three
widths with and without sign, single-precision numbers, and strings.

* `IntegerType`: width and sign of an integer type, its range and its name;
* `DataType`: any type; `DataType.ofSuffix?` finds the type of a suffix in any case.
-/

namespace Claw

/-- The widths of integers. -/
inductive Width
  | byte
  | half
  | word
  deriving DecidableEq, Repr

/-- The number of bytes of a width. -/
def Width.bytes : Width → Nat
  | .byte => 1
  | .half => 2
  | .word => 4

/-- The number of bits of a width. -/
def Width.bits (width : Width) : Nat :=
  8 * width.bytes

/-- The number of bits of a width, written out. -/
def Width.label : Width → String
  | .byte => "8"
  | .half => "16"
  | .word => "32"

/-- An integer type. -/
structure IntegerType where
  signed : Bool
  width : Width
  deriving DecidableEq, Repr

namespace IntegerType

/-- The least value of the type. -/
def minimum (type : IntegerType) : Int :=
  if type.signed then -(Nat.pow 2 (type.width.bits - 1) : Int) else 0

/-- The greatest value of the type. -/
def maximum (type : IntegerType) : Int :=
  if type.signed then (Nat.pow 2 (type.width.bits - 1) : Int) - 1
  else (Nat.pow 2 type.width.bits : Int) - 1

/-- Whether a value is within the range of the type. -/
def admits (type : IntegerType) (value : Int) : Bool :=
  type.minimum ≤ value && value ≤ type.maximum

/-- The suffix that selects the type. -/
def suffix (type : IntegerType) : String :=
  type.width.label ++ if type.signed then "" else "U"

/-- The name of the type. -/
def name (type : IntegerType) : String :=
  (if type.signed then "INT" else "UINT") ++ type.width.label

end IntegerType

/-- The types a data directive can declare. -/
inductive DataType
  | integer (type : IntegerType)
  | single
  | string
  deriving DecidableEq, Repr

namespace DataType

/-- Every type: the integers by width, the signed one first, then the others. -/
def all : List DataType :=
  [.integer ⟨true, .byte⟩, .integer ⟨false, .byte⟩,
   .integer ⟨true, .half⟩, .integer ⟨false, .half⟩,
   .integer ⟨true, .word⟩, .integer ⟨false, .word⟩,
   .single, .string]

/-- The suffix that selects the type. -/
def suffix : DataType → String
  | .integer type => type.suffix
  | .single => "F"
  | .string => "S"

/-- The name of the type. -/
def name : DataType → String
  | .integer type => type.name
  | .single => "FLOAT32"
  | .string => "STRING"

/-- The directive that declares data of the type. -/
def directive (type : DataType) : String :=
  ".DB" ++ type.suffix

/-- The number of bytes of a value, which a string does not fix. -/
def bytes? : DataType → Option Nat
  | .integer type => some type.width.bytes
  | .single => some 4
  | .string => none

/-- The integer type, if the type is one. -/
def integer? : DataType → Option IntegerType
  | .integer type => some type
  | _ => none

/-- The type that a suffix selects, in any case and with blank margins. -/
def ofSuffix? (s : String) : Option DataType :=
  all.find? (·.suffix == Text.trimmed (Text.uppercase s))

end DataType

end Claw
