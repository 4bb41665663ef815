import Claw.Numeral.Decimal
import Claw.Numeral.Digits
import Claw.Text.Blank

/-!
# Integer numerals

The grammar of an integer, read from a text without blank margins:

* a character between single quotes, which stands for its code point;
* an optional minus sign, which blanks may follow, and a natural number: hexadecimal behind `0x`,
  binary behind `0b`, octal behind `0o` (the letter in either case), and decimal otherwise.

A single underscore may stand between two digits and right behind the letter of the base.  Leading
zeros count for nothing but the limit: a decimal numeral has at most `digitLimit` digits, zeros
included and underscores not.  There is no plus sign.
-/

namespace Claw.Numeral

/-- The bases in which an integer can be written. -/
inductive Radix
  | binary
  | octal
  | decimal
  | hexadecimal
  deriving DecidableEq, Repr

/-- The number of digits of a base. -/
def Radix.base : Radix → Nat
  | .binary => 2
  | .octal => 8
  | .decimal => 10
  | .hexadecimal => 16

/-- The base that the head of a numeral announces, and the text behind the announcement. -/
def splitRadix : List Char → Radix × List Char
  | '0' :: 'b' :: cs | '0' :: 'B' :: cs => (.binary, cs)
  | '0' :: 'o' :: cs | '0' :: 'O' :: cs => (.octal, cs)
  | '0' :: 'x' :: cs | '0' :: 'X' :: cs => (.hexadecimal, cs)
  | cs => (.decimal, cs)

/-- The digit text of a numeral without the underscore that may follow an announced base. -/
def dropJoint (radix : Radix) : List Char → List Char
  | '_' :: cs => if radix = .decimal then '_' :: cs else cs
  | cs => cs

/-- Whether a numeral of so many digits is within the limit of its base. -/
def isShortEnough (radix : Radix) (count : Nat) : Bool :=
  radix != .decimal || count ≤ digitLimit

/-- The value of a numeral without sign. -/
def natural? (body : List Char) : Option Nat :=
  let (radix, digits) := splitRadix body
  match takeDigits radix.base (dropJoint radix digits) with
  | (d :: ds, []) =>
    if isShortEnough radix (d :: ds).length then some (positional radix.base (d :: ds)) else none
  | _ => none

/-- The value of an integer numeral. -/
def integer? : List Char → Option Int
  | ['\'', c, '\''] => some c.toNat
  | '-' :: body => (natural? (Text.trim body)).map fun n => -(n : Int)
  | body => (natural? body).map fun n => (n : Int)

/-- The digits of a natural number in base sixteen, behind `0x`. -/
def hexText (n : Int) : String :=
  (if n < 0 then "-0x" else "0x") ++ String.ofList (Nat.toDigits 16 n.natAbs)

end Claw.Numeral
