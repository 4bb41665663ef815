import Claw.Numeral.Integer
import Claw.Numeral.Real
import Claw.Text.Word

/-!
# Numerals of any script

Where a text is declared to be a number it is read more freely than a literal: digits of any script
count, blanks may stand around the numeral, and an integer of an announced base may announce it once
more.

* `asciiForm`: a text with the digits and blanks of ASCII in place of all others;
* `signedInteger`: the integer that a text denotes in a base;
* `signedReal?`: the number that a text denotes.
-/

namespace Claw.Numeral

/-- The ASCII character that a character stands for in a numeral; one that has no place in a numeral
becomes a question mark. -/
def asciiChar (c : Char) : Char :=
  if c.toNat < 0x7F then c
  else if Text.isBlank c then ' '
  else
    match Text.decimalDigit? c with
    | some d => Char.ofNat (0x30 + d)
    | none => '?'

/-- The text with the digits and blanks of ASCII in place of all others. -/
def asciiForm (cs : List Char) : List Char :=
  cs.map asciiChar

/-- Whether the character may stand around a numeral. -/
def isMargin (c : Char) : Bool :=
  let n := c.toNat
  (0x9 ≤ n && n ≤ 0xD) || n == 0x20

/-- The text in ASCII, without the blanks around it. -/
def numeralIn (cs : List Char) : List Char :=
  (((asciiForm cs).dropWhile isMargin).reverse.dropWhile isMargin).reverse

/-- The text behind a sign, and whether the sign is a minus. -/
def splitSign : List Char → Bool × List Char
  | '-' :: cs => (true, cs)
  | '+' :: cs => (false, cs)
  | cs => (false, cs)

/-- The digits of a numeral without the announcement of the given base, if there is one. -/
def dropRadix (radix : Radix) (cs : List Char) : List Char :=
  match splitRadix cs with
  | (announced, rest) => if announced = radix then rest else cs

/-- Why a text denotes no integer. -/
inductive IntegerFault
  /-- There are no digits of the base, or other characters. -/
  | malformed
  /-- There are so many decimal digits that they are not read. -/
  | tooLong (digits : Nat)
  deriving DecidableEq, Repr

/-- The integer that a text denotes in a base; too great a number of digits is found out before what
stands behind them. -/
def signedInteger (radix : Radix) (cs : List Char) : Except IntegerFault Int :=
  let (negative, unsigned) := splitSign (numeralIn cs)
  let body := dropRadix radix unsigned
  let digits := (body.map (digit? radix.base)).takeWhile Option.isSome |>.filterMap id
  if digits.isEmpty then .error .malformed
  else if !isShortEnough radix digits.length then .error (.tooLong digits.length)
  else if digits.length != body.length then .error .malformed
  else
    let magnitude : Int := positional radix.base digits
    .ok (if negative then -magnitude else magnitude)

/-- The number that a text denotes. -/
def signedReal? (cs : List Char) : Option Real :=
  real? (numeralIn cs)

end Claw.Numeral
