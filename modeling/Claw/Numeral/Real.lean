import Claw.Numeral.Digits

/-!
# Real numerals

The grammar of a number with a fraction or an exponent, read from a text without blank margins: an
optional sign, then `inf`, `infinity` or `nan` in any case, or decimal digits with at most one point
before, among or behind them, and an optional exponent with an optional sign.  A single underscore
may stand between two digits.

The reading is exact: `coefficient` times ten to the power `exponent`.  Which representable number
stands for it is decided by `Claw.Binary`.
-/

namespace Claw.Numeral

/-- What a real numeral denotes. -/
inductive Real
  | nan
  | infinity (negative : Bool)
  | number (negative : Bool) (coefficient : Nat) (exponent : Int)
  deriving DecidableEq, Repr

/-- The whole text as a run of decimal digits. -/
def allDigits? (cs : List Char) : Option Nat :=
  match takeDigits 10 cs with
  | (d :: ds, []) => some (positional 10 (d :: ds))
  | _ => none

/-- The value of an exponent without the letter before it. -/
def signedDigits? : List Char → Option Int
  | '+' :: cs => (allDigits? cs).map fun n => (n : Int)
  | '-' :: cs => (allDigits? cs).map fun n => -(n : Int)
  | cs => (allDigits? cs).map fun n => (n : Int)

/-- The value of what follows the digits of a number: nothing, or an exponent. -/
def exponent? : List Char → Option Int
  | [] => some 0
  | 'e' :: cs | 'E' :: cs => signedDigits? cs
  | _ => none

/-- The digits of the fraction and the text behind them. -/
def takeFraction : List Char → List Nat × List Char
  | '.' :: cs => takeDigits 10 cs
  | cs => ([], cs)

/-- The number that a text without sign denotes. -/
def unsignedNumber? (negative : Bool) (cs : List Char) : Option Real :=
  let (whole, behind) := takeDigits 10 cs
  let (fraction, behind) := takeFraction behind
  if whole.isEmpty && fraction.isEmpty then none
  else
    (exponent? behind).map fun e =>
      .number negative (positional 10 (whole ++ fraction)) (e - fraction.length)

/-- What a text without sign denotes. -/
def unsignedReal? (negative : Bool) (cs : List Char) : Option Real :=
  let word := String.ofList (cs.map Char.toLower)
  if word = "nan" then some .nan
  else if word = "inf" ∨ word = "infinity" then some (.infinity negative)
  else unsignedNumber? negative cs

/-- What a real numeral denotes. -/
def real? : List Char → Option Real
  | '+' :: cs => unsignedReal? false cs
  | '-' :: cs => unsignedReal? true cs
  | cs => unsignedReal? false cs

end Claw.Numeral
