/-!
# Digits and positional values

What every numeral is made of.

* `digit?`: the value of an ASCII digit or letter in a base;
* `takeDigits`: the longest digit run at the head of a text, in which single underscores may stand
  between two digits;
* `positional`: the value of a digit sequence.
-/

namespace Claw.Numeral

/-- The value of a digit, where letters of either case count on from ten. -/
def digit? (base : Nat) (c : Char) : Option Nat :=
  let n := c.toNat
  let value? :=
    if 0x30 ≤ n ∧ n ≤ 0x39 then some (n - 0x30)
    else if 0x41 ≤ n ∧ n ≤ 0x5A then some (n - 0x41 + 10)
    else if 0x61 ≤ n ∧ n ≤ 0x7A then some (n - 0x61 + 10)
    else none
  value?.filter (· < base)

/-- The values of the digits at the head of the text, and the text behind them.  An underscore is
skipped when it stands between two digits, and ends the run otherwise. -/
def takeDigits (base : Nat) : List Char → List Nat × List Char
  | [] => ([], [])
  | c :: '_' :: next :: rest =>
    match digit? base c with
    | none => ([], c :: '_' :: next :: rest)
    | some d =>
      if (digit? base next).isSome then (takeDigits base (next :: rest)).map (d :: ·) id
      else ([d], '_' :: next :: rest)
  | c :: cs =>
    match digit? base c with
    | none => ([], c :: cs)
    | some d => (takeDigits base cs).map (d :: ·) id

/-- The value of a digit sequence, most significant digit first. -/
def positional (base : Nat) (digits : List Nat) : Nat :=
  digits.foldl (fun value d => value * base + d) 0

end Claw.Numeral
