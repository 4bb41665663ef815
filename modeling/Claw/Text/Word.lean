import Claw.Text.WordTable

/-!
# Word characters and decimal digits

A *word character* is an underscore, a letter, a decimal digit of any script, or another character
with a numeric value (`²`, `½`, `Ⅳ`); combining marks are none.  Mnemonics, label names and
definition names are made of word characters.

A *decimal digit* is a digit of any script that writes numbers in base ten.  Value lists admit all
of them, although only the ASCII ones make up a literal; `decimalDigit?` gives the value of any.

ASCII is decided by comparison, so that facts about ordinary source text never reach the table.
-/

namespace Claw.Text

/-- Whether the character may stand in a mnemonic or a name. -/
def isWord (c : Char) : Bool :=
  let n := c.toNat
  if n < 0x80 then
    (0x30 ≤ n && n ≤ 0x39) || (0x41 ≤ n && n ≤ 0x5A) || n == 0x5F || (0x61 ≤ n && n ≤ 0x7A)
  else
    wordRanges.any fun (first, last) => first ≤ n && n ≤ last

/-- Whether the character is a decimal digit of some script. -/
def isDecimalDigit (c : Char) : Bool :=
  let n := c.toNat
  if n < 0x80 then
    0x30 ≤ n && n ≤ 0x39
  else
    decimalZeros.any fun start => start ≤ n && n < start + 10

/-- The value of a decimal digit of any script. -/
def decimalDigit? (c : Char) : Option Nat :=
  let n := c.toNat
  if n < 0x80 then
    if 0x30 ≤ n ∧ n ≤ 0x39 then some (n - 0x30) else none
  else
    (decimalZeros.find? fun start => start ≤ n && n < start + 10).map fun start => n - start

end Claw.Text
