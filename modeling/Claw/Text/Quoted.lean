import Claw.Numeral.Decimal
import Claw.Text.PrintTable

/-!
# Quoted text

A text is quoted in messages between single quotes, or between double quotes if it holds a single
quote and no double one.  The backslash, the quote in use and every character without a visible form
are escaped; every other character stands for itself.

* `isPrintable`: whether a character has a visible form; a space has one;
* `quoted`: a string between quotes;
* `quotedBytes`: bytes between quotes, where a byte beyond ASCII has no visible form.
-/

namespace Claw.Text

/-- Whether the character has a visible form. -/
def isPrintable (c : Char) : Bool :=
  let n := c.toNat
  if n < 0x80 then 0x20 ≤ n && n < 0x7F
  else unprintableRanges.all fun (first, last) => n < first || last < n

/-- The quote that suits a text. -/
def quoteFor (cs : List Char) : Char :=
  if cs.contains '\'' && !cs.contains '"' then '"' else '\''

/-- The escape of a character by its code point, as short as it allows. -/
def codeEscape (n : Nat) : List Char :=
  if n < 0x100 then '\\' :: 'x' :: Numeral.paddedDigits 16 2 n
  else if n < 0x10000 then '\\' :: 'u' :: Numeral.paddedDigits 16 4 n
  else '\\' :: 'U' :: Numeral.paddedDigits 16 8 n

/-- A character as it stands between the given quotes. -/
def quotedChar (quote c : Char) : List Char :=
  if c = quote ∨ c = '\\' then ['\\', c]
  else if c = '\n' then ['\\', 'n']
  else if c = '\r' then ['\\', 'r']
  else if c = '\t' then ['\\', 't']
  else if isPrintable c then [c]
  else codeEscape c.toNat

/-- A string between quotes. -/
def quoted (s : String) : String :=
  let cs := s.toList
  let quote := quoteFor cs
  String.ofList (quote :: cs.flatMap (quotedChar quote) ++ [quote])

/-- Bytes between quotes, behind the letter `b`. -/
def quotedBytes (bytes : List UInt8) : String :=
  -- a byte is written like the character of its number, if that is in ASCII
  let cs := bytes.map fun byte => Char.ofNat byte.toNat
  let quote := quoteFor cs
  let written := cs.flatMap fun c =>
    if c.toNat < 0x80 then quotedChar quote c else codeEscape c.toNat
  String.ofList ('b' :: quote :: written ++ [quote])

end Claw.Text
