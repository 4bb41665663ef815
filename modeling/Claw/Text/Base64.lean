import Claw.Numeral.Digits

/-!
# Base 64

Bytes as text: three bytes are four characters of an alphabet of sixty-four.  One or two bytes at
the end are two or three characters, and equals signs fill the group.

Reading is lenient.  Characters outside the alphabet are passed over, so are equals signs where no
group can end, and nothing behind a filled group counts; but a group left open is refused.

* `sextet?`: the number that a character stands for;
* `groupBytes`: the bytes of a group;
* `decodeBase64`: the bytes that a text denotes.
-/

namespace Claw.Text

/-- The number below sixty-four that a character stands for. -/
def sextet? (c : Char) : Option Nat :=
  let n := c.toNat
  if 0x41 ≤ n ∧ n ≤ 0x5A then some (n - 0x41)
  else if 0x61 ≤ n ∧ n ≤ 0x7A then some (n - 0x61 + 26)
  else if 0x30 ≤ n ∧ n ≤ 0x39 then some (n - 0x30 + 52)
  else if c = '+' then some 62
  else if c = '/' then some 63
  else none

/-- The bytes of a group of two to four characters, one fewer than there are characters; the bits
left over count for nothing. -/
def groupBytes (group : List Nat) : List UInt8 :=
  let value := Numeral.positional 64 (group ++ List.replicate (4 - group.length) 0)
  [value / 0x10000, value / 0x100, value].take (group.length - 1) |>.map UInt8.ofNat

/-- The bytes that a text denotes behind the given characters of an open group and the equals signs
that have filled it so far. -/
def decodeGroups (group : List Nat) (filled : Nat) : List Char → Option (List UInt8)
  | [] => if group.isEmpty then some [] else none
  | c :: cs =>
    if c = '=' then
      if group.length < 2 then decodeGroups group filled cs
      else if 4 ≤ group.length + filled + 1 then some (groupBytes group)
      else decodeGroups group (filled + 1) cs
    else
      match sextet? c with
      | none => decodeGroups group filled cs
      | some sextet =>
        let group := group ++ [sextet]
        if group.length < 4 then decodeGroups group 0 cs
        else (decodeGroups [] 0 cs).map (groupBytes group ++ ·)

/-- The bytes that a text denotes, unless a group is left open. -/
def decodeBase64 (cs : List Char) : Option (List UInt8) :=
  decodeGroups [] 0 cs

end Claw.Text
