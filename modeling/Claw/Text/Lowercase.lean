import Claw.Text.LowercaseTable

/-!
# Full lowercasing

Words of a configuration are compared in lowercase.  The mapping is the full one: `İ` becomes two
characters, and the capital sigma `Σ` has two forms, of which `ς` ends a word.

* `isCased`, `isCaseIgnorable`: what counts as a letter of a word, and what is passed over in the
  search for one;
* `sigma`: the form of a capital sigma between two texts;
* `lowerChar`: the lowercase form of any other character;
* `lower`: the lowercase form of a text;
* `lowercase`: the same on `String`.
-/

namespace Claw.Text

/-- Whether the code point is within one of the ranges. -/
def inRanges (ranges : List (Nat × Nat)) (n : Nat) : Bool :=
  ranges.any fun (first, last) => first ≤ n && n ≤ last

/-- Whether the character is passed over in the search for a letter. -/
def isCaseIgnorable (c : Char) : Bool :=
  let n := c.toNat
  if n < 0x80 then ['\'', '.', ':', '^', '\x60'].contains c else inRanges caseIgnorableRanges n

/-- Whether the character is a letter that has a case. -/
def isCased (c : Char) : Bool :=
  let n := c.toNat
  if n < 0x80 then (0x41 ≤ n && n ≤ 0x5A) || (0x61 ≤ n && n ≤ 0x7A) else inRanges casedRanges n

/-- Whether the first character that is not passed over has a case. -/
def meetsCased (cs : List Char) : Bool :=
  (cs.find? (!isCaseIgnorable ·)).any isCased

/-- The lowercase form of a capital sigma with the given texts before and behind it, the one before
read backwards: the final form where a word ends. -/
def sigma (before behind : List Char) : Char :=
  if meetsCased before && !meetsCased behind then 'ς' else 'σ'

/-- The lowercase form of one character, wherever it stands. -/
def lowerChar (c : Char) : List Char :=
  let n := c.toNat
  if n < 0x80 then
    [if 0x41 ≤ n && n ≤ 0x5A then Char.ofNat (n + 0x20) else c]
  else if c = 'İ' then ['i', '\u0307']
  else [(moveBy? lowercaseRuns n).getD c]

/-- The lowercase form of a text behind another one, which is read backwards. -/
def lowerBehind (before : List Char) : List Char → List Char
  | [] => []
  | c :: cs =>
    (if c = 'Σ' then [sigma before cs] else lowerChar c) ++ lowerBehind (c :: before) cs

/-- The lowercase form of a text. -/
def lower (cs : List Char) : List Char :=
  lowerBehind [] cs

/-- The lowercase form of a string. -/
def lowercase (s : String) : String :=
  String.ofList (lower s.toList)

end Claw.Text
