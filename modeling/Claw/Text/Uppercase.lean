import Claw.Text.UppercaseTable

/-!
# Full uppercasing

Names in source text are compared in uppercase.  The mapping is the full one, without regard to
position or language: one character may become two or three (`ß` becomes `SS`), and characters
outside ASCII may land inside it (`ſ` becomes `S`, `ı` becomes `I`).

* `upperChar`: the uppercase form of one character;
* `upper`: the uppercase form of a text;
* `uppercase`: the same on `String`.
-/

namespace Claw.Text

/-- The uppercase form of one character, a non-empty sequence. -/
def upperChar (c : Char) : List Char :=
  let n := c.toNat
  if n < 0x80 then
    [if 0x61 ≤ n && n ≤ 0x7A then Char.ofNat (n - 0x20) else c]
  else
    match caseExpansions.lookup n with
    | some codes => codes.map Char.ofNat
    | none => [(moveBy? caseRuns n).getD c]

/-- The uppercase form of a text. -/
def upper (cs : List Char) : List Char :=
  cs.flatMap upperChar

/-- The uppercase form of a string. -/
def uppercase (s : String) : String :=
  String.ofList (upper s.toList)

end Claw.Text
