import Claw.Text.Blank

/-!
# Comments

A comment starts at a semicolon that does not directly follow a backslash, and ends before the next
line break.  A backslash keeps the semicolon behind it, and goes away once the comments are gone.

* `Reading` and `dropComments`: one pass over a text, which remembers whether it is within a comment
  and whether the character before was a backslash;
* `unescape`: drops the backslash of every escaped semicolon;
* `bare`: both, and then the blank margins; `bareText` is the same on `String`.
-/

namespace Claw.Source

/-- Where a pass over source text stands. -/
inductive Reading
  /-- In code, with a backslash as the last character or without. -/
  | code (afterBackslash : Bool)
  /-- Within a comment. -/
  | comment
  deriving DecidableEq, Repr

/-- The text without its comments, read on from the given state. -/
def dropComments : Reading → List Char → List Char
  | _, [] => []
  | .comment, c :: cs =>
    if c = '\n' then c :: dropComments (.code false) cs else dropComments .comment cs
  | .code afterBackslash, c :: cs =>
    if c = ';' ∧ afterBackslash = false then dropComments .comment cs
    else c :: dropComments (.code (c == '\\')) cs

/-- Drops the backslash of every escaped semicolon. -/
def unescape : List Char → List Char
  | [] => []
  | '\\' :: ';' :: cs => ';' :: unescape cs
  | c :: cs => c :: unescape cs

/-- The text without comments, escapes of semicolons and blank margins. -/
def bare (cs : List Char) : List Char :=
  Text.trim (unescape (dropComments (.code false) cs))

/-- The text without comments, escapes of semicolons and blank margins. -/
def bareText (text : String) : String :=
  String.ofList (bare text.toList)

end Claw.Source
