/-!
# Reading positions

A `Cursor` is a place in a text: the characters that are left, how many came before, and line and
column.  Columns decide the structure of a document, so they are counted in characters; a byte order
mark has no width.

The character classes are those of YAML: five line breaks, of which a carriage return and a line
feed count as one, and the two blanks.  They are given for the next character, which is `none` at
the end of the text; most places that a blank or a break may end, the end of the text may end too.
-/

namespace Claw.Yaml

/-! ## Character classes -/

/-- Whether the character breaks a line. -/
def isBreak (c : Char) : Bool :=
  c == '\r' || c == '\n' || c == '\u0085' || c == '\u2028' || c == '\u2029'

/-- Whether a line or the text ends here. -/
def endsLine : Option Char → Bool
  | none => true
  | some c => isBreak c

/-- Whether a space follows, or a line or the text ends here. -/
def endsWord : Option Char → Bool
  | none => true
  | some c => c == ' ' || isBreak c

/-- Whether a space or tab follows, or a line or the text ends here. -/
def endsField : Option Char → Bool
  | none => true
  | some c => c == ' ' || c == '\t' || isBreak c

/-- Whether the character may stand in the name of an anchor. -/
def isNameChar (c : Char) : Bool :=
  c.isAlphanum || c == '-' || c == '_'

/-- Whether the character may stand in a text at all. -/
def isPrintable (c : Char) : Bool :=
  let n := c.toNat
  n == 0x9 || n == 0xA || n == 0xD || (0x20 ≤ n && n ≤ 0x7E) || n == 0x85 ||
    (0xA0 ≤ n && n ≤ 0xD7FF) || (0xE000 ≤ n && n ≤ 0xFFFD) || 0x10000 ≤ n

/-! ## Cursors -/

/-- A place in a text. -/
structure Cursor where
  rest : List Char
  index : Nat
  line : Nat
  column : Nat

namespace Cursor

/-- The beginning of a text. -/
def start (text : List Char) : Cursor := ⟨text, 0, 0, 0⟩

/-- The next character. -/
def peek (cursor : Cursor) : Option Char :=
  cursor.rest.head?

/-- The character so many places behind the next one. -/
def peekAt (cursor : Cursor) (n : Nat) : Option Char :=
  cursor.rest[n]?

/-- The place behind the next character. -/
def next (cursor : Cursor) : Cursor :=
  match cursor.rest with
  | [] => cursor
  | c :: rest =>
    let breaks := c == '\n' || c == '\u0085' || c == '\u2028' || c == '\u2029' ||
      (c == '\r' && rest.head? != some '\n')
    if breaks then ⟨rest, cursor.index + 1, cursor.line + 1, 0⟩
    else if c == '\uFEFF' then { cursor with rest, index := cursor.index + 1 }
    else ⟨rest, cursor.index + 1, cursor.line, cursor.column + 1⟩

/-- The place so many characters on. -/
def skip (cursor : Cursor) : Nat → Cursor
  | 0 => cursor
  | n + 1 => cursor.next.skip n

/-- The characters of a class that follow. -/
def run (cursor : Cursor) (p : Char → Bool) : List Char :=
  cursor.rest.takeWhile p

/-- The place behind the characters of a class that follow. -/
def behind (cursor : Cursor) (p : Char → Bool) : Cursor :=
  cursor.skip (cursor.run p).length

/-- The place behind the spaces that follow. -/
def behindSpaces (cursor : Cursor) : Cursor :=
  cursor.behind (· == ' ')

/-- The place behind a comment, if one follows. -/
def behindComment (cursor : Cursor) : Cursor :=
  if cursor.peek = some '#' then cursor.behind (!isBreak ·) else cursor

/-- The line break that follows, as it counts in a text, and the place behind it. -/
def lineBreak? (cursor : Cursor) : Option (Char × Cursor) :=
  match cursor.rest with
  | '\r' :: '\n' :: _ => some ('\n', cursor.skip 2)
  | c :: _ =>
    if c == '\u2028' || c == '\u2029' then some (c, cursor.next)
    else if isBreak c then some ('\n', cursor.next)
    else none
  | [] => none

/-- Whether the three characters follow, and then a blank, a break or the end. -/
def marks (cursor : Cursor) (c : Char) : Bool :=
  match cursor.rest with
  | x :: y :: z :: rest => x == c && y == c && z == c && endsField rest.head?
  | _ => false

/-- Whether a marker between documents follows. -/
def marksDocument (cursor : Cursor) : Bool :=
  cursor.marks '-' || cursor.marks '.'

end Cursor

end Claw.Yaml
