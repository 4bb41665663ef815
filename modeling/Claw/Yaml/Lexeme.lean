import Claw.Numeral.Digits
import Claw.Text.Utf8
import Claw.Yaml.Cursor
import Claw.Yaml.Failure
import Claw.Yaml.Token

/-!
# YAML lexemes

How the pieces of a YAML text are spelled: each function reads one piece at a cursor and returns it
with the place behind it.

* `quotedScalar`, `plainScalar`, `blockScalar`: the spellings of a scalar;
* `anchorName`, `tagProperty`, `declaration`: anchors and aliases, tags, directive lines.

A text consists of characters, and half of a surrogate pair is none.  So two escapes for the halves
of a pair stand for one character, and an escape for half of one alone for the replacement
character.  This can be seen in no setting, only in a complaint about an unknown key that was written
with such escapes.

Line breaks within a scalar fold: a single one counts as a space, and of several the first counts
for nothing.  The loops take the number of characters that are left as their bound; every round of a
loop reads at least one.
-/

namespace Claw.Yaml

/-- The value of a sequence of hexadecimal digits of the given length. -/
def hexValue? (count : Nat) (cs : List Char) : Option Nat :=
  let digits := (cs.take count).filterMap (Numeral.digit? 16)
  if digits.length = count then some (Numeral.positional 16 digits) else none

/-- The character of a code point; one that is no scalar value has the replacement character. -/
def scalarValue (code : Nat) : Char :=
  if h : code.isValidChar then Char.ofNatAux code h else '\uFFFD'

/-- A folded line break: the break, unless it is an ordinary one, and then the breaks behind it, or
a space for an ordinary break alone. -/
def fold (first : Char) (breaks : List Char) : List Char :=
  if first != '\n' then first :: breaks
  else if breaks.isEmpty then [' ']
  else breaks

/-! ## Quoted scalars -/

/-- The characters that a single letter denotes behind a backslash. -/
def escapes : List (Char × Char) :=
  [('0', '\u0000'), ('a', '\u0007'), ('b', '\u0008'), ('t', '\t'), ('\t', '\t'), ('n', '\n'),
   ('v', '\u000B'), ('f', '\u000C'), ('r', '\r'), ('e', '\u001B'), (' ', ' '), ('"', '"'),
   ('\\', '\\'), ('/', '/'), ('N', '\u0085'), ('_', '\u00A0'), ('L', '\u2028'), ('P', '\u2029')]

/-- How many hexadecimal digits follow a letter behind a backslash. -/
def escapeLengths : List (Char × Nat) :=
  [('x', 2), ('u', 4), ('U', 8)]

/-- The line breaks that follow within a quoted scalar, each with blanks before it. -/
def quotedBreaks : Nat → Cursor → Except Failure (List Char × Cursor)
  | 0, _ => .error .malformed
  | fuel + 1, cursor =>
    if cursor.marksDocument then .error .malformed
    else
      let cursor := cursor.behind fun c => c == ' ' || c == '\t'
      match cursor.lineBreak? with
      | some (c, cursor) => do
        let (breaks, cursor) ← quotedBreaks fuel cursor
        pure (c :: breaks, cursor)
      | none => .ok ([], cursor)

/-- The code point that an escape gives by its number, and the place behind it; the cursor stands
behind the backslash. -/
def numberedEscape? (cursor : Cursor) : Option (Nat × Cursor) := do
  let length ← escapeLengths.lookup (← cursor.peek)
  let code ← hexValue? length cursor.next.rest
  pure (code, cursor.next.skip length)

/-- The code point for which two halves of a pair stand, and the place behind the second half; the
cursor stands behind the first. -/
def pairedEscape? (first : Nat) (cursor : Cursor) : Option (Nat × Cursor) := do
  guard (0xD800 ≤ first ∧ first < 0xDC00 ∧ cursor.peek = some '\\')
  let (second, behind) ← numberedEscape? cursor.next
  guard (0xDC00 ≤ second ∧ second < 0xE000)
  pure (0x10000 + (first - 0xD800) * 0x400 + (second - 0xDC00), behind)

/-- What an escape in a double-quoted scalar denotes; the cursor stands behind the backslash. -/
def escape (fuel : Nat) (cursor : Cursor) : Except Failure (List Char × Cursor) :=
  match cursor.peek with
  | none => .error .malformed
  | some c =>
    match escapes.lookup c with
    | some denoted => .ok ([denoted], cursor.next)
    | none =>
      if (escapeLengths.lookup c).isSome then
        match numberedEscape? cursor with
        | none => .error .malformed
        | some (code, behind) =>
          if 0x10FFFF < code then .error (.scalar .codePoint)
          else
            let (code, behind) := (pairedEscape? code behind).getD (code, behind)
            .ok ([scalarValue code], behind)
      else
        match cursor.lineBreak? with
        | some (_, cursor) => quotedBreaks fuel cursor
        | none => .error .malformed

/-- The rest of a quoted scalar. -/
def quotedRest (quote : Char) : Nat → Cursor → Except Failure (List Char × Cursor)
  | 0, _ => .error .malformed
  | fuel + 1, cursor =>
    match cursor.rest with
    | [] => .error .malformed
    | c :: rest =>
      if c == quote then
        if quote == '\'' && rest.head? == some '\'' then do
          let (text, cursor) ← quotedRest quote fuel (cursor.skip 2)
          pure ('\'' :: text, cursor)
        else .ok ([], cursor.next)
      else if c == '\\' && quote == '"' then do
        let (denoted, cursor) ← escape (fuel + 1) cursor.next
        let (text, cursor) ← quotedRest quote fuel cursor
        pure (denoted ++ text, cursor)
      else if c == ' ' || c == '\t' || isBreak c then do
        let blanks := cursor.run fun c => c == ' ' || c == '\t'
        let cursor := cursor.skip blanks.length
        match cursor.lineBreak? with
        | some (first, cursor) =>
          let (breaks, cursor) ← quotedBreaks (fuel + 1) cursor
          let (text, cursor) ← quotedRest quote fuel cursor
          pure (fold first breaks ++ text, cursor)
        | none =>
          if cursor.peek.isNone then .error .malformed
          else
            let (text, cursor) ← quotedRest quote fuel cursor
            pure (blanks ++ text, cursor)
      else do
        let (text, cursor) ← quotedRest quote fuel cursor.next
        pure (c :: text, cursor)

/-- A scalar between quotes; the cursor stands at the opening quote. -/
def quotedScalar (quote : Char) (cursor : Cursor) : Except Failure (String × Cursor) := do
  let (text, cursor) ← quotedRest quote (cursor.rest.length + 1) cursor.next
  pure (String.ofList text, cursor)

/-! ## Plain scalars -/

/-- The characters of a plain scalar up to a blank, a break or an indicator that ends it. -/
def plainRun (flow : Bool) : List Char → List Char
  | [] => []
  | c :: cs =>
    let ends := c == ' ' || c == '\t' || isBreak c ||
      (c == ':' && (endsField cs.head? ||
        (flow && (cs.head?.any fun d => [',', '[', ']', '{', '}'].contains d)))) ||
      (flow && [',', '?', '[', ']', '{', '}'].contains c)
    if ends then [] else c :: plainRun flow cs

/-- The breaks that follow a first break within a plain scalar, each with spaces before it; nothing
if a marker between documents follows one of them. -/
def plainBreaks : Nat → Cursor → Option (List Char) × Cursor
  | 0, cursor => (none, cursor)
  | fuel + 1, cursor =>
    if cursor.marksDocument then (none, cursor)
    else
      match cursor.behindSpaces.lineBreak? with
      | some (c, cursor) =>
        let (breaks, cursor) := plainBreaks fuel cursor
        (breaks.map (c :: ·), cursor)
      | none => (some [], cursor.behindSpaces)

/-- What separates two parts of a plain scalar, the place behind it, and whether it breaks a line;
nothing if the scalar ends. -/
def plainGap (cursor : Cursor) : List Char × Cursor × Bool :=
  let spaces := cursor.run (· == ' ')
  let behind := cursor.skip spaces.length
  match behind.lineBreak? with
  | none => (spaces, behind, false)
  | some (first, behind) =>
    match plainBreaks (behind.rest.length + 1) behind with
    | (some breaks, behind) => (fold first breaks, behind, true)
    | (none, behind) => ([], behind, true)

/-- The rest of a plain scalar behind a gap, the place behind it, and whether a simple key may
follow. -/
def plainRest (flow : Bool) (indent : Int) :
    Nat → List Char → Bool → Cursor → List Char × Cursor × Bool
  | 0, _, keyAllowed, cursor => ([], cursor, keyAllowed)
  | fuel + 1, gap, keyAllowed, cursor =>
    let run := plainRun flow cursor.rest
    if cursor.peek == some '#' || run.isEmpty then ([], cursor, keyAllowed)
    else
      let (nextGap, behind, breaks) := plainGap (cursor.skip run.length)
      if nextGap.isEmpty || behind.peek == some '#' || (!flow && behind.column < indent) then
        (gap ++ run, behind, breaks)
      else
        let (text, behind, keyAllowed) := plainRest flow indent fuel nextGap breaks behind
        (gap ++ run ++ text, behind, keyAllowed)

/-- A plain scalar, the place behind it, and whether a simple key may follow. -/
def plainScalar (flow : Bool) (indent : Int) (cursor : Cursor) : String × Cursor × Bool :=
  let (text, behind, keyAllowed) := plainRest flow indent (cursor.rest.length + 1) [] false cursor
  (String.ofList text, behind, keyAllowed)

/-! ## Block scalars -/

/-- What happens to the line breaks at the end of a block scalar. -/
inductive Chomping
  /-- One is kept. -/
  | clip
  /-- None is kept. -/
  | strip
  /-- All are kept. -/
  | keep
  deriving DecidableEq, Repr

/-- The chomping indicator that follows, and the place behind it. -/
def chompingIndicator? (cursor : Cursor) : Option (Chomping × Cursor) :=
  match cursor.peek with
  | some '+' => some (.keep, cursor.next)
  | some '-' => some (.strip, cursor.next)
  | _ => none

/-- The indentation indicator that follows, and the place behind it. -/
def indentIndicator? (cursor : Cursor) : Option (Nat × Cursor) :=
  (cursor.peek.bind (Numeral.digit? 10)).map fun n => (n, cursor.next)

/-- The indicators of a block scalar, in either order. -/
def blockIndicators (cursor : Cursor) : Chomping × Option Nat × Cursor :=
  match chompingIndicator? cursor with
  | some (chomping, cursor) =>
    match indentIndicator? cursor with
    | some (n, cursor) => (chomping, some n, cursor)
    | none => (chomping, none, cursor)
  | none =>
    match indentIndicator? cursor with
    | some (n, cursor) =>
      match chompingIndicator? cursor with
      | some (chomping, cursor) => (chomping, some n, cursor)
      | none => (.clip, some n, cursor)
    | none => (.clip, none, cursor)

/-- The place behind the rest of a line that may hold a comment and nothing else. -/
def behindLine (cursor : Cursor) : Except Failure Cursor :=
  let cursor := cursor.behindSpaces.behindComment
  match cursor.lineBreak? with
  | some (_, cursor) => .ok cursor
  | none => if cursor.peek.isNone then .ok cursor else .error .malformed

/-- The breaks before the first line of a block scalar, the greatest column reached among them, and
the place behind them. -/
def leadingBreaks : Nat → Nat → Cursor → List Char × Nat × Cursor
  | 0, widest, cursor => ([], widest, cursor)
  | fuel + 1, widest, cursor =>
    if cursor.peek == some ' ' then
      leadingBreaks fuel (max widest cursor.next.column) cursor.next
    else
      match cursor.lineBreak? with
      | some (c, cursor) =>
        let (breaks, widest, cursor) := leadingBreaks fuel widest cursor
        (c :: breaks, widest, cursor)
      | none => ([], widest, cursor)

/-- The place behind the spaces that follow, up to a column. -/
def behindIndent (indent : Nat) (cursor : Cursor) : Cursor :=
  cursor.skip (min (indent - cursor.column) (cursor.run (· == ' ')).length)

/-- The breaks between lines of a block scalar of the given indentation. -/
def blockBreaks (indent : Nat) : Nat → Cursor → List Char × Cursor
  | 0, cursor => ([], cursor)
  | fuel + 1, cursor =>
    let cursor := behindIndent indent cursor
    match cursor.lineBreak? with
    | some (c, cursor) =>
      let (breaks, cursor) := blockBreaks indent fuel cursor
      (c :: breaks, cursor)
    | none => ([], cursor)

/-- Whether a blank follows. -/
def blankFollows (cursor : Cursor) : Bool :=
  cursor.peek == some ' ' || cursor.peek == some '\t'

/-- The lines of a block scalar behind the breaks before them, without the breaks at its end, which
are returned apart. -/
def blockLines (folded : Bool) (indent : Nat) :
    Nat → List Char → Cursor → List Char × List Char × List Char × Cursor
  | 0, breaks, cursor => ([], [], breaks, cursor)
  | fuel + 1, breaks, cursor =>
    if cursor.column != indent || cursor.peek.isNone then ([], [], breaks, cursor)
    else
      let flush := !blankFollows cursor
      let line := cursor.run (!isBreak ·)
      let behind := cursor.skip line.length
      let (lineBreak, behind) := match behind.lineBreak? with
        | some (c, behind) => ([c], behind)
        | none => ([], behind)
      let (nextBreaks, behind) := blockBreaks indent (behind.rest.length + 1) behind
      if behind.column == indent && behind.peek.isSome then
        let joint :=
          if folded && lineBreak == ['\n'] && flush && !blankFollows behind then
            if nextBreaks.isEmpty then [' '] else []
          else lineBreak
        let (text, lastBreak, trailing, behind) := blockLines folded indent fuel nextBreaks behind
        (breaks ++ line ++ joint ++ text, lastBreak, trailing, behind)
      else (breaks ++ line, lineBreak, nextBreaks, behind)

/-- A block scalar within the given indentation; the cursor stands behind its style indicator. -/
def blockScalar (folded : Bool) (indent : Int) (cursor : Cursor) :
    Except Failure (String × Cursor) := do
  let (chomping, increment, cursor) := blockIndicators cursor
  if increment = some 0 || !endsWord cursor.peek then .error .malformed
  else
    let cursor ← behindLine cursor
    let least := max (indent + 1) 1
    let bound := cursor.rest.length + 1
    let (breaks, column, cursor) := match increment with
      | some n =>
        let column := (least + n - 1).toNat
        let (breaks, cursor) := blockBreaks column bound cursor
        (breaks, column, cursor)
      | none =>
        let (breaks, widest, cursor) := leadingBreaks bound 0 cursor
        (breaks, max least.toNat widest, cursor)
    let (text, lastBreak, trailing, cursor) := blockLines folded column bound breaks cursor
    let ending := match chomping with
      | .clip => lastBreak
      | .strip => []
      | .keep => lastBreak ++ trailing
    pure (String.ofList (text ++ ending), cursor)

/-! ## Anchors, tags and directive lines -/

/-- The name of an anchor or an alias; the cursor stands behind its indicator. -/
def anchorName (cursor : Cursor) : Except Failure (String × Cursor) :=
  let name := cursor.run isNameChar
  let behind := cursor.skip name.length
  let ends := endsField behind.peek ||
    (behind.peek.any fun c => ['?', ':', ',', ']', '}', '%', '@', '\x60'].contains c)
  if name.isEmpty || !ends then .error .malformed else .ok (String.ofList name, behind)

/-- Whether the character may stand in a tag; a percent sign starts an escape. -/
def isTagChar (c : Char) : Bool :=
  c.isAlphanum || "-;/?:@&=+$,_.!~*'()[]".toList.contains c

/-- The bytes that escapes of two hexadecimal digits behind a percent sign denote. -/
def escapedBytes : List Char → Except Failure (List UInt8 × List Char)
  | '%' :: a :: b :: rest =>
    match hexValue? 2 [a, b] with
    | none => .error .malformed
    | some byte => do
      let (bytes, rest) ← escapedBytes rest
      pure (UInt8.ofNat byte :: bytes, rest)
  | '%' :: _ => .error .malformed
  | rest => .ok ([], rest)

/-- The characters of a tag, escapes resolved, and the place behind them. -/
def tagText : Nat → Cursor → Except Failure (List Char × Cursor)
  | 0, _ => .error .malformed
  | fuel + 1, cursor =>
    let run := cursor.run isTagChar
    let behind := cursor.skip run.length
    if behind.peek == some '%' then do
      let (bytes, _) ← escapedBytes behind.rest
      match Text.decodeUtf8 bytes with
      | .error _ => .error .malformed
      | .ok text =>
        let (more, behind) ← tagText fuel (behind.skip (3 * bytes.length))
        pure (run ++ text ++ more, behind)
    else .ok (run, behind)

/-- A tag without its handle, which has at least one character. -/
def tagSuffix (cursor : Cursor) : Except Failure (String × Cursor) := do
  let (text, behind) ← tagText (cursor.rest.length + 1) cursor
  if behind.index = cursor.index then .error .malformed else pure (String.ofList text, behind)

/-- A tag handle: an exclamation mark, or a name between two. -/
def tagHandle (cursor : Cursor) : Except Failure (String × Cursor) :=
  if cursor.peek != some '!' then .error .malformed
  else if cursor.peekAt 1 == some ' ' then .ok ("!", cursor.next)
  else
    let name := cursor.next.run isNameChar
    let behind := cursor.next.skip name.length
    if behind.peek == some '!' then
      .ok (String.ofList ('!' :: name ++ ['!']), behind.next)
    else .error .malformed

/-- Whether a second exclamation mark follows the first one within a word. -/
def hasHandle (cursor : Cursor) : Bool :=
  (cursor.next.run fun c => !endsWord (some c)).contains '!'

/-- The tag that follows: its handle, if it has one, and its suffix. -/
def tagProperty (cursor : Cursor) : Except Failure (Option String × String × Cursor) := do
  let (handle, suffix, behind) ←
    if cursor.peekAt 1 == some '<' then do
      let (suffix, behind) ← tagSuffix (cursor.skip 2)
      if behind.peek == some '>' then pure (none, suffix, behind.next) else .error .malformed
    else if endsField (cursor.peekAt 1) then pure (none, "!", cursor.next)
    else if hasHandle cursor then do
      let (handle, behind) ← tagHandle cursor
      let (suffix, behind) ← tagSuffix behind
      pure (some handle, suffix, behind)
    else do
      let (suffix, behind) ← tagSuffix cursor.next
      pure (some "!", suffix, behind)
  if endsWord behind.peek then pure (handle, suffix, behind) else .error .malformed

/-- A part of a version number. -/
def versionPart (cursor : Cursor) : Except Failure (Nat × Cursor) :=
  let digits := cursor.run Char.isDigit
  if digits.isEmpty then .error .malformed
  else if Numeral.digitLimit < digits.length then .error (.scalar (.tooLong digits.length))
  else
    .ok (Numeral.positional 10 (digits.filterMap (Numeral.digit? 10)), cursor.skip digits.length)

/-- A version number, of which only the first part counts. -/
def versionNumber (cursor : Cursor) : Except Failure (Nat × Cursor) := do
  let (major, behind) ← versionPart cursor
  if behind.peek != some '.' then .error .malformed
  else
    let (_, behind) ← versionPart behind.next
    if endsWord behind.peek then pure (major, behind) else .error .malformed

/-- A directive line; the cursor stands behind the percent sign. -/
def declaration (cursor : Cursor) : Except Failure (Declaration × Cursor) := do
  let name := cursor.run isNameChar
  let behind := cursor.skip name.length
  if name.isEmpty || !endsWord behind.peek then .error .malformed
  else
    let (content, behind) ←
      match String.ofList name with
      | "YAML" => do
        let (major, behind) ← versionNumber behind.behindSpaces
        pure (Declaration.version major, behind)
      | "TAG" => do
        let (handle, behind) ← tagHandle behind.behindSpaces
        if behind.peek != some ' ' then .error .malformed
        else
          let (expansion, behind) ← tagSuffix behind.behindSpaces
          if endsWord behind.peek then pure (Declaration.handle handle expansion, behind)
          else .error .malformed
      | _ => pure (Declaration.other, behind.behind (!isBreak ·))
    let behind ← behindLine behind
    pure (content, behind)

end Claw.Yaml
