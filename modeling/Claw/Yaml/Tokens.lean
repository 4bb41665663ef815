import Claw.Yaml.Lexeme

/-!
# From a YAML text to its tokens

`tokens` cuts a text into tokens.  Where that is not possible, the tokens before are still there, so
that whoever reads them can find a fault that comes first.  What makes this more than spelling is
the layout:

* outside flow collections the columns of lines open and close block collections, and `Scan.indents`
  holds the columns of those that are open;
* a *simple key* is recognised only by the colon behind it.  Every token that may begin one is
  remembered as a `Candidate`, one for each open flow collection; when the colon comes, the tokens
  that announce a key are put in front of it.  A candidate lapses at the end of its line or after
  1024 characters, which is an error where the indentation leaves no other reading.
-/

namespace Claw.Yaml

/-- A place where a simple key may have begun. -/
structure Candidate where
  /-- How many tokens come before the key. -/
  place : Nat
  /-- Whether nothing but a key can stand there. -/
  required : Bool
  index : Nat
  line : Nat
  column : Nat

/-- The tokens of a text, as far as there are any. -/
structure TokenStream where
  tokens : List Token
  /-- Why no more tokens can be told behind them; nothing if the text ends there. -/
  fault : Option Failure

/-- A text partly cut into tokens. -/
structure Scan where
  cursor : Cursor
  /-- The tokens so far, the last one first. -/
  reversed : List Token
  /-- The column of the innermost block collection, -1 outside of all. -/
  indent : Int
  /-- The columns of the block collections around it. -/
  indents : List Int
  /-- Whether a simple key may begin here. -/
  keyAllowed : Bool
  /-- The candidate for a key within the innermost flow collection, or outside of all. -/
  candidate : Option Candidate
  /-- The candidates around it, one for every open flow collection. -/
  outer : List (Option Candidate)

namespace Scan

/-- The beginning of a text. -/
def start (text : List Char) : Scan where
  cursor := .start text
  reversed := []
  indent := -1
  indents := []
  keyAllowed := true
  candidate := none
  outer := []

/-- Whether a flow collection is open. -/
def inFlow (scan : Scan) : Bool :=
  !scan.outer.isEmpty

/-- Adds a token. -/
def push (scan : Scan) (token : Token) : Scan :=
  { scan with reversed := token :: scan.reversed }

/-- Adds a token that so many characters stand for. -/
def pushAt (scan : Scan) (length : Nat) (token : Token) : Scan :=
  { scan.push token with cursor := scan.cursor.skip length }

/-- Puts a token in front of the token with the given number of tokens before it. -/
def insert (scan : Scan) (place : Nat) (token : Token) : Scan :=
  { scan with reversed := scan.reversed.insertIdx (scan.reversed.length - place) token }

/-- Sets whether a simple key may begin next. -/
def allowKey (scan : Scan) (allowed : Bool) : Scan :=
  { scan with keyAllowed := allowed }

/-! ## Candidates for simple keys -/

/-- Whether a candidate has lapsed at a cursor. -/
def isStale (cursor : Cursor) (candidate : Candidate) : Bool :=
  candidate.line != cursor.line || 1024 < cursor.index - candidate.index

/-- A candidate at a cursor, unless it has lapsed. -/
def refresh (cursor : Cursor) : Option Candidate → Except Failure (Option Candidate)
  | none => .ok none
  | some candidate =>
    if !isStale cursor candidate then .ok (some candidate)
    else if candidate.required then .error .malformed
    else .ok none

/-- Lets the candidates lapse whose time is over. -/
def dropStale (scan : Scan) : Except Failure Scan := do
  let candidate ← refresh scan.cursor scan.candidate
  let outer ← scan.outer.mapM (refresh scan.cursor)
  pure { scan with candidate, outer }

/-- Drops the candidate of the innermost collection. -/
def dropCandidate (scan : Scan) : Except Failure Scan :=
  match scan.candidate with
  | some candidate =>
    if candidate.required then .error .malformed else .ok { scan with candidate := none }
  | none => .ok scan

/-- Remembers that a simple key may begin here. -/
def saveCandidate (scan : Scan) : Except Failure Scan :=
  if scan.keyAllowed then do
    let scan ← scan.dropCandidate
    let cursor := scan.cursor
    let candidate : Candidate := {
      place := scan.reversed.length
      required := !scan.inFlow && scan.indent == cursor.column
      index := cursor.index
      line := cursor.line
      column := cursor.column }
    pure { scan with candidate := some candidate }
  else .ok scan

/-! ## Block collections -/

/-- Closes the block collections of the given columns that begin behind a column. -/
def closeBlocks (column indent : Int) (reversed : List Token) :
    List Int → Int × List Int × List Token
  | [] => (indent, [], reversed)
  | around :: outer =>
    if column < indent then closeBlocks column around (.blockEnd :: reversed) outer
    else (indent, around :: outer, reversed)

/-- Closes the block collections that begin behind a column. -/
def unwind (scan : Scan) (column : Int) : Scan :=
  if scan.inFlow then scan
  else
    let (indent, indents, reversed) := closeBlocks column scan.indent scan.reversed scan.indents
    { scan with indent, indents, reversed }

/-- Opens a block collection at a column, unless the innermost one begins there or behind; its start
is put in front of the token with the given number of tokens before it. -/
def openBlock (scan : Scan) (column : Int) (place : Nat) (token : Token) : Scan :=
  if scan.indent < column then
    { scan.insert place token with indent := column, indents := scan.indent :: scan.indents }
  else scan

/-- Opens a block collection here, where a simple key may begin. -/
def openBlockHere (scan : Scan) (token : Token) : Except Failure Scan :=
  if scan.inFlow then .ok scan
  else if !scan.keyAllowed then .error .malformed
  else .ok (scan.openBlock scan.cursor.column scan.reversed.length token)

/-! ## One token -/

/-- Passes over blanks, comments and breaks before the next token. -/
def passBlanks : Nat → Scan → Scan
  | 0, scan => scan
  | fuel + 1, scan =>
    let cursor := scan.cursor.behindSpaces.behindComment
    match cursor.lineBreak? with
    | some (_, cursor) =>
      passBlanks fuel { scan with cursor, keyAllowed := scan.keyAllowed || !scan.inFlow }
    | none => { scan with cursor }

/-- Passes over a byte order mark, which may stand at the beginning of the text only. -/
def passMark (scan : Scan) : Scan :=
  if scan.cursor.index == 0 && scan.cursor.peek == some '\uFEFF' then
    { scan with cursor := scan.cursor.next }
  else scan

/-- Leaves all block collections, before a directive line or a marker between documents. -/
def leaveDocument (scan : Scan) : Except Failure Scan := do
  let scan ← (scan.unwind (-1)).dropCandidate
  pure (scan.allowKey false)

/-- The end of the text. -/
def finish (scan : Scan) : Except Failure Scan :=
  scan.leaveDocument

/-- A directive line. -/
def declarationToken (scan : Scan) : Except Failure Scan := do
  let scan ← scan.leaveDocument
  let (content, cursor) ← declaration scan.cursor.next
  pure { scan.push (.declaration content) with cursor }

/-- A marker between documents. -/
def markerToken (scan : Scan) (token : Token) : Except Failure Scan := do
  let scan ← scan.leaveDocument
  pure (scan.pushAt 3 token)

/-- The start of a flow collection. -/
def flowStart (scan : Scan) (token : Token) : Except Failure Scan := do
  let scan ← scan.saveCandidate
  pure { (scan.pushAt 1 token).allowKey true with
    candidate := none, outer := scan.candidate :: scan.outer }

/-- The end of a flow collection, of which one has to be open. -/
def flowEnd (scan : Scan) (token : Token) : Except Failure Scan := do
  let scan ← scan.dropCandidate
  match scan.outer with
  | [] => .error .malformed
  | candidate :: outer =>
    pure { (scan.pushAt 1 token).allowKey false with candidate, outer }

/-- A comma between the entries of a flow collection. -/
def flowEntry (scan : Scan) : Except Failure Scan := do
  let scan ← (scan.allowKey true).dropCandidate
  pure (scan.pushAt 1 .flowEntry)

/-- The dash before an entry of a block sequence. -/
def blockEntry (scan : Scan) : Except Failure Scan := do
  let scan ← scan.openBlockHere .blockSequenceStart
  let scan ← (scan.allowKey true).dropCandidate
  pure (scan.pushAt 1 .blockEntry)

/-- The question mark before a key. -/
def keyToken (scan : Scan) : Except Failure Scan := do
  let scan ← scan.openBlockHere .blockMappingStart
  let scan ← (scan.allowKey !scan.inFlow).dropCandidate
  pure (scan.pushAt 1 .key)

/-- The colon before a value: behind a simple key, or alone. -/
def valueToken (scan : Scan) : Except Failure Scan :=
  match scan.candidate with
  | some candidate =>
    let scan := { scan with candidate := none }.insert candidate.place .key
    let scan :=
      if scan.inFlow then scan
      else scan.openBlock candidate.column candidate.place .blockMappingStart
    .ok ((scan.allowKey false).pushAt 1 .value)
  | none => do
    let scan ← scan.openBlockHere .blockMappingStart
    let scan ← (scan.allowKey !scan.inFlow).dropCandidate
    pure (scan.pushAt 1 .value)

/-- A token that may begin a simple key and that no key may follow directly. -/
def property (scan : Scan) (read : Cursor → Except Failure (Token × Cursor)) :
    Except Failure Scan := do
  let scan ← scan.saveCandidate
  let (token, cursor) ← read scan.cursor
  pure { (scan.push token).allowKey false with cursor }

/-- A plain scalar. -/
def plainToken (scan : Scan) : Except Failure Scan := do
  let scan ← scan.saveCandidate
  let (text, cursor, keyAllowed) := plainScalar scan.inFlow (scan.indent + 1) scan.cursor
  pure { scan.push (.scalar true text) with cursor, keyAllowed }

/-- A block scalar. -/
def blockToken (scan : Scan) (folded : Bool) : Except Failure Scan := do
  let scan ← (scan.allowKey true).dropCandidate
  let (text, cursor) ← blockScalar folded scan.indent scan.cursor.next
  pure { scan.push (.scalar false text) with cursor }

/-- Whether a plain scalar may begin with the character when the other one follows. -/
def beginsPlain (flow : Bool) (c : Char) (following : Option Char) : Bool :=
  let indicators :=
    ['-', '?', ':', ',', '[', ']', '{', '}', '#', '&', '*', '!', '|', '>', '\'', '"', '%', '@',
     '\x60']
  (!endsField (some c) && !indicators.contains c) ||
    (!endsField following && (c == '-' || (!flow && (c == '?' || c == ':'))))

/-- The token that begins with the character. -/
def token (scan : Scan) (c : Char) : Except Failure Scan :=
  let cursor := scan.cursor
  let atLineStart := cursor.column == 0
  let following := cursor.peekAt 1
  let standsAlone := endsField following
  if c == '%' && atLineStart then scan.declarationToken
  else if atLineStart && cursor.marks '-' then scan.markerToken .documentStart
  else if atLineStart && cursor.marks '.' then scan.markerToken .documentEnd
  else if c == '[' then scan.flowStart .flowSequenceStart
  else if c == '{' then scan.flowStart .flowMappingStart
  else if c == ']' then scan.flowEnd .flowSequenceEnd
  else if c == '}' then scan.flowEnd .flowMappingEnd
  else if c == ',' then scan.flowEntry
  else if c == '-' && standsAlone then scan.blockEntry
  else if c == '?' && (scan.inFlow || standsAlone) then scan.keyToken
  else if c == ':' && (scan.inFlow || standsAlone) then scan.valueToken
  else if c == '*' then
    scan.property fun cursor => do
      let (name, cursor) ← anchorName cursor.next
      pure (.alias name, cursor)
  else if c == '&' then
    scan.property fun cursor => do
      let (name, cursor) ← anchorName cursor.next
      pure (.anchor name, cursor)
  else if c == '!' then
    scan.property fun cursor => do
      let (handle, suffix, cursor) ← tagProperty cursor
      pure (.tag handle suffix, cursor)
  else if c == '|' && !scan.inFlow then scan.blockToken false
  else if c == '>' && !scan.inFlow then scan.blockToken true
  else if c == '\'' || c == '"' then
    scan.property fun cursor => do
      let (text, cursor) ← quotedScalar c cursor
      pure (.scalar false text, cursor)
  else if beginsPlain scan.inFlow c following then scan.plainToken
  else .error .malformed

/-- The place of the next token, with the candidates and the block collections that are left
there. -/
def ahead (scan : Scan) : Except Failure Scan := do
  let scan := scan.passMark
  let scan ← (passBlanks (scan.cursor.rest.length + 1) scan).dropStale
  pure (scan.unwind scan.cursor.column)

/-- The tokens in front of which nothing can be put any more. -/
def settled (scan : Scan) : List Token :=
  let candidates := (scan.candidate :: scan.outer).filterMap id
  let places := (candidates.filter (!isStale scan.cursor ·)).map Candidate.place
  scan.reversed.reverse.take (places.foldl min scan.reversed.length)

/-- Cuts the rest of the text into tokens; every round reads at least one character. -/
def rounds : Nat → Scan → TokenStream
  | 0, scan => ⟨scan.settled, some .malformed⟩
  | fuel + 1, scan =>
    match scan.ahead with
    | .error failure => ⟨scan.settled, some failure⟩
    | .ok place =>
      match place.cursor.peek with
      | none =>
        match place.finish with
        | .error failure => ⟨scan.settled, some failure⟩
        | .ok finished => ⟨finished.reversed.reverse, none⟩
      | some c =>
        match place.token c with
        | .error failure => ⟨scan.settled, some failure⟩
        | .ok next => rounds fuel next

end Scan

/-- The tokens of a text. -/
def tokens (text : List Char) : TokenStream :=
  if text.all isPrintable then Scan.rounds (text.length + 1) (Scan.start text)
  else ⟨[], some .malformed⟩

end Claw.Yaml
