import Claw.Text.Blank
import Claw.Text.Word

/-!
# Definitions

A line that starts with `#define` or `#undef` (also `#undefine`), in any case, records or forgets
the value of a name.  Values are not substituted into later lines.

* `defineDirective?`, `undefineDirective?`, `directive?`: the directive at the head of a line; what
  follows its parts on the line is of no account;
* `Definitions`: the recorded values, in the order of their names;
* `Definitions.apply`: the effect of one directive.
-/

namespace Claw.Source

open Text (isGap isWord)

/-- A directive about a name. -/
inductive Directive
  | define (name value : String)
  | undefine (name : String)
  deriving DecidableEq, Repr

/-- The text behind a keyword in lower-case letters, which the head of the text spells in any
case. -/
def behindKeyword? : List Char → List Char → Option (List Char)
  | [], cs => some cs
  | k :: ks, c :: cs => if c.toLower = k then behindKeyword? ks cs else none
  | _ :: _, [] => none

/-- The word at the head of the text behind at least one tab or space, and the text behind it. -/
def gapWord? : List Char → Option (List Char × List Char)
  | [] => none
  | c :: cs =>
    let body := cs.dropWhile isGap
    let word := body.takeWhile isWord
    if isGap c && !word.isEmpty then some (word, body.dropWhile isWord) else none

/-- The value that a definition gives in the text behind its name: the rest of the line, trimmed,
if a tab or a space sets it off, and otherwise the empty text. -/
def definedValue : List Char → List Char
  | [] => []
  | c :: cs => if isGap c then Text.trim (cs.takeWhile (· != '\n')) else []

/-- The `#define` directive at the head of a line. -/
def defineDirective? (cs : List Char) : Option Directive := do
  let (name, behind) ← gapWord? (← behindKeyword? "#define".toList cs)
  pure (.define (String.ofList name) (String.ofList (definedValue behind)))

/-- The `#undef` or `#undefine` directive at the head of a line. -/
def undefineDirective? (cs : List Char) : Option Directive := do
  let behind ← behindKeyword? "#undef".toList cs
  let (name, _) ← gapWord? ((behindKeyword? "ine".toList behind).getD behind)
  pure (.undefine (String.ofList name))

/-- The directive at the head of a line. -/
def directive? (cs : List Char) : Option Directive :=
  defineDirective? cs <|> undefineDirective? cs

/-- Whether a line is a directive. -/
def isDirective (content : String) : Bool :=
  (directive? content.toList).isSome

/-- The values on record, in the order of their names by code points. -/
structure Definitions where
  entries : List (String × String)
  deriving DecidableEq, Repr

namespace Definitions

/-- No values. -/
def empty : Definitions := ⟨[]⟩

/-- The value of a name. -/
def value? (definitions : Definitions) (name : String) : Option String :=
  definitions.entries.lookup name

/-- Puts an entry at its place, instead of an entry of the same name. -/
def insertEntry (name value : String) : List (String × String) → List (String × String)
  | [] => [(name, value)]
  | entry :: rest =>
    if name = entry.1 then (name, value) :: rest
    else if name < entry.1 then (name, value) :: entry :: rest
    else entry :: insertEntry name value rest

/-- The values after a directive. -/
def apply (definitions : Definitions) : Directive → Definitions
  | .define name value => ⟨insertEntry name value definitions.entries⟩
  | .undefine name => ⟨definitions.entries.filter (·.1 != name)⟩

end Definitions

end Claw.Source
