import Claw.Numeral.Decimal
import Claw.Source.Category
import Claw.Source.Comment
import Claw.Source.Layout
import Claw.Text.Lines

/-!
# Source lines

Source text is read into numbered, classified lines.

* `Line`: a line without comment and margins.  That it is in the category `empty` just if it has no
  content is part of the type; `Line.of` checks it for lines that are put together by hand.
* `contents`: the contents of the lines of a text;
* `read`: the lines of a text;
* `directives` and `definitions`: what the directives among given lines are and leave on record;
* `log`: what is reported about the reading of a text.
-/

namespace Claw.Source

/-- A line of a source. -/
structure Line where
  /-- The text of the line, without comment and margins. -/
  content : String
  /-- The number of the line in its source, counted from one when it was read from a text. -/
  number : Int
  /-- The name of the source in diagnostics. -/
  file : String
  category : Category
  /-- Whether nothing is left to be done about the line. -/
  processed : Bool
  empty_iff : category = .empty ↔ content = ""
  deriving DecidableEq

/-- The refusal of a line whose category contradicts its content. -/
structure InconsistentLine where
  number : Int
  deriving DecidableEq, Repr

/-- The wording of the refusal. -/
def InconsistentLine.message (line : InconsistentLine) : String :=
  "Line " ++ Numeral.integerText line.number ++ ": category EMPTY requires empty content"

namespace Line

/-- The line with the given parts. -/
def of (content : String) (number : Int) (file : String) (category : Category)
    (processed : Bool) : Except InconsistentLine Line :=
  if h : category = .empty ↔ content = "" then
    .ok ⟨content, number, file, category, processed, h⟩
  else .error ⟨number⟩

/-- The line with the given content, under the category that the content has.  Nothing is left to be
done about an empty line. -/
def ofContent (file : String) (number : Int) (content : String) : Line where
  content
  number
  file
  category := categoryOf content
  processed := categoryOf content == .empty
  empty_iff := categoryOf_eq_empty_iff content

/-- The line with nothing left to be done about it. -/
def done (line : Line) : Line :=
  { line with processed := true }

end Line

/-! ## Reading a text -/

/-- The contents of the lines of a text. -/
def contents (text : String) : List String :=
  (Text.lines (layout text.toList)).map fun raw => String.ofList (bare raw)

/-- The lines with the given contents, numbered from `number` on. -/
def number (file : String) : Int → List String → List Line
  | _, [] => []
  | n, content :: rest => .ofContent file n content :: number file (n + 1) rest

/-- The lines of a text. -/
def read (text file : String) : List Line :=
  number file 1 (contents text)

/-! ## Directives among the lines -/

/-- The directives among the lines, each with the number of its line. -/
def directives (lines : List Line) : List (Int × Directive) :=
  lines.filterMap fun line =>
    (directive? line.content.toList).map fun directive => (line.number, directive)

/-- What the directives among the lines leave on record. -/
def definitions (lines : List Line) : Definitions :=
  (directives lines).foldl (fun record (_, directive) => record.apply directive) .empty

/-- The report of a directive. -/
def directiveReport : Int × Directive → String
  | (number, .define name _) =>
    "  Line " ++ Numeral.integerText number ++ ": #define " ++ name ++ " (not substituted)"
  | (number, .undefine name) => "  Line " ++ Numeral.integerText number ++ ": #undef " ++ name

/-- The closing report on a text. -/
def summary (file : String) (lines : List Line) : String :=
  "Preprocessed " ++ file ++ ": " ++ Numeral.naturalText lines.length ++ " lines"

/-- The report on the lines of a text. -/
def log (file : String) (lines : List Line) : List String :=
  (directives lines).map directiveReport ++ [summary file lines]

end Claw.Source
