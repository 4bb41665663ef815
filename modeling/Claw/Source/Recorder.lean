import Claw.Source.Line
import Claw.Traced

/-!
# Recorders

A `Recorder` reads one source text after another.  All that it keeps is the definitions of the text
that it read last; with every text it starts afresh.

* `Scan`: a recorder in the middle of a text, and the lines so far.  `Scan.step` takes it past one
  line and `Scan.run` past many.  A directive is put on record only where the line is of unknown
  category, and every line is put together by the constructor that checks it;
* `Recorder.read`: a text;
* `Recorder.session`: one text after another.

A recorder gives what `Source.read` gives and keeps what `Source.definitions` says, whatever it has
read before: `Claw/Proofs/Recording.lean`.
-/

namespace Claw.Source

/-- A recorder between two texts. -/
structure Recorder where
  /-- The definitions of the text that was read last. -/
  definitions : Definitions
  deriving DecidableEq, Repr

/-- A recorder in the middle of a text. -/
structure Scan where
  recorder : Recorder
  /-- The lines so far. -/
  lines : List Line
  /-- What was reported about the lines so far. -/
  reported : List String

namespace Scan

/-- A recorder in front of a text. -/
def start (recorder : Recorder) : Scan where
  recorder := { recorder with definitions := .empty }
  lines := []
  reported := []

/-- Behind a line with the given content, of which the directive is put on record. -/
def record (scan : Scan) (number : Int) (content : String) : Scan :=
  match directive? content.toList with
  | some directive =>
    { scan with
      recorder :=
        { scan.recorder with definitions := scan.recorder.definitions.apply directive }
      reported := scan.reported ++ [directiveReport (number, directive)] }
  | none => scan

/-- Behind the next line, or where the line is refused. -/
def step (file : String) (scan : Scan) (raw : List Char) : Scan × Except InconsistentLine Unit :=
  let number : Int := scan.lines.length + 1
  let content := String.ofList (bare raw)
  let category := categoryOf content
  let recorded := if category = .unknown then scan.record number content else scan
  match Line.of content number file category (category == .empty) with
  | .ok line => ({ recorded with lines := recorded.lines ++ [line] }, .ok ())
  | .error refusal => (recorded, .error refusal)

/-- Behind the next lines, or where the first of them is refused. -/
def run (file : String) (scan : Scan) : List (List Char) → Scan × Except InconsistentLine Unit
  | [] => (scan, .ok ())
  | raw :: rest =>
    match scan.step file raw with
    | (next, .ok ()) => next.run file rest
    | (last, .error refusal) => (last, .error refusal)

end Scan

namespace Recorder

/-- A recorder that has read nothing yet. -/
def new : Recorder := ⟨.empty⟩

/-- Reads a text. -/
def read (recorder : Recorder) (text file : String) :
    Recorder × Traced InconsistentLine (List Line) :=
  let (scan, ending) := (Scan.start recorder).run file (Text.lines (layout text.toList))
  match ending with
  | .ok () => (scan.recorder, ⟨scan.reported ++ [summary file scan.lines], .ok scan.lines⟩)
  | .error refusal => (scan.recorder, ⟨scan.reported, .error refusal⟩)

/-- Reads one text after another, each with the name of its source, and gives what is kept and what
is read behind each. -/
def session (recorder : Recorder) :
    List (String × String) → List (Recorder × Traced InconsistentLine (List Line))
  | [] => []
  | (text, file) :: rest =>
    let (after, trace) := recorder.read text file
    (after, trace) :: after.session rest

end Recorder

end Claw.Source
