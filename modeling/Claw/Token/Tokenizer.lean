import Claw.Token.Reader

/-!
# Tokenizers

A `Tokenizer` tokenizes one list of lines after another under the same options.  All that it keeps
from one line to the next is its position: how many values and instructions it has met in the list
at hand.  A list that cannot be read to its end leaves the position where the reading stopped; the
next list sets it back.

* `Pass`: a tokenizer in the middle of a list of lines, and what the lines so far amount to.
  `Pass.step` takes it past one line and `Pass.run` past many, or to the line that fails.
* `Tokenizer.tokenize`: a list of lines;
* `Tokenizer.session`: one list after another.

A tokenizer gives what `Tokenization.ofLines` gives, whatever it has met before:
`Claw/Proofs/Session.lean`.  As there, the numbers of lines are taken to be short enough to be shown:
every diagnostic of a line that was handled is reported with its place in front, which has to be
worded for it.
-/

namespace Claw

open Numeral (TooManyDigits)
open Source (Line)

/-- A tokenizer between two lines. -/
structure Tokenizer where
  options : Options
  /-- How many values and instructions were met since the last list of lines began. -/
  position : Nat
  deriving DecidableEq, Repr

/-- A tokenizer in the middle of a list of lines. -/
structure Pass where
  tokenizer : Tokenizer
  /-- The index of the next line. -/
  index : Nat
  /-- What the lines so far amount to. -/
  result : Tokenization
  /-- What was reported about the lines so far. -/
  reported : List String

namespace Pass

/-- A tokenizer in front of a list of lines. -/
def start (tokenizer : Tokenizer) : Pass where
  tokenizer := { tokenizer with position := 0 }
  index := 0
  result := .empty
  reported := []

/-- Behind a line that yields nothing and is passed on as it is. -/
def skip (pass : Pass) (line : Line) : Pass :=
  { pass with
    index := pass.index + 1
    result := { pass.result with lines := pass.result.lines ++ [line] } }

/-- Behind a line that yields a diagnostic only and is passed on as it is. -/
def reject (pass : Pass) (line : Line) (diagnostic : Diagnostic) : Pass :=
  { pass with
    index := pass.index + 1
    result :=
      { tokens := pass.result.tokens
        lines := pass.result.lines ++ [line]
        diagnostics := pass.result.diagnostics ++ [diagnostic]
        yields := pass.result.yields ++ [⟨pass.index, [], [diagnostic]⟩] } }

/-- Behind a line that was handled, with what it yields. -/
def handle (pass : Pass) (line : Line) (tokens : List Token) (diagnostics : List Diagnostic) :
    Pass where
  tokenizer :=
    { pass.tokenizer with position := pass.tokenizer.position + codeCount tokens }
  index := pass.index + 1
  result :=
    { tokens := pass.result.tokens ++ tokens
      lines := pass.result.lines ++ [line.done]
      diagnostics := pass.result.diagnostics ++ diagnostics
      yields := pass.result.yields ++ [⟨pass.index, tokens, diagnostics⟩] }
  reported := pass.reported ++ diagnostics.map fun diagnostic => "  " ++ diagnostic.text

/-- Behind the next line. -/
def step (pass : Pass) (line : Line) : Except TooManyDigits Pass :=
  if line.processed then .ok (pass.skip line)
  else if line.category = .unknown then
    if isReported pass.tokenizer.options line then .ok (pass.reject line (unclassified line))
    else .ok (pass.skip line)
  else
    (readLine pass.tokenizer.options pass.tokenizer.position line).map
      fun (tokens, diagnostics) => pass.handle line tokens diagnostics

/-- Behind the next lines, or in front of the first of them that fails. -/
def run (pass : Pass) : List Line → Pass × Except TooManyDigits Unit
  | [] => (pass, .ok ())
  | line :: rest =>
    match pass.step line with
    | .ok next => next.run rest
    | .error failure => (pass, .error failure)

end Pass

namespace Tokenizer

/-- A tokenizer that has met nothing yet. -/
def new (options : Options) : Tokenizer :=
  ⟨options, 0⟩

/-- Tokenizes a list of lines. -/
def tokenize (tokenizer : Tokenizer) (lines : List Line) :
    Tokenizer × Traced TooManyDigits Tokenization :=
  let (pass, ending) := (Pass.start tokenizer).run lines
  match ending with
  | .ok () => (pass.tokenizer, ⟨pass.reported ++ [pass.result.summary], .ok pass.result⟩)
  | .error failure => (pass.tokenizer, ⟨pass.reported, .error failure⟩)

/-- Tokenizes one list of lines after another, whether or not they can all be read. -/
def session (tokenizer : Tokenizer) : List (List Line) → List (Traced TooManyDigits Tokenization)
  | [] => []
  | lines :: rest =>
    let (after, trace) := tokenizer.tokenize lines
    trace :: after.session rest

end Tokenizer

end Claw
