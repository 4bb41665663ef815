import Claw.Config
import Claw.Files.Basic
import Claw.Token.Tokenizer

/-!
# The assembler

An `Assembler` has settings, and remembers the definitions of the last source that it read, the
result of the last source that it tokenized, and where its tokenizer stands.  These can belong to
different sources: definitions are recorded before the tokens are read, and a failure in between
leaves the earlier result.  A source text is read as a recorder reads it that was left with the
definitions before: `Assembler.assemble_eq_recorder` in `Claw/Proofs/Memory.lean`.

* `assemble`, `assembleFrom`, `feed`: a source text, a source file, or lines; each gives the
  assembler afterwards and a traced result;
* `Call`, `call`, `session`: any of these, and one after another;
* `listing`, `errorReport`: the last result as text;
* `shown`: the reports of a trace, as far as the assembler shows them.
-/

namespace Claw

/-- An assembler between two sources. -/
structure Assembler where
  config : Config
  /-- Whether reports are shown. -/
  verbose : Bool
  /-- The definitions of the last source that was read. -/
  definitions : Source.Definitions
  /-- How many values and instructions the tokenizer has met since the last lines began. -/
  position : Nat
  /-- The result of the last source that was tokenized. -/
  result : Option Tokenization
  deriving DecidableEq

namespace Assembler

/-- An assembler with the given settings, which shows reports if it is told to by either. -/
def new (config : Config) (verbose : Bool) : Assembler where
  config
  verbose := verbose || config.verbose
  definitions := .empty
  position := 0
  result := none

/-- The tokenizer of an assembler. -/
def tokenizer (assembler : Assembler) : Tokenizer :=
  ⟨assembler.config.toOptions, assembler.position⟩

/-- What an assembler shows of a trace. -/
def shown {α : Type} (assembler : Assembler) (trace : Traced Failure α) : List String :=
  if assembler.verbose then trace.reported else []

/-! ## Sources -/

/-- Tokenizes lines. -/
def feed (assembler : Assembler) (lines : List Source.Line) :
    Assembler × Traced Failure Tokenization :=
  let (tokenizer, read) := assembler.tokenizer.tokenize lines
  let trace := read.mapError Failure.tooManyDigits
  let after := { assembler with position := tokenizer.position }
  match trace.outcome with
  | .ok result => ({ after with result := some result }, trace)
  | .error _ => (after, trace)

/-- Reads and tokenizes a source text. -/
def assemble (assembler : Assembler) (text file : String) :
    Assembler × Traced Failure Tokenization :=
  let lines := Source.read text file
  let (after, trace) :=
    { assembler with definitions := Source.definitions lines }.feed lines
  (after, ⟨Source.log file lines ++ trace.reported, trace.outcome⟩)

/-- The failure to read a source under a path. -/
def sourceFailure (path : String) : ReadFault → Failure
  | .nullInPath => .nullInPath
  | .access fault => .unreadable path fault
  | .decode fault => .undecodable fault

/-- Reads and tokenizes a source file. -/
def assembleFrom (assembler : Assembler) (files : Files) (path : String) :
    Assembler × Traced Failure Tokenization :=
  let opening := "Assembling: " ++ path
  match files.text path with
  | .error fault => (assembler, ⟨[opening], .error (sourceFailure path fault)⟩)
  | .ok text =>
    let (after, trace) := assembler.assemble text path
    (after, ⟨opening :: trace.reported, trace.outcome⟩)

/-- What an assembler is asked to work on. -/
inductive Call
  /-- A source text, under the name of the source. -/
  | text (text file : String)
  /-- The source file under a path, among the files that there are at the time. -/
  | file (files : Files) (path : String)
  /-- Lines, as they are. -/
  | lines (lines : List Source.Line)

/-- Works on what it is asked to. -/
def call (assembler : Assembler) : Call → Assembler × Traced Failure Tokenization
  | .text text file => assembler.assemble text file
  | .file files path => assembler.assembleFrom files path
  | .lines lines => assembler.feed lines

/-- Works on one thing after another, whether or not each gives a result. -/
def session (assembler : Assembler) : List Call → Assembler × List (Traced Failure Tokenization)
  | [] => (assembler, [])
  | call :: rest =>
    let (after, trace) := assembler.call call
    let (last, traces) := after.session rest
    (last, trace :: traces)

/-! ## The last result -/

/-- The rows above the tokens of a listing. -/
def listingHead : List String :=
  ["Line   Kind              Token", String.ofList (List.replicate 60 '-')]

/-- A token as a row of a listing. -/
def listingRow (token : Token) : String :=
  Numeral.flushRight 5 (Numeral.integerText token.line) ++ "  " ++
    Numeral.flushLeft 16 token.item.kind ++ "  " ++ token.item.text

/-- The tokens of the last result, a row for each. -/
def listing (assembler : Assembler) : String :=
  let tokens := match assembler.result with
    | some result => result.tokens
    | none => []
  Text.joinLines (listingHead ++ tokens.map listingRow)

/-- The diagnostics of the last result, a row for each. -/
def errorReport (assembler : Assembler) : String :=
  match assembler.result with
  | some result => Text.joinLines (result.diagnostics.map Diagnostic.text)
  | none => ""

end Assembler

end Claw
