import Claw.Diagnostic
import Claw.Instruction
import Claw.Literal
import Claw.Source.Line
import Claw.Stack

/-!
# Tokens

What a source amounts to for the stages behind this library.

* `Item` and `Token`: a value, an instruction or a label, and the line it comes from;
* `LineYield`: the tokens and diagnostics of one line;
* `Tokenization`: the tokens, lines and diagnostics of a whole source.

The operations on a `Tokenization` put one line in front of what the lines behind it gave:
`Tokenization.skip`, `Tokenization.reject` and `Tokenization.handle`.
-/

namespace Claw

/-- The content of a token. -/
inductive Item
  | data (datum : Datum)
  | instruction (operation : Instruction) (input output : Stack)
  /-- A label, and how many values and instructions come before it. -/
  | label (name : Char) (position : Nat)
  deriving DecidableEq, Repr

namespace Item

/-- The name of a kind of token. -/
def kind : Item → String
  | .data _ => "DataToken"
  | .instruction .. => "InstructionToken"
  | .label .. => "LabelToken"

/-- An item as it is shown. -/
def text : Item → String
  | .data datum => datum.text
  | .instruction operation input output =>
    operation.name ++ " " ++ input.name ++ " " ++ output.name
  | .label name position =>
    String.ofList [name] ++ ": -> token " ++ Numeral.naturalText position

/-- Whether the item is a label, which occupies no place of its own. -/
def isLabel : Item → Bool
  | .label .. => true
  | _ => false

end Item

/-- An item and the line it comes from. -/
structure Token where
  item : Item
  line : Int
  file : String
  deriving DecidableEq, Repr

/-- How many of the tokens are values and instructions. -/
def codeCount (tokens : List Token) : Nat :=
  tokens.countP fun token => !token.item.isLabel

/-- The tokens and diagnostics of the line at a place in a list of lines. -/
structure LineYield where
  index : Nat
  tokens : List Token
  diagnostics : List Diagnostic
  deriving DecidableEq, Repr

/-- What a list of lines amounts to. -/
structure Tokenization where
  /-- The tokens, in the order of the source. -/
  tokens : List Token
  /-- Every line, marked as processed where it was handled. -/
  lines : List Source.Line
  /-- The diagnostics, in the order of the source. -/
  diagnostics : List Diagnostic
  /-- One entry for every line that was handled or rejected. -/
  yields : List LineYield
  deriving DecidableEq

namespace Tokenization

/-- The result for no lines. -/
def empty : Tokenization := ⟨[], [], [], []⟩

/-- A line that yields nothing and is passed on as it is, before other lines. -/
def skip (line : Source.Line) (behind : Tokenization) : Tokenization :=
  { behind with lines := line :: behind.lines }

/-- A line that yields a diagnostic only and is passed on as it is, before other lines. -/
def reject (index : Nat) (line : Source.Line) (diagnostic : Diagnostic) (behind : Tokenization) :
    Tokenization where
  tokens := behind.tokens
  lines := line :: behind.lines
  diagnostics := diagnostic :: behind.diagnostics
  yields := ⟨index, [], [diagnostic]⟩ :: behind.yields

/-- A line that was handled, with what it yields, before other lines. -/
def handle (index : Nat) (line : Source.Line) (tokens : List Token)
    (diagnostics : List Diagnostic) (behind : Tokenization) : Tokenization where
  tokens := tokens ++ behind.tokens
  lines := line.done :: behind.lines
  diagnostics := diagnostics ++ behind.diagnostics
  yields := ⟨index, tokens, diagnostics⟩ :: behind.yields

/-- Whether there is any diagnostic. -/
def hasDiagnostics (result : Tokenization) : Bool :=
  !result.diagnostics.isEmpty

/-- The tokens that are values. -/
def values (result : Tokenization) : List Token :=
  result.tokens.filter fun token => match token.item with
    | .data _ => true
    | _ => false

/-- The tokens that are instructions. -/
def instructions (result : Tokenization) : List Token :=
  result.tokens.filter fun token => match token.item with
    | .instruction .. => true
    | _ => false

/-- What the line at a place yielded, if it was handled or rejected. -/
def yieldAt? (result : Tokenization) (index : Int) : Option LineYield :=
  result.yields.find? fun yield => (yield.index : Int) == index

end Tokenization

end Claw
