import Claw.Token.Basic
import Claw.Traced

/-!
# Reading tokens off lines

Classified lines become tokens and diagnostics.  A line is read by its category alone; lines that
were put together by hand may be in a category that their content does not bear out, and are then
reported.

* `Options`: the choices that the reading depends on;
* `dataLine`, `instructionLine`, `labelLine`, `readLine`: what one line yields;
* `Tokenization.ofLinesFrom`: what a list of lines yields, given how many lines and how many values
  and instructions come before it;
* `Tokenization.ofLines`: what a list of lines yields, with a closing report.

Three kinds of line are told apart: those with nothing left to be done, which are passed on; those
of unknown category, which are passed on and, on demand, reported unless they are directives; and
all others, which are handled and come back marked as processed.

Reading fails only where a diagnostic cannot be worded, with `TooManyDigits`: where its message would
have to show a number of too many digits.  The number of the line, which stands in front of the
message, is taken to be short enough to be shown.  The lines of a text have such numbers, and lines
that are put together by hand are assumed to.
-/

namespace Claw

open Numeral (TooManyDigits)
open Source (Line)

/-- The choices that the reading of lines depends on. -/
structure Options where
  /-- The stack of an instruction that names none. -/
  defaultStack : Stack := .standard
  /-- Whether labels become tokens. -/
  emitLabels : Bool := false
  /-- Whether lines of unknown category are reported. -/
  reportUnknown : Bool := false
  deriving DecidableEq, Repr

/-- A diagnostic at a line. -/
def diagnosticAt (line : Line) (kind : DiagnosticKind) (message : String) : Diagnostic :=
  ⟨kind, message, line.number, line.file⟩

/-- A token of a line. -/
def tokenAt (line : Line) (item : Item) : Token :=
  ⟨item, line.number, line.file⟩

/-! ## One line -/

/-- What a value list yields: a token for each literal of the type, a diagnostic for any other. -/
def valueTokens (line : Line) (type : DataType) :
    List String → Except TooManyDigits (List Token × List Diagnostic)
  | [] => .ok ([], [])
  | field :: rest =>
    match literal type field with
    | .ok datum => do
      let (tokens, diagnostics) ← valueTokens line type rest
      pure (tokenAt line (.data datum) :: tokens, diagnostics)
    | .error fault => do
      let message ← fault.message
      let (tokens, diagnostics) ← valueTokens line type rest
      pure (tokens, diagnosticAt line .malformedLiteral message :: diagnostics)

/-- What a data directive of a known type yields. -/
def operandTokens (line : Line) (type : DataType) (operand : Source.Operand) :
    Except TooManyDigits (List Token × List Diagnostic) :=
  match type, operand with
  | .string, .quoted text => .ok ([tokenAt line (.data (.string text))], [])
  | .string, .values _ =>
    .ok ([], [diagnosticAt line .malformedLiteral ".DBS requires a quoted string"])
  | type, .quoted _ =>
    .ok ([], [diagnosticAt line .malformedLiteral
      (type.directive ++ " requires a parenthesized value list")])
  | type, .values raw => valueTokens line type (fields raw)

/-- What a data line yields. -/
def dataLine (line : Line) : Except TooManyDigits (List Token × List Diagnostic) :=
  let unrecognized := .ok ([], [diagnosticAt line .unrecognizedDataType "Invalid data type"])
  match Source.dataStatement? line.content.toList with
  | none => unrecognized
  | some statement =>
    match DataType.ofSuffix? statement.suffix with
    | none => unrecognized
    | some type => operandTokens line type statement.operand

/-- The stack that a selector in uppercase letters names, or the given one if it is empty. -/
def selectStack (selector : String) (standIn : Option Stack) : Option Stack :=
  if selector = "" then standIn else Stack.ofName? selector

/-- What an instruction line yields: one token, or a diagnostic for every part that is unknown. -/
def instructionLine (options : Options) (line : Line) : List Token × List Diagnostic :=
  match Source.instructionStatement? line.content.toList with
  | none =>
    ([], [diagnosticAt line .unknownMnemonic ("Malformed instruction: " ++ line.content)])
  | some statement =>
    let mnemonic := Text.uppercase statement.mnemonic
    let inputName := Text.uppercase (String.ofList statement.input.toList)
    let outputName := Text.uppercase statement.output
    let instruction? := Instruction.ofName? mnemonic
    let input? := selectStack inputName (some options.defaultStack)
    let output? := selectStack outputName input?
    match instruction?, input?, output? with
    | some instruction, some input, some output =>
      ([tokenAt line (.instruction instruction input output)], [])
    | _, _, _ =>
      let mnemonicFaults :=
        if instruction?.isNone then
          [diagnosticAt line .unknownMnemonic ("Unknown instruction: " ++ mnemonic)] else []
      let inputFaults :=
        if input?.isNone then
          [diagnosticAt line .unknownStack ("Unknown stack: " ++ inputName)] else []
      -- an output that follows an unknown input is not reported again
      let outputFaults :=
        if output?.isNone && outputName != "" then
          [diagnosticAt line .unknownStack ("Unknown stack: " ++ outputName)] else []
      ([], mnemonicFaults ++ inputFaults ++ outputFaults)

/-- What a label line yields behind so many values and instructions. -/
def labelLine (options : Options) (position : Nat) (line : Line) : List Token :=
  match Source.labelStatement? line.content.toList with
  | some name => if options.emitLabels then [tokenAt line (.label name position)] else []
  | none => []

/-- What a line yields behind so many values and instructions. -/
def readLine (options : Options) (position : Nat) (line : Line) :
    Except TooManyDigits (List Token × List Diagnostic) :=
  match line.category with
  | .data => dataLine line
  | .instruction => .ok (instructionLine options line)
  | .label => .ok (labelLine options position line, [])
  | .unknown | .empty => .ok ([], [])

/-- Whether a line of unknown category is reported. -/
def isReported (options : Options) (line : Line) : Bool :=
  options.reportUnknown && !Source.isDirective line.content

/-- The diagnostic for a line of unknown category. -/
def unclassified (line : Line) : Diagnostic :=
  diagnosticAt line .unclassifiedLine ("Unrecognized line: " ++ line.content)

/-! ## All lines -/

namespace Tokenization

/-- What lines yield, of which the first has the given index and comes behind so many values and
instructions. -/
def ofLinesFrom (options : Options) (index position : Nat) :
    List Line → Traced TooManyDigits Tokenization
  | [] => pure .empty
  | line :: rest =>
    if line.processed then do
      let behind ← ofLinesFrom options (index + 1) position rest
      pure (behind.skip line)
    else if line.category = .unknown then do
      let behind ← ofLinesFrom options (index + 1) position rest
      if isReported options line then pure (behind.reject index line (unclassified line))
      else pure (behind.skip line)
    else do
      let (tokens, diagnostics) ← .ofExcept (readLine options position line)
      .report (diagnostics.map fun diagnostic => "  " ++ diagnostic.text)
      let behind ← ofLinesFrom options (index + 1) (position + codeCount tokens) rest
      pure (behind.handle index line tokens diagnostics)

/-- The closing report on lines. -/
def summary (result : Tokenization) : String :=
  "Tokenized " ++ Numeral.naturalText result.lines.length ++ " lines: " ++
    Numeral.naturalText result.tokens.length ++ " tokens, " ++
    Numeral.naturalText result.diagnostics.length ++ " errors"

/-- What lines yield. -/
def ofLines (options : Options) (lines : List Line) : Traced TooManyDigits Tokenization := do
  let result ← ofLinesFrom options 0 0 lines
  .report [result.summary]
  pure result

end Tokenization

end Claw
