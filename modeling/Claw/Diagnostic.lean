import Claw.Numeral.Decimal

/-!
# Diagnostics

A defect of the source is collected as a `Diagnostic`, so that one pass over the source reports all
of them; nothing ends because of one.  The number of its line is taken to have no more digits than
can be shown, as the numbers of the lines of a text have.
-/

namespace Claw

/-- The kinds of defects. -/
inductive DiagnosticKind
  | unrecognizedDataType
  | malformedLiteral
  | unknownMnemonic
  | unknownStack
  /-- Reported on demand only. -/
  | unclassifiedLine
  deriving DecidableEq, Repr

namespace DiagnosticKind

/-- Every kind. -/
def all : List DiagnosticKind :=
  [.unrecognizedDataType, .malformedLiteral, .unknownMnemonic, .unknownStack, .unclassifiedLine]

/-- The name of a kind. -/
def name : DiagnosticKind → String
  | .unrecognizedDataType => "UNRECOGNIZED_DATA_TYPE"
  | .malformedLiteral => "MALFORMED_LITERAL"
  | .unknownMnemonic => "UNKNOWN_MNEMONIC"
  | .unknownStack => "UNKNOWN_STACK"
  | .unclassifiedLine => "UNCLASSIFIED_LINE"

end DiagnosticKind

/-- A defect at a line of a source. -/
structure Diagnostic where
  kind : DiagnosticKind
  message : String
  line : Int
  file : String
  deriving DecidableEq, Repr

/-- A diagnostic with its place in front. -/
def Diagnostic.text (diagnostic : Diagnostic) : String :=
  "Line " ++ Numeral.integerText diagnostic.line ++ " in " ++ diagnostic.file ++ ": " ++
    diagnostic.message

end Claw
