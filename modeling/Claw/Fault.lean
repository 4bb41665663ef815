import Claw.Numeral.Decimal

/-!
# Faults

A `Fault` is a failure that a caller of this library is expected to deal with, as opposed to a
`Diagnostic`, which is collected, and to a failure of the surroundings.  It belongs to a family and
may name a line and quote it; `Fault.text` is its full wording.
-/

namespace Claw

/-- The families of faults.  The general one comprises the others. -/
inductive FaultFamily
  | general
  | literal
  | configuration
  deriving DecidableEq, Repr

/-- Whether every fault of the first family belongs to the second. -/
def FaultFamily.isWithin (family other : FaultFamily) : Bool :=
  family == other || other == .general

/-- A failure that is to be dealt with. -/
structure Fault where
  family : FaultFamily
  message : String
  line : Option Int := none
  /-- The text of the line. -/
  excerpt : Option String := none
  deriving DecidableEq, Repr

/-- A fault in words: behind the number of its line, and before the text of the line, where they are
known and there is a text. -/
def Fault.text (fault : Fault) : String :=
  match fault.line with
  | none => fault.message
  | some line =>
    "Line " ++ Numeral.integerText line ++ ": " ++ fault.message ++
      match fault.excerpt with
      | none | some "" => ""
      | some excerpt => "\n  " ++ excerpt

end Claw
