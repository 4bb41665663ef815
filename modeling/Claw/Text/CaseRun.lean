/-!
# Runs of the case tables

The characters that change in a case mapping mostly come in evenly spaced groups that all move by
one distance.  The tables of both mappings are lists of such groups.
-/

namespace Claw.Text

/-- Evenly spaced code points that a case mapping moves by one distance: `first`, `first + step`,
and so on up to `last`. -/
structure CaseRun where
  first : Nat
  last : Nat
  step : Nat
  shift : Int

/-- Whether the run holds the code point. -/
def CaseRun.holds (run : CaseRun) (n : Nat) : Bool :=
  run.first ≤ n && n ≤ run.last && (n - run.first) % run.step == 0

/-- The character that a code point becomes under the run that holds it, if one does. -/
def moveBy? (runs : List CaseRun) (n : Nat) : Option Char :=
  (runs.find? (·.holds n)).map fun run => Char.ofNat ((n : Int) + run.shift).toNat

end Claw.Text
