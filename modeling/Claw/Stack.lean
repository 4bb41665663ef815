import Claw.Text.Blank
import Claw.Text.Uppercase

/-!
# Operand stacks

The machine has four stacks.  An instruction reads from one and writes to one; in source text each
is a single letter, in either case.

`Stack.ofName?` looks a name up after uppercasing and trimming it, and `Stack.named` reports a name
that is none.
-/

namespace Claw

/-- The stacks an instruction can read from and write to. -/
inductive Stack
  | a
  | b
  | c
  | d
  deriving DecidableEq, Repr

namespace Stack

/-- Every stack, in the order of its number. -/
def all : List Stack := [.a, .b, .c, .d]

/-- The letter of a stack. -/
def name : Stack → String
  | .a => "A"
  | .b => "B"
  | .c => "C"
  | .d => "D"

/-- The number of a stack. -/
def number : Stack → Nat
  | .a => 0
  | .b => 1
  | .c => 2
  | .d => 3

/-- The stack of an instruction that names none, unless a configuration says otherwise. -/
def standard : Stack := .a

/-- The stack with a given name, in any case and with blank margins. -/
def ofName? (s : String) : Option Stack :=
  all.find? (·.name == Text.trimmed (Text.uppercase s))

end Stack

/-- A name that is no stack's. -/
structure UnknownStack where
  name : String
  deriving DecidableEq, Repr

/-- The wording for a name that is no stack's. -/
def UnknownStack.message (unknown : UnknownStack) : String :=
  "Invalid stack name: " ++ unknown.name

/-- The stack with a given name, or the complaint that there is none. -/
def Stack.named (s : String) : Except UnknownStack Stack :=
  match Stack.ofName? s with
  | some stack => .ok stack
  | none => .error ⟨s⟩

end Claw
