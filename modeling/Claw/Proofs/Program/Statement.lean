import Claw.Proofs.Numeral.Written
import Claw.Text.Word
import Claw.Token.Basic

/-!
# Programs and their sources

A `Statement` is one line of a well-formed program: integers of a type, a string, an instruction or
a label.  What makes it well formed is part of the type, so that there is a source for every list of
statements.

* `ListedInteger`, `PlainText`, `LabelName`: the parts that not everything can take the place of;
* `Statement.content` and `Statement.line`: the statement as a line holds it, and as it is written,
  with the semicolons escaped that would start a comment;
* `source`: the source of a program, one line for each statement;
* `Statement.items` and `tokensFrom`: the tokens that the program stands for.

That reading the source gives those tokens is proved in `Claw/Proofs/Program/RoundTrip.lean`.
-/

namespace Claw.Program

/-- A value of an integer type, and the way it is spelled. -/
structure ListedInteger (type : IntegerType) where
  spelling : Numeral.Spelling
  value : Int
  admits_value : type.admits value = true

/-- The numeral of a listed integer. -/
def ListedInteger.numeral {type : IntegerType} (listed : ListedInteger type) : String :=
  listed.spelling.numeral listed.value

/-- A text that a string directive can hold: it does not end the string, and neither itself nor the
settling of the layout breaks the line. -/
structure PlainText where
  text : String
  no_quote : '"' ∉ text.toList
  no_break : '\n' ∉ text.toList
  no_escape : ¬['\\', 'n'] <:+: text.toList

/-- A character that can be the name of a label. -/
structure LabelName where
  name : Char
  isWord_name : Text.isWord name = true

/-- A line of a program. -/
inductive Statement
  /-- Integers of a type, at least one. -/
  | integers (type : IntegerType) (first : ListedInteger type) (others : List (ListedInteger type))
  | string (text : PlainText)
  | instruction (operation : Instruction) (input output : Stack)
  | label (name : LabelName)

/-- The text with a backslash before every semicolon. -/
def escapeChars (cs : List Char) : List Char :=
  cs.flatMap fun c => if c = ';' then ['\\', ';'] else [c]

/-- The text with a backslash before every semicolon. -/
def escape (text : String) : String :=
  String.ofList (escapeChars text.toList)

/-- A directive of a type with the given text between its parentheses. -/
def listDirective (type : DataType) (raw : String) : String :=
  ".DB" ++ type.suffix ++ "(" ++ raw ++ ")"

/-- The list of values between the parentheses of a directive. -/
def valueList {type : IntegerType} (listed : List (ListedInteger type)) : String :=
  ", ".intercalate (listed.map ListedInteger.numeral)

namespace Statement

/-- The statement as the content of a line. -/
def content : Statement → String
  | integers type first others => listDirective (.integer type) (valueList (first :: others))
  | string text => ".DBS\"" ++ text.text ++ "\""
  | instruction operation input output => operation.name ++ " " ++ input.name ++ " " ++ output.name
  | label name => String.ofList [name.name, ':']

/-- The statement as a line of a source. -/
def line : Statement → String
  | string text => ".DBS\"" ++ escape text.text ++ "\""
  | statement => statement.content

/-- What the statement stands for behind so many values and instructions. -/
def items (position : Nat) : Statement → List Item
  | integers type first others =>
    (first :: others).map fun listed => .data (.integer type listed.value)
  | string text => [.data (.string text.text)]
  | instruction operation input output => [.instruction operation input output]
  | label name => [.label name.name position]

/-- How many values and instructions the statement stands for. -/
def codes : Statement → Nat
  | integers _ _ others => others.length + 1
  | string _ => 1
  | instruction .. => 1
  | label _ => 0

end Statement

/-- The source of a program. -/
def source (program : List Statement) : String :=
  Text.joinLines (program.map Statement.line)

lemma source_singleton (statement : Statement) : source [statement] = statement.line := by
  simp [source, Text.joinLines]

lemma source_cons_cons (first second : Statement) (rest : List Statement) :
    source (first :: second :: rest) = first.line ++ "\n" ++ source (second :: rest) := by
  simp [source, Text.joinLines]

/-- The tokens of a program of which the first statement has the given line number and comes behind
so many values and instructions. -/
def tokensFrom (file : String) (number : Int) (position : Nat) : List Statement → List Token
  | [] => []
  | statement :: rest =>
    (statement.items position).map (fun item => ⟨item, number, file⟩) ++
      tokensFrom file (number + 1) (position + statement.codes) rest

end Claw.Program
