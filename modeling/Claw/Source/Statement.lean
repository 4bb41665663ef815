import Claw.Text.Blank
import Claw.Text.Word

/-!
# The statements of a line

Three kinds of line carry code.  Each is recognised by a function that returns the parts of the
statement, or nothing when the line is not of that kind.

* `dataStatement?`: a data directive, *anywhere* on the line: `.DB`, a suffix, tabs or spaces, and
  either a value list in parentheses or a string in double quotes.  Letters count in either case.
  Of several directives the first is meant.
* `instructionStatement?`: the *whole* line: a mnemonic, and behind separators a letter for the
  input stack and, with or without more separators, letters for the output stack.
* `labelStatement?`: the *whole* line: one word character and a colon.

The whole line may end in one line break; lines that come from a text never do.
-/

namespace Claw.Source

open Text (isGap isWord)

/-- Whether nothing is left of a line, or one line break. -/
def atEnd (cs : List Char) : Bool :=
  cs == [] || cs == ['\n']

/-! ## Data directives -/

/-- What a data directive lists. -/
inductive Operand
  /-- The text between parentheses. -/
  | values (raw : String)
  /-- The text between double quotes. -/
  | quoted (text : String)
  deriving DecidableEq, Repr

/-- The parts of a data directive. -/
structure DataStatement where
  suffix : String
  operand : Operand
  deriving DecidableEq, Repr

/-- Whether the character may stand in a value list. -/
def isValueChar (c : Char) : Bool :=
  Text.isDecimalDigit c || ['\t', ' ', ',', '\'', '.', '-', 'X', 'x', 'B', 'b'].contains c

/-- The mark of an unsigned type at the head of the text, if there is one, behind what was read. -/
def takeUnsigned (read : List Char) : List Char → List Char × List Char
  | 'U' :: cs => (read ++ ['U'], cs)
  | 'u' :: cs => (read ++ ['u'], cs)
  | cs => (read, cs)

/-- The suffix at the head of the text, and the text behind it. -/
def takeSuffix? : List Char → Option (List Char × List Char)
  | '8' :: cs => some (takeUnsigned ['8'] cs)
  | '1' :: '6' :: cs => some (takeUnsigned ['1', '6'] cs)
  | '3' :: '2' :: cs => some (takeUnsigned ['3', '2'] cs)
  | c :: cs => if ['S', 's', 'F', 'f'].contains c then some ([c], cs) else none
  | [] => none

/-- The operand at the head of the text. -/
def operandAt? : List Char → Option Operand
  | '(' :: cs =>
    if (cs.dropWhile isValueChar).head? = some ')' then
      some (.values (String.ofList (cs.takeWhile isValueChar)))
    else none
  | '"' :: cs =>
    if (cs.dropWhile (· != '"')).head? = some '"' then
      some (.quoted (String.ofList (cs.takeWhile (· != '"'))))
    else none
  | _ => none

/-- The text behind `.DB` in either case at the head of a text. -/
def behindDirective? : List Char → Option (List Char)
  | '.' :: d :: b :: cs =>
    if ['D', 'd'].contains d && ['B', 'b'].contains b then some cs else none
  | _ => none

/-- The data directive at the head of the text. -/
def dataStatementAt? (cs : List Char) : Option DataStatement := do
  let (suffix, rest) ← takeSuffix? (← behindDirective? cs)
  let operand ← operandAt? (rest.dropWhile isGap)
  pure ⟨String.ofList suffix, operand⟩

/-- The first data directive of the text. -/
def dataStatement? : List Char → Option DataStatement
  | [] => none
  | c :: cs => dataStatementAt? (c :: cs) <|> dataStatement? cs

/-! ## Instructions -/

/-- The parts of an instruction: its mnemonic, the letter of its input stack if it names one, and
the letters of its output stack, none or any number. -/
structure InstructionStatement where
  mnemonic : String
  input : Option Char
  output : String
  deriving DecidableEq, Repr

/-- A tab, a space or a comma: what may stand between the parts of an instruction. -/
def isSeparator (c : Char) : Bool :=
  isGap c || c == ','

/-- Whether the character is the letter of a stack, in either case. -/
def isStackLetter (c : Char) : Bool :=
  ['A', 'a', 'B', 'b', 'C', 'c', 'D', 'd'].contains c

/-- The selectors of an instruction, in the text behind its mnemonic and the separators there. -/
def selectors? : List Char → Option (Option Char × List Char)
  | [] => some (none, [])
  | c :: cs =>
    if isStackLetter c then
      let behind := cs.dropWhile isSeparator
      if atEnd (behind.dropWhile isStackLetter) then some (some c, behind.takeWhile isStackLetter)
      else none
    else if atEnd (c :: cs) then some (none, []) else none

/-- The instruction that a line consists of. -/
def instructionStatement? (cs : List Char) : Option InstructionStatement :=
  let mnemonic := cs.takeWhile isWord
  if mnemonic.isEmpty then none
  else
    (selectors? ((cs.dropWhile isWord).dropWhile isSeparator)).map fun (input, output) =>
      ⟨String.ofList mnemonic, input, String.ofList output⟩

/-! ## Labels -/

/-- The name of the label that a line consists of. -/
def labelStatement? : List Char → Option Char
  | c :: ':' :: cs => if isWord c && atEnd cs then some c else none
  | _ => none

end Claw.Source
