import Claw.Text.Blank
import Claw.Text.Uppercase

/-!
# The instruction set

The mnemonics of the machine and their opcodes.  The set is closed: a mnemonic outside it is
reported and never guessed at.  `Instruction.ofName?` looks a mnemonic up after uppercasing and
trimming it.
-/

namespace Claw

/-- The instructions, in the order of their opcodes. -/
inductive Instruction
  -- control
  | nop | halt
  -- stack manipulation; `lit` pushes the data word behind it, `move` carries a value to the output
  | lit | dup | drop | swap | over | rot | move
  -- arithmetic
  | add | sub | mul | div | mod | neg | inc | dec
  -- bitwise
  | and | or | xor | not | shl | shr
  -- comparison
  | eq | ne | lt | gt | le | ge
  -- flow
  | jmp | jz | jnz | call | ret
  -- memory, input and output
  | load | store | read | write
  deriving DecidableEq, Repr

namespace Instruction

/-- Every instruction, in the order of its opcode. -/
def all : List Instruction :=
  [.nop, .halt,
   .lit, .dup, .drop, .swap, .over, .rot, .move,
   .add, .sub, .mul, .div, .mod, .neg, .inc, .dec,
   .and, .or, .xor, .not, .shl, .shr,
   .eq, .ne, .lt, .gt, .le, .ge,
   .jmp, .jz, .jnz, .call, .ret,
   .load, .store, .read, .write]

/-- The mnemonic of an instruction. -/
def name : Instruction → String
  | .nop => "NOP" | .halt => "HALT"
  | .lit => "LIT" | .dup => "DUP" | .drop => "DROP" | .swap => "SWAP" | .over => "OVER"
  | .rot => "ROT" | .move => "MOVE"
  | .add => "ADD" | .sub => "SUB" | .mul => "MUL" | .div => "DIV" | .mod => "MOD"
  | .neg => "NEG" | .inc => "INC" | .dec => "DEC"
  | .and => "AND" | .or => "OR" | .xor => "XOR" | .not => "NOT" | .shl => "SHL" | .shr => "SHR"
  | .eq => "EQ" | .ne => "NE" | .lt => "LT" | .gt => "GT" | .le => "LE" | .ge => "GE"
  | .jmp => "JMP" | .jz => "JZ" | .jnz => "JNZ" | .call => "CALL" | .ret => "RET"
  | .load => "LOAD" | .store => "STORE" | .read => "IN" | .write => "OUT"

/-- The opcode of an instruction. -/
def opcode : Instruction → Nat
  | .nop => 0x00 | .halt => 0x01
  | .lit => 0x08 | .dup => 0x09 | .drop => 0x0A | .swap => 0x0B | .over => 0x0C
  | .rot => 0x0D | .move => 0x0E
  | .add => 0x10 | .sub => 0x11 | .mul => 0x12 | .div => 0x13 | .mod => 0x14
  | .neg => 0x15 | .inc => 0x16 | .dec => 0x17
  | .and => 0x20 | .or => 0x21 | .xor => 0x22 | .not => 0x23 | .shl => 0x24 | .shr => 0x25
  | .eq => 0x30 | .ne => 0x31 | .lt => 0x32 | .gt => 0x33 | .le => 0x34 | .ge => 0x35
  | .jmp => 0x40 | .jz => 0x41 | .jnz => 0x42 | .call => 0x43 | .ret => 0x44
  | .load => 0x50 | .store => 0x51 | .read => 0x58 | .write => 0x59

/-- The instruction with a given mnemonic, in any case and with blank margins. -/
def ofName? (s : String) : Option Instruction :=
  all.find? (·.name == Text.trimmed (Text.uppercase s))

end Instruction

end Claw
