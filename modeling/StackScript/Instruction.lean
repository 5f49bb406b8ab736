/-!
# Instructions

The instructions of the stack machine. A slot names a cell of the machine's memory, and the offset
of a jump is counted from the jump itself.
-/

namespace StackScript

/-- An instruction of the stack machine. -/
inductive Instruction where
  | nop
  /-- Put a copy of a cell on the stack. -/
  | push (slot : Nat)
  /-- Copy the value on top of the stack to a cell. -/
  | getTop (slot : Nat)
  /-- Take a value off the stack. -/
  | discard
  /-- Take a value off the stack and write it. -/
  | print
  /-- Read a line to a cell. -/
  | input (slot : Nat)
  /-- Go on elsewhere. -/
  | jump (offset : Int32)
  /-- Take a boolean off the stack and go on elsewhere if it is false. -/
  | jumpIfFalse (offset : Int32)
  /-- Compare the contents of two cells. -/
  | equal
  /-- Compare two values of the stack. -/
  | boolEqual
  /-- Add the contents of two cells. -/
  | add
  | boolToString
  | integerToString
  | stringToInteger
deriving DecidableEq, Repr

namespace Instruction

/-- The name of an instruction, without its operand. -/
def name : Instruction → String
  | nop => "NOP"
  | push _ => "PUSH"
  | getTop _ => "GETTOP"
  | discard => "DISCARD"
  | print => "PRINT"
  | input _ => "INPUT"
  | jump _ => "JMP"
  | jumpIfFalse _ => "JMPF"
  | equal => "EQUAL"
  | boolEqual => "BOOL_EQUAL"
  | add => "ADD"
  | boolToString => "BOOL2STR"
  | integerToString => "INT2STR"
  | stringToInteger => "STR2INT"

/-- The slot that an instruction works on. -/
def slot? : Instruction → Option Nat
  | push slot | getTop slot | input slot => some slot
  | _ => none

/-- The offset that an instruction may go on at. -/
def offset? : Instruction → Option Int32
  | jump offset | jumpIfFalse offset => some offset
  | _ => none

/-- Whether the next instruction may be what an instruction goes on with. -/
def fallsThrough : Instruction → Bool
  | jump _ => false
  | _ => true

/-- The number of values that an instruction needs on the stack. -/
def pops : Instruction → Nat
  | nop | push _ | input _ | jump _ => 0
  | getTop _ | discard | print | jumpIfFalse _ | boolToString | integerToString
  | stringToInteger => 1
  | equal | boolEqual | add => 2

/-- The number of values that an instruction leaves in place of those it needs. -/
def pushes : Instruction → Nat
  | nop | input _ | jump _ | discard | print | jumpIfFalse _ => 0
  | push _ | getTop _ | equal | boolEqual | add | boolToString | integerToString
  | stringToInteger => 1

end Instruction

end StackScript
