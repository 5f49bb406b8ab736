import StackScript.Cell
import StackScript.Instruction

/-!
# Programs

A program of the stack machine is its instructions and what the memory holds before the first one.
-/

namespace StackScript

/-- A program of the stack machine. -/
structure Program where
  /-- The instructions. -/
  code : List Instruction
  /-- The first cells of the memory. -/
  cells : List Cell
deriving DecidableEq, Repr

/-- Whether an instruction reads a line. -/
def Instruction.readsInput : Instruction → Bool
  | input _ => true
  | _ => false

/-- Whether a program may read from its input. -/
def Program.readsInput (program : Program) : Bool :=
  program.code.any Instruction.readsInput

end StackScript
