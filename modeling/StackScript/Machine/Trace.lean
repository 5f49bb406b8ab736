import StackScript.Machine
import StackScript.Text.Column

/-!
# Traces

The trace of a run shows each instruction that was within bounds, with the stack that it found.
-/

namespace StackScript.Machine

/-- An instruction about to be done. -/
structure Visit where
  /-- The number of the instruction. -/
  ip : Nat
  /-- The instruction. -/
  instruction : Instruction
  /-- The stack that it finds. -/
  stack : List Value
deriving DecidableEq, Repr

/-- The instructions that are done from a state on, in order. -/
def visitsFrom (limits : Limits) : (ip skipped : Nat) → List Instruction → State → List Visit
  | _, _, [], _ => []
  | ip, skipped + 1, _ :: rest, state => visitsFrom limits (ip + 1) skipped rest state
  | ip, 0, instruction :: rest, state =>
      match (begin limits).run state with
      | .error _ _ => []
      | .ok () begun =>
          ⟨ip, instruction, begun.stack⟩ ::
            match (step limits ip instruction).run state with
            | .error _ _ => []
            | .ok skipped next => visitsFrom limits (ip + 1) skipped rest next

/-- The instructions that a program does, in order. -/
def visits (limits : Limits) (program : Program) (input : InputStream) (output : OutputStream) :
    List Visit :=
  match program.check with
  | .error _ => []
  | .ok () => visitsFrom limits 0 0 program.code (.loaded program input output)

/-- A value of the stack in a trace. -/
def Value.traced : Value → String
  | cell index => "Index(" ++ Text.decimal index ++ ")"
  | bool value => "Bool(" ++ boolText value ++ ")"

/-- The line of an instruction in a trace. The stack is shown from its bottom. -/
def Visit.message (visit : Visit) : String :=
  let stack := ", ".intercalate (visit.stack.reverse.map Value.traced)
  Text.zeroPadded 4 visit.ip ++ " " ++ Text.leftAligned 10 visit.instruction.name
    ++ " stack=[" ++ stack ++ "]"

end StackScript.Machine
