import StackScript.Program
import StackScript.Text.Decimal

/-!
# Stack heights

Before a program runs, the height of the operand stack is determined for each of its instructions.
Jumps go forward, so one pass in order meets every way to an instruction before the instruction
itself. All ways have to agree, an instruction has to find the values that it takes, a jump may go
no further than behind the last instruction, and every slot has to be among the program's own cells.
-/

namespace StackScript

/-- Why a program is refused. -/
inductive HeightFault where
  /-- An instruction needs more values than there are. -/
  | underflow (ip : Nat) (instruction : Instruction)
  /-- A jump goes further than behind the last instruction. -/
  | jumpOutOfRange (ip : Nat) (target : Int) (length : Nat)
  /-- A jump does not go forward. -/
  | backwardJump (ip : Nat) (offset : Int32)
  /-- A slot is not among the program's cells. -/
  | badSlot (ip slot cells : Nat)
  /-- Two ways to an instruction bring different heights. -/
  | heightMismatch (ip first second : Nat)
deriving DecidableEq, Repr

/-- The wording of a fault. -/
def HeightFault.message : HeightFault → String
  | underflow ip instruction =>
      "stack-check error: stack underflow at ip=" ++ Text.decimal ip ++ ", op=" ++ instruction.name
        ++ ", needed " ++ Text.decimal instruction.pops ++ " items"
  | jumpOutOfRange ip target length =>
      "stack-check error: jump at ip=" ++ Text.decimal ip ++ " lands on " ++ Text.decimal target
        ++ ", outside 0..=" ++ Text.decimal length
  | backwardJump ip offset =>
      "stack-check error: backward jump at ip=" ++ Text.decimal ip ++ " (offset "
        ++ Text.decimal offset.toInt ++ ")"
  | badSlot ip slot cells =>
      "stack-check error: slot " ++ Text.decimal slot ++ " at ip=" ++ Text.decimal ip
        ++ " is outside " ++ Text.decimal cells ++ " initial cells"
  | heightMismatch ip first second =>
      "stack-check error: paths reach ip=" ++ Text.decimal ip ++ " with heights "
        ++ Text.decimal first ++ " and " ++ Text.decimal second

namespace Heights

/-- Bring a height to an instruction, given by its number in all and by its distance from the first
entry of the table. No height is known where no way has led so far. -/
def merge (ip height : Nat) :
    (distance : Nat) → List (Option Nat) → Except HeightFault (List (Option Nat))
  | _, [] => .ok []
  | 0, none :: rest => .ok (some height :: rest)
  | 0, some known :: rest =>
      if known = height then .ok (some known :: rest)
      else .error (.heightMismatch ip known height)
  | distance + 1, entry :: rest => (merge ip height distance rest).map (entry :: ·)

/-- Bring the height behind a jump to where it goes, given the heights behind the jump. -/
def mergeJump (ip length height : Nat) (later : List (Option Nat)) (offset : Int32) :
    Except HeightFault (List (Option Nat)) :=
  let target : Int := ip + offset.toInt
  if offset.toInt ≤ 0 then .error (.backwardJump ip offset)
  else if (length : Int) < target then .error (.jumpOutOfRange ip target length)
  else merge target.toNat height (offset.toInt.toNat - 1) later

/-- The heights behind an instruction that is reached with a height. -/
def leave (ip length height : Nat) (instruction : Instruction) (later : List (Option Nat)) :
    Except HeightFault (List (Option Nat)) := do
  if height < instruction.pops then throw (.underflow ip instruction)
  let after := height - instruction.pops + instruction.pushes
  let later ←
    match instruction.offset? with
    | some offset => mergeJump ip length after later offset
    | none => pure later
  if instruction.fallsThrough then merge (ip + 1) after 0 later else pure later

/-- Check that the slot of an instruction is among a number of cells. -/
def checkSlot (cells ip : Nat) (instruction : Instruction) : Except HeightFault Unit :=
  match instruction.slot? with
  | some slot => if slot < cells then .ok () else .error (.badSlot ip slot cells)
  | none => .ok ()

/-- The heights at the instructions from one on and behind the last, given what the instructions in
front of them have brought. -/
def through (cells length ip : Nat) :
    List (Option Nat) → List Instruction → Except HeightFault (List (Option Nat))
  | heights, [] => .ok heights
  | [], instruction :: rest => do
      checkSlot cells ip instruction
      through cells length (ip + 1) [] rest
  | entry :: later, instruction :: rest => do
      checkSlot cells ip instruction
      let later ←
        match entry with
        | some height => leave ip length height instruction later
        | none => pure later
      (entry :: ·) <$> through cells length (ip + 1) later rest

end Heights

/-- The height at each instruction and behind the last one, where any way leads there, for
instructions over a number of cells. -/
def Instruction.heights (code : List Instruction) (cells : Nat) :
    Except HeightFault (List (Option Nat)) :=
  Heights.through cells code.length 0 (some 0 :: List.replicate code.length none) code

/-- Whether a program can be run, or why not. -/
def Program.check (program : Program) : Except HeightFault Unit :=
  (Instruction.heights program.code program.cells.length).map fun _ => ()

end StackScript
