import StackScript.Program
import StackScript.Text.Column
import StackScript.Text.Quoted

/-!
# Program listings

A listing shows the cells a program starts with and then its instructions by number. Where a jump
goes, a rule stands above the instruction and a mark in front of it; the place behind the last
instruction has a line of its own if a jump goes there.
-/

namespace StackScript

/-- The rule above and below a heading. -/
def Program.headingRule : String :=
  Text.repeated 40 '═'

/-- The rule above a place that a jump goes to. -/
def Program.landingRule : String :=
  "      ┌" ++ Text.repeated 34 '─'

/-- A cell in a listing. -/
def Cell.listed : Cell → String
  | free => "<free>"
  | unknown => "<unset>"
  | string text => Text.quoted text
  | integer value => Text.decimal value.toInt

namespace Instruction

/-- The offset of a jump with the place it goes to. -/
def listedJump (ip : Nat) (offset : Int32) : String :=
  Text.signed offset.toInt ++ " (→ " ++ Text.zeroPadded 4 (ip + offset.toInt) ++ ")"

/-- An instruction in a listing. -/
def listed (ip : Nat) : Instruction → String
  | push slot => "PUSH        [" ++ Text.decimal slot ++ "]"
  | getTop slot => "GETTOP      [" ++ Text.decimal slot ++ "]   ; ( a -- a )"
  | input slot => "INPUT       [" ++ Text.decimal slot ++ "]"
  | jump offset => "JMP         " ++ listedJump ip offset
  | jumpIfFalse offset => "JMPF        " ++ listedJump ip offset
  | discard => "DISCARD     ; ( a -- )"
  | print => "PRINT       ; ( a -- )"
  | equal => "EQUAL       ; ( a b -- bool )"
  | boolEqual => "BOOL_EQUAL  ; ( bool bool -- bool )"
  | add => "ADD         ; ( a b -- a+b )"
  | other => other.name

/-- The place that a jump goes to, as an unsigned word. A place in front of the first instruction
comes to stand behind all others. -/
def destination (ip : Nat) (offset : Int32) : Nat :=
  ((ip + offset.toInt) % UInt64.size).toNat

/-- The places that jumps among instructions go to, counted from the first instruction. -/
def destinations (code : List Instruction) : List Nat :=
  code.zipIdx.filterMap fun (instruction, ip) => instruction.offset?.map (destination ip)

/-- The lines of an entry: the rule, if a jump goes there, and the entry under its number. -/
def entry (marked : Bool) (ip : Nat) (text : String) : List String :=
  let line := Text.zeroPadded 4 ip ++ (if marked then " ► " else "   ") ++ text
  if marked then [Program.landingRule, line] else [line]

/-- The lines of instructions from a number on, given the places that jumps go to. -/
def rows (targets : List Nat) (ip : Nat) : List Instruction → List String
  | [] => if targets.contains ip then entry true ip "END" else []
  | instruction :: rest =>
      entry (targets.contains ip) ip (instruction.listed ip) ++ rows targets (ip + 1) rest

end Instruction

namespace Program

/-- The line of a cell in a listing. -/
def cellRow (cell : Cell) (slot : Nat) : String :=
  "  [" ++ Text.rightAligned 3 (Text.decimal slot) ++ "] " ++ cell.listed

/-- The listing of a program. -/
def listing (program : Program) : String :=
  let cellCount := Text.decimal program.cells.length
  let instructionCount := Text.decimal program.code.length
  let rows := Instruction.rows (Instruction.destinations program.code) 0 program.code
  Text.lines
    ([headingRule, " cells (" ++ cellCount ++ ")", headingRule]
      ++ (program.cells.zipIdx.map fun (cell, slot) => cellRow cell slot)
      ++ ["", headingRule, " main", " " ++ instructionCount ++ " instructions", headingRule]
      ++ rows)

end Program

end StackScript
