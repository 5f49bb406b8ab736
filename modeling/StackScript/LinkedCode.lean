import StackScript.Symbol

/-!
# Linked code

Linked code is a list of instructions in which each one names its successor. The instructions are
kept in the order of their creation, which is not the order of the list. A jump and the landing that
it goes to name each other; both take a line when the list is numbered.
-/

namespace StackScript

/-- The operation of a linked instruction. -/
inductive Operation where
  | nop
  | push
  | getTop
  | discard
  | print
  | input
  | jump
  | jumpIfFalse
  | equal
  | boolEqual
  | add
  | boolToString
  | integerToString
  | stringToInteger
  /-- The place where a jump lands. -/
  | landing
deriving DecidableEq, Repr

namespace Operation

/-- The name of an operation in listings and messages. -/
def name : Operation → String
  | nop => "OP_NOP"
  | push => "OP_PUSH"
  | getTop => "OP_GETTOP"
  | discard => "OP_DISCARD"
  | print => "OP_PRINT"
  | input => "OP_INPUT"
  | jump => "OP_JMP"
  | jumpIfFalse => "OP_JMPF"
  | equal => "OP_EQUAL"
  | boolEqual => "OP_BOOL_EQUAL"
  | add => "OP_ADD"
  | boolToString => "OP_BOOL2STR"
  | integerToString => "OP_INT2STR"
  | stringToInteger => "OP_STR2INT"
  | landing => "JUMPTARGET"

/-- All operations. -/
def all : List Operation :=
  [nop, push, getTop, discard, print, input, jump, jumpIfFalse, equal, boolEqual, add, boolToString,
    integerToString, stringToInteger, landing]

/-- Whether an operation goes to a landing. -/
def isJump : Operation → Bool
  | jump | jumpIfFalse => true
  | _ => false

/-- Whether an operation has a symbol for its operand. -/
def takesSymbol : Operation → Bool
  | push | getTop | input => true
  | _ => false

end Operation

/-- The number of a linked instruction in the order of creation. -/
abbrev InstructionId := Nat

/-- An instruction of linked code. -/
structure LinkedInstruction where
  /-- What the instruction does. -/
  operation : Operation
  /-- The symbol that it does it with. -/
  operand : Option SymbolId
  /-- The landing of a jump, or the jump of a landing. -/
  target : Option InstructionId
  /-- The instruction after it. -/
  next : Option InstructionId
  /-- Its place in the list, once the list is numbered. -/
  line : Option Nat
deriving DecidableEq, Repr

/-- The first and last instruction of a part of a list. -/
structure Segment where
  /-- The first instruction. -/
  head : InstructionId
  /-- The last instruction. -/
  tail : InstructionId
deriving DecidableEq, Repr

/-- Instructions linked to a list. -/
structure LinkedCode where
  /-- The instructions in the order of their creation. -/
  instructions : Array LinkedInstruction
  /-- The first instruction of the list. -/
  head : Option InstructionId
deriving DecidableEq, Repr

namespace LinkedCode

/-- The list without instructions. -/
def empty : LinkedCode := ⟨#[], none⟩

/-- The instruction of a number. -/
def get? (code : LinkedCode) (id : InstructionId) : Option LinkedInstruction :=
  code.instructions[id]?

/-- The code with one more instruction, which is a segment by itself. -/
def create (code : LinkedCode) (operation : Operation) (operand : Option SymbolId)
    (target : Option InstructionId) : LinkedCode × Segment :=
  let id := code.instructions.size
  ({ code with instructions := code.instructions.push ⟨operation, operand, target, none, none⟩ },
    ⟨id, id⟩)

/-- The code with one more instruction that has an operand. -/
def emitWith (code : LinkedCode) (operation : Operation) (operand : Option SymbolId) :
    LinkedCode × Segment :=
  code.create operation operand none

/-- The code with one more instruction. -/
def emit (code : LinkedCode) (operation : Operation) : LinkedCode × Segment :=
  code.create operation none none

/-- The code with one more landing, that of a jump. -/
def emitLanding (code : LinkedCode) (jump : InstructionId) : LinkedCode × Segment :=
  code.create .landing none (some jump)

/-- The code in which an instruction is a jump to another, or the landing of it. -/
def setTarget (code : LinkedCode) (id target : InstructionId) : LinkedCode :=
  { code with instructions := code.instructions.modify id ({ · with target := some target }) }

/-- The code in which one segment follows another, and the two as one segment. -/
def append (code : LinkedCode) (first second : Segment) : LinkedCode × Segment :=
  let link (last : LinkedInstruction) := { last with next := some second.head }
  ({ code with instructions := code.instructions.modify first.tail link },
    ⟨first.head, second.tail⟩)

/-- The code in which segments follow a first one in turn, and all of them as one segment. -/
def join (code : LinkedCode) (first : Segment) (others : List Segment) : LinkedCode × Segment :=
  others.foldl (fun (code, joined) next => code.append joined next) (code, first)

/-- The code in which the landing of a jump stands in front of a segment. -/
def land (code : LinkedCode) (segment : Segment) (jump : InstructionId) : LinkedCode × Segment :=
  let (code, landing) := code.emitLanding jump
  code.append landing segment

/-- The instructions from one on in list order, and no more than a number of them. -/
def listFrom (code : LinkedCode) :
    Nat → Option InstructionId → List (InstructionId × LinkedInstruction)
  | 0, _ => []
  | _ + 1, none => []
  | count + 1, some id =>
      match code.get? id with
      | none => []
      | some instruction => (id, instruction) :: code.listFrom count instruction.next

/-- The instructions in list order. -/
def toList (code : LinkedCode) : List (InstructionId × LinkedInstruction) :=
  code.listFrom code.instructions.size code.head

/-- The number of instructions in the list. -/
def length (code : LinkedCode) : Nat :=
  code.toList.length

/-- The code in which an instruction has a line. -/
def setLine (code : LinkedCode) (id : InstructionId) (line : Nat) : LinkedCode :=
  { code with instructions := code.instructions.modify id ({ · with line := some line }) }

/-- The code in which the instructions of the list have consecutive lines. -/
def number (code : LinkedCode) (start : Nat) : LinkedCode :=
  (code.toList.zipIdx start).foldl (fun code ((id, _), line) => code.setLine id line) code

end LinkedCode

end StackScript
