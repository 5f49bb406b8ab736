import StackScript.LinkedCode
import StackScript.Program

/-!
# Assembly

Numbered linked code becomes a program: symbols are replaced by their memory slots and landings by
offsets. A landing stays behind as an instruction that does nothing, and a jump to it goes on just
behind it.
-/

namespace StackScript

/-- What keeps linked code from becoming a program. -/
inductive AssemblyFault where
  /-- The landing of a jump has no line. -/
  | unnumbered (index : Nat) (operation : Operation)
  /-- A jump has no landing. -/
  | missingTarget (index : Nat) (operation : Operation)
  /-- An instruction that works on a symbol has none. -/
  | missingOperand (index : Nat) (operation : Operation)
  /-- A symbol has no memory slot. -/
  | unresolvedSymbol (symbol : SymbolId)
  /-- A landing is too far from its jump. -/
  | displacementOverflow (index : Nat)
deriving DecidableEq, Repr

/-- The wording of a fault. -/
def AssemblyFault.message : AssemblyFault → String
  | unnumbered index operation =>
      "compile error: instruction " ++ Text.decimal index ++ " (" ++ operation.name
        ++ ") has no line number"
  | missingTarget index operation =>
      "compile error: jump at " ++ Text.decimal index ++ " (" ++ operation.name ++ ") has no target"
  | missingOperand index operation =>
      "compile error: instruction " ++ Text.decimal index ++ " (" ++ operation.name
        ++ ") has no symbol operand"
  | unresolvedSymbol symbol =>
      "compile error: symbol #" ++ Text.decimal symbol ++ " has no value slot"
  | displacementOverflow index =>
      "compile error: jump displacement out of range at " ++ Text.decimal index

/-- What a cell holds at first for a symbol. -/
def Content.cell : Content → Cell
  | .identifier => .unknown
  | .string text => .string text
  | .integer value => .integer value

/-- The memory that a program starts with: a cell for each symbol. -/
def SymbolTable.cells (table : SymbolTable) : List Cell :=
  table.symbols.map (·.content.cell)

namespace LinkedInstruction

/-- The memory slot of an instruction's symbol. -/
def slot (instruction : LinkedInstruction) (symbols : SymbolTable) (index : Nat) :
    Except AssemblyFault Nat :=
  match instruction.operand with
  | none => .error (.missingOperand index instruction.operation)
  | some id =>
      match (symbols.get? id).bind Symbol.slot with
      | none => .error (.unresolvedSymbol id)
      | some slot => .ok slot

/-- The offset of a jump: lines count from one and indexes from zero, so it goes on one instruction
behind its landing. -/
def displacement (instruction : LinkedInstruction) (code : LinkedCode) (index : Nat) :
    Except AssemblyFault Int32 :=
  match instruction.target.bind code.get? with
  | none => .error (.missingTarget index instruction.operation)
  | some landing =>
      match landing.line with
      | none => .error (.unnumbered index instruction.operation)
      | some line =>
          let distance : Int := (line : Int) - (index : Int)
          if Int32.minValue.toInt ≤ distance ∧ distance ≤ Int32.maxValue.toInt then
            .ok (Int32.ofInt distance)
          else .error (.displacementOverflow index)

/-- The machine instruction of a linked instruction at an index of the list. -/
def assemble (instruction : LinkedInstruction) (symbols : SymbolTable) (code : LinkedCode)
    (index : Nat) : Except AssemblyFault Instruction :=
  match instruction.operation with
  | .nop | .landing => .ok .nop
  | .push => (instruction.slot symbols index).map .push
  | .getTop => (instruction.slot symbols index).map .getTop
  | .discard => .ok .discard
  | .print => .ok .print
  | .input => (instruction.slot symbols index).map .input
  | .jump => (instruction.displacement code index).map .jump
  | .jumpIfFalse => (instruction.displacement code index).map .jumpIfFalse
  | .equal => .ok .equal
  | .boolEqual => .ok .boolEqual
  | .add => .ok .add
  | .boolToString => .ok .boolToString
  | .integerToString => .ok .integerToString
  | .stringToInteger => .ok .stringToInteger

end LinkedInstruction

/-- The machine instructions of linked instructions from an index of the list on. -/
def LinkedCode.assembleFrom (code : LinkedCode) (symbols : SymbolTable) (index : Nat) :
    List LinkedInstruction → Except AssemblyFault (List Instruction)
  | [] => .ok []
  | instruction :: rest => do
      let first ← instruction.assemble symbols code index
      let others ← code.assembleFrom symbols (index + 1) rest
      return first :: others

/-- The program of linked code over symbols that have their memory slots. -/
def Program.ofLinked? (symbols : SymbolTable) (code : LinkedCode) :
    Except AssemblyFault Program :=
  (code.assembleFrom symbols 0 (code.toList.map Prod.snd)).map (⟨·, symbols.cells⟩)

end StackScript
