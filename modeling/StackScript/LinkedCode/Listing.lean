import StackScript.LinkedCode

/-!
# Linked code listings

One line for each instruction in list order: its line, its operation, the name of its symbol and the
line of its target, as far as it has them.
-/

namespace StackScript.LinkedCode

/-- The line of an instruction in the listing. -/
def row (code : LinkedCode) (symbols : SymbolTable) (instruction : LinkedInstruction) : String :=
  let line := (instruction.line.map fun line => Text.decimal line).getD "?"
  let operand := (instruction.operand.bind symbols.get?).map (" " ++ ·.name)
  let target := (instruction.target.bind code.get?).bind LinkedInstruction.line
  line ++ ": " ++ instruction.operation.name ++ operand.getD ""
    ++ (target.map fun line => " " ++ Text.decimal line).getD ""

/-- The listing of linked code. -/
def listing (code : LinkedCode) (symbols : SymbolTable) : String :=
  Text.lines (code.toList.map fun (_, instruction) => code.row symbols instruction)

end StackScript.LinkedCode
