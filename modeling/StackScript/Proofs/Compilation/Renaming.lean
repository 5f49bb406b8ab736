import StackScript.Proofs.Compilation
import StackScript.Proofs.Tree.Renaming

/-!
# Layout and names

Where tokens stand and what variables are called decides nothing but lines and wordings: alike
tokens have the same syntax tree, the same diagnostics and the same program.
-/

namespace StackScript

/-- Trees of the same forms stand for the same terms. -/
theorem Tree.term_congr {tree other : Tree}
    (same : ∀ id, (tree.get? id).map Node.form = (other.get? id).map Node.form) (id : NodeId) :
    tree.term id = other.term id := by
  induction id using Nat.strongRecOn with
  | ind id induction =>
      have here := same id
      rw [term_eq, term_eq]
      cases found : tree.get? id with
      | none =>
          rw [found, Option.map_none, eq_comm, Option.map_eq_none_iff] at here
          rw [here]
      | some node =>
          rw [found, Option.map_some, eq_comm, Option.map_eq_some_iff] at here
          obtain ⟨node', found', form⟩ := here
          rw [found']
          simp only [form]
          refine Form.toTerm_congr fun child _ => ?_
          by_cases smaller : child < id
          · rw [if_pos smaller, if_pos smaller, induction child smaller]
          · rw [if_neg smaller, if_neg smaller]

/-! ## Assembly over renamed symbols -/

section Assembly

variable {symbols others : SymbolTable}

/-- Assembly looks at the slots of symbols only. -/
theorem LinkedInstruction.assemble_congr
    (slots : ∀ id, (symbols.get? id).bind Symbol.slot = (others.get? id).bind Symbol.slot)
    (instruction : LinkedInstruction) (code : LinkedCode) (index : Nat) :
    instruction.assemble symbols code index = instruction.assemble others code index := by
  have slot : instruction.slot symbols index = instruction.slot others index := by
    unfold LinkedInstruction.slot
    cases instruction.operand with
    | none => rfl
    | some id => simp only [slots id]
  unfold assemble
  rw [slot]

theorem LinkedCode.assembleFrom_congr
    (slots : ∀ id, (symbols.get? id).bind Symbol.slot = (others.get? id).bind Symbol.slot)
    (code : LinkedCode) (index : Nat) (instructions : List LinkedInstruction) :
    code.assembleFrom symbols index instructions =
      code.assembleFrom others index instructions := by
  induction instructions generalizing index with
  | nil => rfl
  | cons instruction rest induction =>
      rw [assembleFrom, assembleFrom, instruction.assemble_congr slots, induction]

theorem SymbolTable.bind_slot_assignSlots (table : SymbolTable) (id : SymbolId) :
    (table.assignSlots.get? id).bind Symbol.slot = if id < table.size then some id else none := by
  by_cases inside : id < table.size
  · rw [if_pos inside, slot_assignSlots inside]
  · have size : table.assignSlots.symbols.length = table.size := table.size_assignSlots
    have outside : table.assignSlots.symbols.length ≤ id := size.le.trans (Nat.le_of_not_lt inside)
    rw [if_neg inside, get?, List.getElem?_eq_none outside, Option.bind_none]

variable {renames : Renaming}

theorem SymbolTable.Renamed.size_eq (renamed : symbols.Renamed renames others) :
    symbols.size = others.size :=
  List.Forall₂.length_eq renamed

/-- Renamed symbols ask for the same cells. -/
theorem SymbolTable.Renamed.cells_eq (renamed : symbols.Renamed renames others) :
    symbols.cells = others.cells := by
  obtain ⟨entries⟩ := symbols
  obtain ⟨entries'⟩ := others
  change List.Forall₂ _ entries entries' at renamed
  unfold cells
  induction renamed with
  | nil => rfl
  | cons first _ induction =>
      rw [List.map_cons, List.map_cons, first.content_eq]
      exact congrArg _ induction

theorem Program.ofLinked?_renamed (renamed : symbols.Renamed renames others) (code : LinkedCode) :
    ofLinked? symbols.assignSlots code = ofLinked? others.assignSlots code := by
  have slots (id : SymbolId) : (symbols.assignSlots.get? id).bind Symbol.slot =
      (others.assignSlots.get? id).bind Symbol.slot := by
    rw [SymbolTable.bind_slot_assignSlots, SymbolTable.bind_slot_assignSlots, renamed.size_eq]
  rw [ofLinked?, ofLinked?, code.assembleFrom_congr slots, SymbolTable.cells_assignSlots,
    SymbolTable.cells_assignSlots, renamed.cells_eq]

end Assembly

/-! ## Whole scripts -/

/-- The program of a script is that of its significant tokens. -/
theorem Program.ofText?_of_significant {text : String} {tokens : List PlacedToken}
    (scanned : (Token.ofScript text).map Token.significant = .ok tokens) :
    ofText? text = (Compilation.ofTokens tokens).program? := by
  obtain ⟨all, read, rfl⟩ := Result.map_eq_ok_iff.1 scanned
  rw [ofText?, Compilation.ofText?, read]
  rfl

namespace Compilation

variable {renames : Renaming} {left right : Compilation}

theorem program?_renamed (renamed : left.draft.Renamed renames right.draft)
    (roots : left.root = right.root) : left.program? = right.program? := by
  have count : left.draft.diagnostics.size = right.draft.diagnostics.size := by
    have sizes := congrArg Array.size renamed.problems
    rwa [Array.size_map, Array.size_map] at sizes
  have terms : left.term = right.term := by
    rw [term, term, roots]
    exact Tree.term_congr renamed.form_eq right.root
  have assembles : left.assemble = right.assemble := by
    funext code
    rw [assemble, assemble, symbols, symbols, Program.ofLinked?_renamed renamed.symbols]
  rw [program?, program?, linked?, linked?, count, terms, assembles]

/-- From alike tokens, the same nodes are made, but for their lines: they agree one by one in kind,
type, symbol and children. The same diagnostics are recorded in the same order, but for lines and
the wording of faults of the grammar, and the symbols are those of the changed names. So the
programs are identical, if there are any, and scripts whose significant tokens are alike have one
program. -/
theorem alike_compiled_alike (renames : Renaming) {tokens others : List PlacedToken}
    (alike : renames.Alike tokens others) :
    let compilation := ofTokens tokens
    let renamed := ofTokens others
    compilation.root = renamed.root ∧
    compilation.draft.tree.nodes.map Node.outline = renamed.draft.tree.nodes.map Node.outline ∧
    compilation.draft.diagnostics.map Diagnostic.outline =
      renamed.draft.diagnostics.map Diagnostic.outline ∧
    compilation.draft.symbols.Renamed renames renamed.draft.symbols ∧
    compilation.program? = renamed.program? ∧
    ∀ text other, (Token.ofScript text).map Token.significant = .ok tokens →
      (Token.ofScript other).map Token.significant = .ok others →
        Program.ofText? text = Program.ofText? other := by
  obtain ⟨drafts, roots⟩ := Script.agree_draft alike
  have same : (ofTokens tokens).program? = (ofTokens others).program? :=
    program?_renamed drafts roots
  refine ⟨roots, drafts.nodes, drafts.problems, drafts.symbols, same, ?_⟩
  intro text other scanned scanned'
  rw [Program.ofText?_of_significant scanned, Program.ofText?_of_significant scanned']
  exact same

/-- The exchange of two names. -/
def exchange : Renaming where
  scope := {"x", "y"}
  newName name := if name = "x" then "y" else "x"
  injective := by
    intro first known second known' same
    rcases known with rfl | rfl <;> rcases known' with rfl | rfl <;> simp_all
  isName := by
    intro name known
    have letters : Lexer.IsName "x" ∧ Lexer.IsName "y" :=
      ⟨⟨'x', rfl, by decide +kernel⟩, ⟨'y', rfl, by decide +kernel⟩⟩
    rcases known with rfl | rfl
    · exact letters
    · exact letters.symm

/-- The tokens of a script that stores in one variable and writes the sum of two, with its second
statement on a line. -/
def sumTokens (first second : String) (line : Nat) : List PlacedToken :=
  [⟨.identifier first, ⟨1, 1⟩⟩, ⟨.assign, ⟨1, 3⟩⟩, ⟨.integer 1, ⟨1, 5⟩⟩, ⟨.semicolon, ⟨1, 6⟩⟩,
    ⟨.printKeyword, ⟨line, 1⟩⟩, ⟨.identifier second, ⟨line, 7⟩⟩, ⟨.plus, ⟨line, 9⟩⟩,
    ⟨.identifier first, ⟨line, 11⟩⟩, ⟨.semicolon, ⟨line, 12⟩⟩, ⟨.endOfFile, ⟨line, 13⟩⟩]

theorem alike_compiled_alike_exchange :
    exchange.Alike (sumTokens "x" "y" 1) (sumTokens "y" "x" 3) ∧
      (ofTokens (sumTokens "x" "y" 1)).draft.diagnostics.size = 0 ∧
      (ofTokens (sumTokens "x" "y" 1)).program? = (ofTokens (sumTokens "y" "x" 3)).program? := by
  have alike : exchange.Alike (sumTokens "x" "y" 1) (sumTokens "y" "x" 3) := by
    have x : (Token.identifier "x").Renamed exchange (.identifier "y") :=
      .identifier (.inl rfl)
    have y : (Token.identifier "y").Renamed exchange (.identifier "x") :=
      .identifier (.inr rfl)
    have same (token : Token) (plain : ∀ name, token ≠ .identifier name) :
        token.Renamed exchange token := .same plain
    exact .cons x (.cons (same _ (by simp)) (.cons (same _ (by simp)) (.cons (same _ (by simp))
      (.cons (same _ (by simp)) (.cons y (.cons (same _ (by simp)) (.cons x
        (.cons (same _ (by simp)) (.cons (same _ (by simp)) .nil)))))))))
  exact ⟨alike, by decide +kernel, (alike_compiled_alike exchange alike).2.2.2.2.1⟩

end Compilation

end StackScript
