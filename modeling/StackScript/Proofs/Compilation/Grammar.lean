import Mathlib.Data.List.Basic
import StackScript.Compilation
import StackScript.Proofs.Grammar.Drafting

/-!
# Scripts and the grammar

Tokens are read without a fault of the grammar exactly if they derive from it, and then the syntax
tree is that of the one derivation in which every `else` belongs to the nearest conditional.
-/

namespace StackScript

variable {tokens : List PlacedToken} {position : Position} {trees : List Grammar.Statement}

theorem Cursor.tokens_start (tokens : List PlacedToken) (position : Position) :
    (Cursor.start (tokens ++ [⟨.endOfFile, position⟩])).tokens =
      tokens.map PlacedToken.token ++ [.endOfFile] :=
  List.map_append

/-- At the end there is no token, or the one that stands for the end. -/
theorem Cursor.tokens_of_atEnd {cursor : Cursor} (ended : cursor.atEnd = true) :
    cursor.tokens = [] ∨ ∃ rest, cursor.tokens = .endOfFile :: rest := by
  rw [atEnd, peek?_eq] at ended
  split at ended
  next nothing => exact .inl (List.head?_eq_none_iff.1 nothing)
  next last => exact .inr (List.head?_eq_some_iff.1 last)
  next => cases ended

namespace Script

/-- A script of which nothing was given up derives from the grammar. -/
theorem derive_of_areWhole (inside : ∀ placed ∈ tokens, placed.token ≠ .endOfFile)
    (whole : Statement.areWhole
      (ofTokens (tokens ++ [⟨.endOfFile, position⟩])).statements = true) :
    ∃ trees, Grammar.Statement.DeriveAll (tokens.map PlacedToken.token) trees := by
  rcases made : readMany (tokens ++ [PlacedToken.mk .endOfFile position]).length
    (.start (tokens ++ [PlacedToken.mk .endOfFile position])) with ⟨statements, next⟩
  rw [ofTokens, made] at whole
  obtain ⟨read, trees, shape, derive, ended⟩ := sound_readMany made (Nat.le_refl _) whole
  have before : .endOfFile ∉ tokens.map PlacedToken.token := by
    rw [List.mem_map]
    rintro ⟨placed, member, same⟩
    exact inside placed member same
  rw [Cursor.tokens_start] at shape
  rcases Cursor.tokens_of_atEnd ended with nothing | ⟨rest, behind⟩
  · rw [nothing, List.append_nil] at shape
    exact absurd (shape ▸ List.mem_append_right _ (List.mem_singleton_self _))
      derive.endOfFile_notMem
  · rw [behind, List.append_cons_inj_of_notMem before List.not_mem_nil] at shape
    exact ⟨trees, shape.1 ▸ derive⟩

/-- A script that derives from the grammar shows its derivation. -/
theorem showAll_of_derive
    (derive : Grammar.Statement.DeriveAll (tokens.map PlacedToken.token) trees)
    (nearest : ∀ tree ∈ trees, tree.NearestElse) (position : Position) :
    Statement.ShowAll (ofTokens (tokens ++ [⟨.endOfFile, position⟩])).statements trees := by
  refine finds_readMany derive nearest ?_ (Cursor.tokens_start tokens position) rfl
  rw [List.length_map, List.length_append]
  omega

/-- Nothing of a script is given up exactly if it derives from the grammar. -/
theorem areWhole_iff_derive (inside : ∀ placed ∈ tokens, placed.token ≠ .endOfFile)
    (position : Position) :
    Statement.areWhole (ofTokens (tokens ++ [⟨.endOfFile, position⟩])).statements = true ↔
      ∃ trees, Grammar.Statement.DeriveAll (tokens.map PlacedToken.token) trees := by
  refine ⟨derive_of_areWhole inside, fun ⟨_, derive⟩ => ?_⟩
  obtain ⟨trees, derive, nearest⟩ := derive.nearest
  exact (showAll_of_derive derive nearest position).areWhole

end Script

namespace Compilation

theorem symbols_ofTokens (tokens : List PlacedToken) :
    (ofTokens tokens).draft.symbols =
      SymbolTable.empty.addAll (Statement.allMentions (Script.ofTokens tokens).statements) :=
  (Draft.symbols_block _ _ _).trans (Statement.symbols_draftAll _ .empty)

theorem term_ofTokens (tokens : List PlacedToken) :
    (ofTokens tokens).term =
      .inTurn (Statement.terms (ofTokens tokens).draft.symbols.idOf
        (Script.ofTokens tokens).statements) :=
  (Draft.denotes_block (Script.ofTokens tokens).line
    (Statement.denoteAll_draftAll _ .empty)).term _ (List.prefix_refl _)

/-- A fault of the grammar is recorded each time that a part of a statement was given up. -/
theorem faults_ofTokens (tokens : List PlacedToken) :
    (ofTokens tokens).draft.faults = Statement.allFaults (Script.ofTokens tokens).statements :=
  (Draft.faults_block _ _ _).trans
    ((Statement.faults_draftAll _ .empty).trans (Nat.zero_add _))

theorem grammatical_iff_areWhole (tokens : List PlacedToken) :
    (ofTokens tokens).draft.Grammatical ↔
      Statement.areWhole (Script.ofTokens tokens).statements = true := by
  rw [Draft.grammatical_iff_faults, faults_ofTokens, Statement.areWhole_iff]

/-- Tokens are read without a fault of the grammar exactly if they derive from it. In this case
there is one derivation in which every `else` belongs to the nearest conditional, and the term of
the script is that of its statements in turn, but for conversions of operands. -/
theorem grammatical_iff_derives (inside : ∀ placed ∈ tokens, placed.token ≠ .endOfFile)
    (position : Position) :
    let script := tokens.map PlacedToken.token
    let compilation := ofTokens (tokens ++ [⟨.endOfFile, position⟩])
    (compilation.draft.Grammatical ↔ ∃ trees, Grammar.Statement.DeriveAll script trees) ∧
      (compilation.draft.Grammatical → ∃ trees,
        Grammar.Statement.DeriveAll script trees ∧ (∀ tree ∈ trees, tree.NearestElse) ∧
          (∀ others, Grammar.Statement.DeriveAll script others →
            (∀ tree ∈ others, tree.NearestElse) → others = trees) ∧
          (Grammar.Statement.terms? trees compilation.draft.symbols).map .inTurn =
            some compilation.term.withoutCoercions) := by
  intro script compilation
  have sound (grammatical : compilation.draft.Grammatical) :
      ∃ trees, Grammar.Statement.DeriveAll script trees :=
    Script.derive_of_areWhole inside ((grammatical_iff_areWhole _).1 grammatical)
  refine ⟨⟨sound, fun ⟨_, derive⟩ => ?_⟩, fun grammatical => ?_⟩
  · obtain ⟨trees, derive, nearest⟩ := derive.nearest
    exact (grammatical_iff_areWhole _).2 (Script.showAll_of_derive derive nearest position).areWhole
  · obtain ⟨_, derive⟩ := sound grammatical
    obtain ⟨trees, derive, nearest⟩ := derive.nearest
    have show' := Script.showAll_of_derive derive nearest position
    refine ⟨trees, derive, nearest, fun others derive' nearest' =>
      (Script.showAll_of_derive derive' nearest' position).unique show', ?_⟩
    have unfolds := Draft.unfolds_block
      (Script.ofTokens (tokens ++ [⟨.endOfFile, position⟩])).line
      (Statement.unfold_draftAll show' .empty)
    rw [Option.map_eq_bind]
    exact unfolds.term

/-- Two conditionals in front of one `else`, with a sum of three values and two assignments. -/
def danglingElse : List PlacedToken :=
  [.ifKeyword, .leftParen, .identifier "a", .equal, .identifier "b", .rightParen,
    .ifKeyword, .leftParen, .identifier "b", .equal, .identifier "a", .rightParen,
    .printKeyword, .identifier "a", .plus, .integer 1, .plus, .identifier "b", .semicolon,
    .elseKeyword, .identifier "a", .assign, .identifier "b", .assign, .identifier "a",
    .semicolon].map (PlacedToken.mk · .start)

/-- The term in which the `else` belongs to the second conditional. -/
def danglingElseTerm : Term :=
  .ifThen (.equals (.identifier 0) (.identifier 1))
    (.ifElse (.equals (.identifier 1) (.identifier 0))
      (.print (.add (.add (.identifier 0) (.integerConstant 2)) (.identifier 1)))
      (.evaluate (.assign 0 (.assign 1 (.identifier 0)))))

theorem grammatical_iff_derives_danglingElse :
    (∀ placed ∈ danglingElse, placed.token ≠ .endOfFile) ∧
      ∃ trees symbols, Grammar.Statement.DeriveAll (danglingElse.map PlacedToken.token) trees ∧
        (∀ tree ∈ trees, tree.NearestElse) ∧
          (Grammar.Statement.terms? trees symbols).map Term.inTurn = some danglingElseTerm := by
  have inside : ∀ placed ∈ danglingElse, placed.token ≠ .endOfFile := by decide
  have facts :
      (ofTokens (danglingElse ++ [⟨.endOfFile, .start⟩])).draft.diagnostics = #[] ∧
        (ofTokens (danglingElse ++ [⟨.endOfFile, .start⟩])).term.withoutCoercions =
          danglingElseTerm := by decide +kernel
  have grammatical :
      (ofTokens (danglingElse ++ [⟨.endOfFile, .start⟩])).draft.Grammatical := by
    intro diagnostic member
    rw [facts.1] at member
    simp at member
  obtain ⟨trees, derive, nearest, -, term⟩ :=
    (grammatical_iff_derives inside .start).2 grammatical
  exact ⟨inside, trees, _, derive, nearest, facts.2 ▸ term⟩

end Compilation

end StackScript
