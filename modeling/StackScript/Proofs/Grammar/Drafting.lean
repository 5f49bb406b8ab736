import StackScript.Proofs.Grammar.Completeness
import StackScript.Proofs.Tree.Denotation

/-!
# The syntax tree of a derivation

A fault of the grammar is reported exactly if a statement was given up. The nodes that are drafted
for phrases that show the tree of a derivation unfold to that tree, but for the conversions that
additions put over their right operands.
-/

namespace StackScript

/-! ## Faults of the grammar -/

/-- Whether a problem is a fault of the grammar. -/
def Problem.isMalformed : Problem → Bool
  | malformed _ => true
  | _ => false

/-- An addition that is refused is no fault of the grammar. -/
theorem Coercion.isMalformed_of_forAddend {left right : Ty} {problem : Problem}
    (refused : forAddend left right = .error problem) : problem.isMalformed = false := by
  unfold forAddend at refused
  split at refused <;> cases refused <;> rfl

mutual

/-- The number of times that a part of a statement was given up. -/
def Statement.faults : Statement → Nat
  | .broken _ _ _ => 1
  | .unclosed statements _ _ => Statement.allFaults statements + 1
  | .ifThen _ body _ => body.faults
  | .ifElse _ body otherwise _ => body.faults + otherwise.faults
  | .block statements _ => Statement.allFaults statements
  | .empty _ | .evaluate _ _ | .print _ _ | .input _ _ => 0

/-- The number of times that a part of some statements was given up. -/
def Statement.allFaults : List Statement → Nat
  | [] => 0
  | first :: rest => first.faults + Statement.allFaults rest

end

namespace Statement

mutual

theorem isWhole_iff (statement : Statement) :
    statement.isWhole = true ↔ statement.faults = 0 := by
  cases statement with
  | empty | evaluate | print | input => exact iff_of_true rfl rfl
  | ifThen condition body line => exact isWhole_iff body
  | ifElse condition body otherwise line =>
      rw [isWhole, Bool.and_eq_true, isWhole_iff body, isWhole_iff otherwise, faults,
        Nat.add_eq_zero_iff]
  | block statements line => exact areWhole_iff statements
  | broken fragments error line => simp [isWhole, faults]
  | unclosed statements error line => simp [isWhole, faults]

theorem areWhole_iff (statements : List Statement) :
    areWhole statements = true ↔ allFaults statements = 0 := by
  cases statements with
  | nil => exact iff_of_true rfl rfl
  | cons first rest =>
      rw [areWhole, Bool.and_eq_true, isWhole_iff first, areWhole_iff rest, allFaults,
        Nat.add_eq_zero_iff]

end

end Statement

namespace Draft

/-- No fault of the grammar has been recorded. -/
def Grammatical (draft : Draft) : Prop :=
  ∀ diagnostic ∈ draft.diagnostics, ∀ message, diagnostic.problem ≠ .malformed message

/-- The number of faults of the grammar that have been recorded. -/
def faults (draft : Draft) : Nat :=
  draft.diagnostics.countP (·.problem.isMalformed)

variable {draft : Draft}

theorem grammatical_iff_faults : draft.Grammatical ↔ draft.faults = 0 := by
  rw [Grammatical, faults, Array.countP_eq_zero]
  refine forall_congr' fun diagnostic => imp_congr_right fun _ => ?_
  cases diagnostic.problem <;> simp [Problem.isMalformed]

theorem grammatical_of_clean (clean : draft.diagnostics.toList = []) : draft.Grammatical := by
  intro diagnostic member
  rw [← Array.mem_toList_iff, clean] at member
  exact absurd member List.not_mem_nil

theorem faults_report (draft : Draft) (line : Nat) (problem : Problem) :
    (draft.report line problem).faults =
      draft.faults + if problem.isMalformed then 1 else 0 := by
  rw [report, faults, Array.countP_push]
  rfl

theorem faults_report_of_not_isMalformed (draft : Draft) (line : Nat) {problem : Problem}
    (other : problem.isMalformed = false) : (draft.report line problem).faults = draft.faults := by
  rw [faults_report, other]
  rfl

theorem faults_push (draft : Draft) (form : Form) (type : Ty) (line : Nat) :
    (draft.push form type line).1.faults = draft.faults :=
  rfl

theorem faults_checkCondition (draft : Draft) (line : Nat) (condition : NodeId) :
    (draft.checkCondition line condition).faults = draft.faults := by
  simp only [checkCondition]
  split
  · rfl
  · exact draft.faults_report_of_not_isMalformed line rfl

theorem faults_equals (draft : Draft) (line : Nat) (left right : NodeId) :
    (draft.equals line left right).1.faults = draft.faults := by
  simp only [equals, faults_push]
  split
  · rfl
  · exact draft.faults_report_of_not_isMalformed line rfl

theorem faults_add (draft : Draft) (line : Nat) (left right : NodeId) :
    (draft.add line left right).1.faults = draft.faults := by
  simp only [add, faults_push]
  split
  · rfl
  next coercion _ => cases coercion <;> rfl
  next problem refused =>
    exact draft.faults_report_of_not_isMalformed line
      (Coercion.isMalformed_of_forAddend refused)

theorem faults_block (draft : Draft) (line : Nat) (ids : List NodeId) :
    (draft.block line ids).1.faults = draft.faults := by
  cases ids with
  | nil => rfl
  | cons first rest =>
      rw [block]
      induction rest generalizing draft first with
      | nil => rfl
      | cons next rest induction => exact induction (draft.sequence line first next).1 _

theorem faults_giveUp (draft : Draft) (error : GrammarError) (line : Nat) :
    (draft.giveUp error line).1.faults = draft.faults + 1 :=
  draft.faults_report error.line _

end Draft

theorem Expression.faults_draft (expression : Expression) (draft : Draft) :
    (expression.draft draft).1.faults = draft.faults := by
  induction expression generalizing draft with
  | atom symbol line =>
      simp only [Expression.draft, draftAtom]
      split <;> rfl
  | assign target value line induction => exact induction _
  | equals left right line inductionLeft inductionRight =>
      exact (Draft.faults_equals _ _ _ _).trans ((inductionRight _).trans (inductionLeft draft))
  | add left right line inductionLeft inductionRight =>
      exact (Draft.faults_add _ _ _ _).trans ((inductionRight _).trans (inductionLeft draft))

theorem Fragment.faults_foldl (fragments : List Fragment) (draft : Draft) :
    (fragments.foldl Fragment.draft draft).faults = draft.faults := by
  induction fragments generalizing draft with
  | nil => rfl
  | cons first fragments induction =>
      refine (induction _).trans ?_
      cases first with
      | target symbol => rfl
      | expression value => exact value.faults_draft draft

namespace Statement

mutual

/-- A fault of the grammar is recorded each time that a part of a statement was given up. -/
theorem faults_draft (statement : Statement) (draft : Draft) :
    (statement.draft draft).1.faults = draft.faults + statement.faults := by
  cases statement with
  | empty line => rfl
  | evaluate value line | print value line => exact value.faults_draft draft
  | input target line => rfl
  | ifThen condition body line =>
      rw [faults, ← condition.faults_draft draft, ← faults_draft body]
      exact Draft.faults_checkCondition _ _ _
  | ifElse condition body otherwise line =>
      rw [faults, ← Nat.add_assoc, ← condition.faults_draft draft, ← faults_draft body,
        ← faults_draft otherwise]
      exact Draft.faults_checkCondition _ _ _
  | block statements line =>
      rw [faults, ← faults_draftAll statements]
      exact Draft.faults_block _ _ _
  | broken fragments error line =>
      rw [faults, ← Fragment.faults_foldl fragments draft]
      exact Draft.faults_giveUp _ _ _
  | unclosed statements error line =>
      rw [faults, ← Nat.add_assoc, ← faults_draftAll statements]
      exact Draft.faults_giveUp _ _ _

theorem faults_draftAll (statements : List Statement) (draft : Draft) :
    (draftAll draft statements).1.faults = draft.faults + allFaults statements := by
  cases statements with
  | nil => rfl
  | cons first rest =>
      rw [allFaults, ← Nat.add_assoc, ← faults_draft first, ← faults_draftAll rest]
      rfl

end

end Statement

/-! ## Trees as terms -/

namespace Term

/-- A term without the conversions of operands. -/
def withoutCoercions : Term → Term
  | sequence first second => .sequence first.withoutCoercions second.withoutCoercions
  | empty => .empty
  | evaluate value => .evaluate value.withoutCoercions
  | print value => .print value.withoutCoercions
  | input target => .input target
  | ifThen condition body => .ifThen condition.withoutCoercions body.withoutCoercions
  | ifElse condition body otherwise =>
      .ifElse condition.withoutCoercions body.withoutCoercions otherwise.withoutCoercions
  | error => .error
  | equals left right => .equals left.withoutCoercions right.withoutCoercions
  | assign target value => .assign target value.withoutCoercions
  | add left right => .add left.withoutCoercions right.withoutCoercions
  | identifier symbol => .identifier symbol
  | stringConstant symbol => .stringConstant symbol
  | integerConstant symbol => .integerConstant symbol
  | coerceToString operand => operand.withoutCoercions
  | coerceToInteger operand => operand.withoutCoercions

@[simp] theorem withoutCoercions_addend (left : Ty) (right : Term) :
    (addend left right).withoutCoercions = right.withoutCoercions := by
  unfold addend
  split
  next coercion _ => cases coercion <;> rfl
  · rfl
  · rfl

theorem withoutCoercions_inTurn (terms : List Term) :
    (inTurn terms).withoutCoercions = inTurn (terms.map withoutCoercions) := by
  cases terms with
  | nil => rfl
  | cons first rest =>
      rw [inTurn]
      induction rest generalizing first with
      | nil => rfl
      | cons next rest induction => exact induction _

end Term

namespace Grammar

/-- The term of an expression over a table that has the symbols of all that it mentions. -/
def Expression.term? : Expression → SymbolTable → Option Term
  | identifier name, table => return .identifier (← table.indexOf? name)
  | string text, table => return .stringConstant (← table.indexOf? (Text.quoted text))
  | integer value, table => return .integerConstant (← table.indexOf? (Text.decimal value.toInt))
  | assign target value, table =>
      return .assign (← table.indexOf? target) (← value.term? table)
  | equals left right, table => return .equals (← left.term? table) (← right.term? table)
  | add left right, table => return .add (← left.term? table) (← right.term? table)

mutual

/-- The term of a statement over a table that has the symbols of all that it mentions. -/
def Statement.term? : Statement → SymbolTable → Option Term
  | .empty, _ => return .empty
  | .evaluate value, table => return .evaluate (← value.term? table)
  | .print value, table => return .print (← value.term? table)
  | .input target, table => return .input (← table.indexOf? target)
  | .ifThen condition body, table =>
      return .ifThen (← condition.term? table) (← body.term? table)
  | .ifElse condition body otherwise, table =>
      return .ifElse (← condition.term? table) (← body.term? table) (← otherwise.term? table)
  | .block statements, table => return .inTurn (← Statement.terms? statements table)

/-- The terms of statements. -/
def Statement.terms? : List Statement → SymbolTable → Option (List Term)
  | [], _ => return []
  | first :: rest, table => return (← first.term? table) :: (← Statement.terms? rest table)

end

end Grammar

/-! ## Unfolding -/

/-- The table has the names of symbols. -/
def SymbolTable.Knows (table : SymbolTable) (symbols : List Symbol) : Prop :=
  ∀ symbol ∈ symbols, table.indexOf? symbol.name = some (table.idOf symbol.name)

theorem SymbolTable.knows_addAll (table : SymbolTable) (symbols : List Symbol) :
    (table.addAll symbols).Knows symbols :=
  fun _ member => indexOf?_eq_some_idOf (name_mem_addAll table member)

/-- The term of an expression is that of the tree that it shows, conversions left out. -/
theorem Expression.Shows.term?_eq {expression : Expression} {tree : Grammar.Expression}
    {table : SymbolTable} (shows' : expression.Shows tree)
    (known : table.Knows expression.mentions) :
    tree.term? table = some (expression.term table.idOf).withoutCoercions := by
  induction shows' with
  | identifier | string | integer =>
      have found := known _ (List.mem_singleton_self _)
      simp only [Symbol.identifier, Symbol.string, Symbol.integer] at found
      simp only [Grammar.Expression.term?, found]
      rfl
  | assign name line place assigned induction =>
      obtain ⟨first, others⟩ := List.forall_mem_cons.1 known
      simp only [Symbol.identifier] at first
      simp only [Grammar.Expression.term?, first, induction others]
      rfl
  | equals place front back inductionFront inductionBack =>
      obtain ⟨first, second⟩ := List.forall_mem_append.1 known
      simp only [Grammar.Expression.term?, inductionFront first, inductionBack second]
      rfl
  | add place front back inductionFront inductionBack =>
      obtain ⟨first, second⟩ := List.forall_mem_append.1 known
      simp only [Grammar.Expression.term?, inductionFront first, inductionBack second, term,
        Term.withoutCoercions, Term.withoutCoercions_addend]
      rfl

namespace Statement

mutual

/-- The term of a statement is that of the tree that it shows, conversions left out. -/
theorem Shows.term?_eq {statement : Statement} {tree : Grammar.Statement} {table : SymbolTable}
    (shows' : statement.Shows tree) (known : table.Knows statement.mentions) :
    tree.term? table = some (statement.term table.idOf).withoutCoercions := by
  cases shows' with
  | empty line => rfl
  | evaluate line evaluated =>
      simp only [Grammar.Statement.term?, evaluated.term?_eq known]
      rfl
  | print line printed =>
      simp only [Grammar.Statement.term?, printed.term?_eq known]
      rfl
  | input name line place =>
      have found := known _ (List.mem_singleton_self _)
      simp only [Symbol.identifier] at found
      simp only [Grammar.Statement.term?, found]
      rfl
  | ifThen line decided runs =>
      obtain ⟨first, second⟩ := List.forall_mem_append.1 known
      simp only [Grammar.Statement.term?, decided.term?_eq first, runs.term?_eq second]
      rfl
  | ifElse line decided runs elses =>
      obtain ⟨first, rest⟩ := List.forall_mem_append.1 known
      obtain ⟨second, third⟩ := List.forall_mem_append.1 rest
      simp only [Grammar.Statement.term?, decided.term?_eq first, runs.term?_eq second,
        elses.term?_eq third]
      rfl
  | block line all =>
      simp only [Grammar.Statement.term?, all.terms?_eq known, term, Term.withoutCoercions_inTurn]
      rfl

theorem ShowAll.terms?_eq {statements : List Statement} {trees : List Grammar.Statement}
    {table : SymbolTable} (show' : ShowAll statements trees)
    (known : table.Knows (allMentions statements)) :
    Grammar.Statement.terms? trees table =
      some ((terms table.idOf statements).map Term.withoutCoercions) := by
  cases show' with
  | nil => rfl
  | cons head tail =>
      obtain ⟨first, others⟩ := List.forall_mem_append.1 known
      simp only [Grammar.Statement.terms?, head.term?_eq first, tail.terms?_eq others]
      rfl

end

end Statement

namespace Draft

/-- A node unfolds to a term over the symbols of the draft, conversions left out. -/
structure Unfolds (draft : Draft) (id : NodeId) (term? : SymbolTable → Option Term) : Prop where
  inside : id < draft.tree.size
  term : term? draft.symbols = some (draft.tree.term id).withoutCoercions

/-- Nodes unfold to terms in turn. -/
structure UnfoldAll (draft : Draft) (ids : List NodeId)
    (terms? : SymbolTable → Option (List Term)) : Prop where
  all : ∃ terms, draft.DenoteAll ids terms
  terms : terms? draft.symbols = some (ids.map fun id => (draft.tree.term id).withoutCoercions)

theorem unfolds_block {draft : Draft} (line : Nat) {ids : List NodeId}
    {terms? : SymbolTable → Option (List Term)} (unfold : draft.UnfoldAll ids terms?) :
    (draft.block line ids).1.Unfolds (draft.block line ids).2 fun table =>
      return .inTurn (← terms? table) := by
  obtain ⟨terms, all⟩ := unfold.all
  have denotes := draft.term_inTurn_block line ids all.inside all.recorded
  refine ⟨denotes.inside, ?_⟩
  rw [symbols_block, unfold.terms, denotes.term _ (List.prefix_refl _),
    Term.withoutCoercions_inTurn, List.map_map]
  rfl

end Draft

theorem Statement.unfold_draftAll {statements : List Statement} {trees : List Grammar.Statement}
    (show' : ShowAll statements trees) (draft : Draft) :
    (draftAll draft statements).1.UnfoldAll (draftAll draft statements).2
      (Grammar.Statement.terms? trees) := by
  have all := denoteAll_draftAll statements draft
  refine ⟨⟨_, all⟩, ?_⟩
  rw [show'.terms?_eq (symbols_draftAll statements draft ▸ draft.symbols.knows_addAll _),
    ← all.terms _ (List.prefix_refl _), List.map_map]
  rfl

end StackScript
