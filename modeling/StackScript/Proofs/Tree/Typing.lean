import StackScript.Proofs.Phrase.Lawful
import StackScript.Proofs.Term.Typing
import StackScript.Proofs.Tree.Growth

/-!
# Drafts without diagnostics

The checks that are made when a node is drafted come to this: as long as no diagnostic is recorded,
each node stands for a well-typed term.
-/

namespace StackScript

/-- A symbol that is interned stands for what a symbol of its name does. -/
theorem SymbolTable.content?_intern {table : SymbolTable}
    (named : ∀ entry ∈ table.symbols, entry.Lawful) {symbol : Symbol} (lawful : symbol.Lawful) :
    ∃ content, (table.intern symbol).1.content? (table.intern symbol).2 = some content ∧
      content.Alike symbol.content := by
  obtain ⟨entry, found, same, origin⟩ := table.get?_intern symbol
  refine ⟨entry.content, by rw [content?, found, Option.map_some], ?_⟩
  rcases origin with earlier | rfl
  · exact (named entry earlier).alike lawful same
  · exact lawful.alike lawful rfl

namespace Draft

/-- The symbols of a draft are lawful. -/
def Named (draft : Draft) : Prop :=
  ∀ symbol ∈ draft.symbols.symbols, symbol.Lawful

/-- A node stands for an expression of a type. -/
structure Holds (draft : Draft) (id : NodeId) (type : Ty) : Prop where
  inside : id < draft.tree.size
  recorded : draft.tree.typeOf id = type
  typed : (draft.tree.term id).HasType draft.symbols type

/-- A node stands for a well-typed statement. -/
structure Runs (draft : Draft) (id : NodeId) : Prop where
  inside : id < draft.tree.size
  typed : (draft.tree.term id).WellTyped draft.symbols

theorem forall_mem_pair {holds : NodeId → Prop} {left right : NodeId} (first : holds left)
    (second : holds right) : ∀ id ∈ [left, right], holds id :=
  List.forall_mem_cons.2 ⟨first, List.forall_mem_singleton.2 second⟩

section Nodes

variable {draft later : Draft} {id left right condition body otherwise : NodeId}
variable {symbol : SymbolId} {type : Ty} {form : Form}

theorem Holds.grows (holds : draft.Holds id type) (grows : draft.Grows later) :
    later.Holds id type where
  inside := Nat.lt_of_lt_of_le holds.inside grows.size_le
  recorded := (Tree.typeOf_of_prefix grows.nodes holds.inside).trans holds.recorded
  typed := by
    rw [Tree.term_of_prefix grows.nodes id holds.inside]
    exact holds.typed.of_prefix grows.symbols

theorem Runs.grows (runs : draft.Runs id) (grows : draft.Grows later) : later.Runs id where
  inside := Nat.lt_of_lt_of_le runs.inside grows.size_le
  typed := by
    rw [Tree.term_of_prefix grows.nodes id runs.inside]
    exact runs.typed.of_prefix grows.symbols

/-- A new node stands for an expression if its form does. -/
theorem holds_push (line : Nat) (before : ∀ child ∈ form.children, child < draft.tree.size)
    (typed : (form.toTerm draft.tree.term).HasType draft.symbols type) :
    (draft.push form type line).1.Holds (draft.push form type line).2 type where
  inside := by
    rw [push, Tree.size_push]
    exact Nat.lt_succ_self _
  recorded := draft.tree.typeOf_push ⟨form, type, line⟩
  typed := by
    rw [push, Tree.term_push draft.tree ⟨form, type, line⟩ before]
    exact typed

theorem runs_statement (line : Nat) (before : ∀ child ∈ form.children, child < draft.tree.size)
    (typed : (form.toTerm draft.tree.term).WellTyped draft.symbols) :
    (draft.statement line form).1.Runs (draft.statement line form).2 where
  inside := by
    rw [statement, push, Tree.size_push]
    exact Nat.lt_succ_self _
  typed := by
    rw [statement, push, Tree.term_push draft.tree ⟨form, .void, line⟩ before]
    exact typed

/-! ## Expressions -/

theorem holds_assign (line : Nat) (named : draft.symbols.content? symbol = some .identifier)
    (value : draft.Holds id type) :
    (draft.assign line symbol id).1.Holds (draft.assign line symbol id).2 type := by
  rw [assign, value.recorded]
  exact holds_push line (List.forall_mem_singleton.2 value.inside) (.assign named value.typed)

theorem holds_equals (line : Nat) (first : draft.Holds left type) {type' : Ty}
    (second : draft.Holds right type')
    (clean : (draft.equals line left right).1.diagnostics.size = 0) :
    (draft.equals line left right).1.Holds (draft.equals line left right).2 .bool := by
  simp only [equals, first.recorded, second.recorded] at clean ⊢
  by_cases same : type = type'
  · rw [if_pos same]
    exact holds_push line (forall_mem_pair first.inside second.inside)
      (.equals first.typed (same ▸ second.typed))
  · rw [if_neg same] at clean
    exact absurd clean (draft.size_report _ _)

theorem holds_add_same (line : Nat) (first : draft.Holds left type)
    (second : draft.Holds right type) (adds : type ≠ .bool) :
    (draft.push (.add left right) type line).1.Holds (draft.push (.add left right) type line).2
      type :=
  holds_push line (forall_mem_pair first.inside second.inside)
    (.add first.typed second.typed adds)

theorem holds_toString (line : Nat) (operand : draft.Holds id type) (other : type ≠ .string) :
    (draft.coerce line id .toString).1.Holds (draft.coerce line id .toString).2 .string :=
  holds_push line (List.forall_mem_singleton.2 operand.inside) (.coerceToString operand.typed other)

theorem holds_toInteger (line : Nat) (operand : draft.Holds id type) (other : type ≠ .integer) :
    (draft.coerce line id .toInteger).1.Holds (draft.coerce line id .toInteger).2 .integer :=
  holds_push line (List.forall_mem_singleton.2 operand.inside)
    (.coerceToInteger operand.typed other)

/-- An addition is one of two values of a type, once its right operand is converted. -/
theorem holds_add (line : Nat) (first : draft.Holds left type) {type' : Ty}
    (second : draft.Holds right type')
    (clean : (draft.add line left right).1.diagnostics.size = 0) :
    (draft.add line left right).1.Holds (draft.add line left right).2 type := by
  have text := draft.grows_coerce line right .toString
  have integer := draft.grows_coerce line right .toInteger
  simp only [add, first.recorded, second.recorded] at clean ⊢
  rcases first.typed.cases_type with rfl | rfl | rfl
  · rcases second.typed.cases_type with rfl | rfl | rfl
    · exact holds_add_same line first second (by decide)
    · exact holds_add_same line (first.grows text) (holds_toString line second (by decide))
        (by decide)
    · exact holds_add_same line (first.grows text) (holds_toString line second (by decide))
        (by decide)
  · rcases second.typed.cases_type with rfl | rfl | rfl
    · exact holds_add_same line (first.grows integer) (holds_toInteger line second (by decide))
        (by decide)
    · exact holds_add_same line first second (by decide)
    · exact holds_add_same line (first.grows integer) (holds_toInteger line second (by decide))
        (by decide)
  · exact absurd clean (draft.size_report _ _)

/-- Adding makes no symbols. -/
theorem symbols_add (draft : Draft) (line : Nat) (left right : NodeId) :
    (draft.add line left right).1.symbols = draft.symbols := by
  simp only [add]
  split
  · rfl
  next coercion _ => cases coercion <;> rfl
  · rfl

theorem symbols_equals (draft : Draft) (line : Nat) (left right : NodeId) :
    (draft.equals line left right).1.symbols = draft.symbols := by
  simp only [equals]
  split <;> rfl

/-! ## Statements -/

/-- A condition that passes its check is a boolean. -/
theorem checkCondition_eq (line : Nat) (decided : draft.Holds condition type)
    (clean : (draft.checkCondition line condition).diagnostics.size = 0) :
    type = .bool ∧ draft.checkCondition line condition = draft := by
  simp only [checkCondition, decided.recorded] at clean ⊢
  by_cases bool : type = .bool
  · exact ⟨bool, if_pos bool⟩
  · rw [if_neg bool] at clean
    exact absurd clean (draft.size_report _ _)

theorem symbols_checkCondition (draft : Draft) (line : Nat) (condition : NodeId) :
    (draft.checkCondition line condition).symbols = draft.symbols := by
  simp only [checkCondition]
  split <;> rfl

theorem runs_ifThen (line : Nat) (decided : draft.Holds condition type) (runs : draft.Runs body)
    (clean : (draft.ifThen line condition body).1.diagnostics.size = 0) :
    (draft.ifThen line condition body).1.Runs (draft.ifThen line condition body).2 := by
  obtain ⟨rfl, unchanged⟩ := checkCondition_eq line decided clean
  rw [ifThen, unchanged]
  exact runs_statement line (forall_mem_pair decided.inside runs.inside)
    (.ifThen decided.typed runs.typed)

theorem runs_ifElse (line : Nat) (decided : draft.Holds condition type) (runs : draft.Runs body)
    (elses : draft.Runs otherwise)
    (clean : (draft.ifElse line condition body otherwise).1.diagnostics.size = 0) :
    (draft.ifElse line condition body otherwise).1.Runs
      (draft.ifElse line condition body otherwise).2 := by
  obtain ⟨rfl, unchanged⟩ := checkCondition_eq line decided clean
  rw [ifElse, unchanged]
  refine runs_statement line ?_ (.ifElse decided.typed runs.typed elses.typed)
  exact List.forall_mem_cons.2 ⟨decided.inside, forall_mem_pair runs.inside elses.inside⟩

theorem runs_sequence (line : Nat) (front : draft.Runs left) (back : draft.Runs right) :
    (draft.sequence line left right).1.Runs (draft.sequence line left right).2 :=
  runs_statement line (forall_mem_pair front.inside back.inside) (.sequence front.typed back.typed)

theorem runs_empty (draft : Draft) (line : Nat) :
    (draft.statement line .empty).1.Runs (draft.statement line .empty).2 :=
  runs_statement line (fun _ member => absurd member List.not_mem_nil) .empty

/-- Statements make a statement together. -/
theorem runs_block (line : Nat) (ids : List NodeId) (all : ∀ id ∈ ids, draft.Runs id) :
    (draft.block line ids).1.Runs (draft.block line ids).2 := by
  cases ids with
  | nil => exact draft.runs_empty line
  | cons first rest =>
      obtain ⟨front, others⟩ := List.forall_mem_cons.1 all
      rw [block]
      clear all
      induction rest generalizing draft first with
      | nil => exact front
      | cons next rest induction =>
          obtain ⟨back, others⟩ := List.forall_mem_cons.1 others
          have grows := draft.grows_push (.sequence first next) .void line
          exact induction _ (runs_sequence line front back) fun id member =>
            (others id member).grows grows

/-- A block makes no symbols. -/
theorem symbols_block (draft : Draft) (line : Nat) (ids : List NodeId) :
    (draft.block line ids).1.symbols = draft.symbols := by
  cases ids with
  | nil => rfl
  | cons first rest =>
      rw [block]
      induction rest generalizing draft first with
      | nil => rfl
      | cons next rest induction => exact induction _ _

theorem size_giveUp (draft : Draft) (error : GrammarError) (line : Nat) :
    (draft.giveUp error line).1.diagnostics.size ≠ 0 :=
  draft.size_report _ _

end Nodes

/-! ## Symbols -/

theorem Named.congr {draft later : Draft} (named : draft.Named)
    (same : later.symbols = draft.symbols) : later.Named :=
  fun symbol member => named symbol (same ▸ member)

theorem Named.intern {draft : Draft} (named : draft.Named) {symbol : Symbol}
    (lawful : symbol.Lawful) : (draft.intern symbol).1.Named := by
  intro entry member
  rcases SymbolTable.mem_intern member with earlier | rfl
  · exact named entry earlier
  · exact lawful

/-- A variable that is interned is one in the table. -/
theorem Named.content?_intern {draft : Draft} (named : draft.Named) {symbol : Symbol}
    (lawful : symbol.Lawful) (variable' : symbol.content = .identifier) :
    (draft.intern symbol).1.symbols.content? (draft.intern symbol).2 = some .identifier := by
  obtain ⟨content, found, alike⟩ := SymbolTable.content?_intern named lawful
  rw [variable'] at alike
  cases content with
  | identifier => exact found
  | string | integer => exact absurd alike id

end Draft

/-! ## Phrases -/

theorem Expression.holds_draftAtom {draft : Draft} (named : draft.Named) {symbol : Symbol}
    (lawful : symbol.Lawful) (line : Nat) :
    ∃ type, (draftAtom draft symbol line).1.Holds (draftAtom draft symbol line).2 type := by
  obtain ⟨content, found, alike⟩ := SymbolTable.content?_intern named lawful
  simp only [draftAtom]
  cases mentioned : symbol.content <;> rw [mentioned] at alike <;> cases content <;>
    simp only [Content.Alike] at alike
  · exact ⟨_, Draft.holds_push line (fun _ member => absurd member List.not_mem_nil)
      (.identifier found)⟩
  · exact ⟨_, Draft.holds_push line (fun _ member => absurd member List.not_mem_nil)
      (.stringConstant found)⟩
  · exact ⟨_, Draft.holds_push line (fun _ member => absurd member List.not_mem_nil)
      (.integerConstant found)⟩

theorem Expression.named_draftAtom {draft : Draft} (named : draft.Named) {symbol : Symbol}
    (lawful : symbol.Lawful) (line : Nat) : (draftAtom draft symbol line).1.Named := by
  simp only [draftAtom]
  split <;> exact named.intern lawful

/-- An expression without diagnostics stands for a well-typed term. -/
theorem Expression.holds_draft (expression : Expression) (lawful : expression.Lawful)
    {draft : Draft} (named : draft.Named)
    (clean : (expression.draft draft).1.diagnostics.size = 0) :
    (∃ type, (expression.draft draft).1.Holds (expression.draft draft).2 type) ∧
      (expression.draft draft).1.Named := by
  induction expression generalizing draft with
  | atom symbol line =>
      exact ⟨holds_draftAtom named lawful line, named_draftAtom named lawful line⟩
  | assign name value line induction =>
      obtain ⟨⟨target, variable'⟩, lawful⟩ := lawful
      obtain ⟨⟨type, holds⟩, named'⟩ := induction lawful (named.intern target) clean
      have grows := value.grows_draft (draft.intern name).1
      have content := SymbolTable.content?_of_prefix grows.symbols
        (named.content?_intern target variable')
      exact ⟨⟨type, Draft.holds_assign line content holds⟩, named'⟩
  | equals left right line inductionLeft inductionRight =>
      have last := Draft.grows_equals (right.draft (left.draft draft).1).1 line
        (left.draft draft).2 (right.draft (left.draft draft).1).2
      have later := right.grows_draft (left.draft draft).1
      obtain ⟨⟨type, first⟩, named⟩ :=
        inductionLeft lawful.1 named ((later.trans last).clean clean)
      obtain ⟨⟨type', second⟩, named⟩ := inductionRight lawful.2 named (last.clean clean)
      refine ⟨⟨.bool, Draft.holds_equals line (first.grows later) second clean⟩, ?_⟩
      exact named.congr (Draft.symbols_equals _ _ _ _)
  | add left right line inductionLeft inductionRight =>
      have last := Draft.grows_add (right.draft (left.draft draft).1).1 line
        (left.draft draft).2 (right.draft (left.draft draft).1).2
      have later := right.grows_draft (left.draft draft).1
      obtain ⟨⟨type, first⟩, named⟩ :=
        inductionLeft lawful.1 named ((later.trans last).clean clean)
      obtain ⟨⟨type', second⟩, named⟩ := inductionRight lawful.2 named (last.clean clean)
      refine ⟨⟨type, Draft.holds_add line (first.grows later) second clean⟩, ?_⟩
      exact named.congr (Draft.symbols_add _ _ _ _)

namespace Statement

mutual

/-- A statement without diagnostics stands for a well-typed term. -/
theorem runs_draft (statement : Statement) (lawful : statement.Lawful) {draft : Draft}
    (named : draft.Named) (clean : (statement.draft draft).1.diagnostics.size = 0) :
    (statement.draft draft).1.Runs (statement.draft draft).2 ∧
      (statement.draft draft).1.Named := by
  cases lawful with
  | empty line => exact ⟨draft.runs_empty line, named⟩
  | @evaluate value line evaluated =>
      obtain ⟨⟨type, holds⟩, named⟩ := value.holds_draft evaluated named clean
      exact ⟨Draft.runs_statement line (List.forall_mem_singleton.2 holds.inside)
        (.evaluate holds.typed), named⟩
  | @print value line printed =>
      obtain ⟨⟨type, holds⟩, named⟩ := value.holds_draft printed named clean
      exact ⟨Draft.runs_statement line (List.forall_mem_singleton.2 holds.inside)
        (.print holds.typed), named⟩
  | @input target line lawful variable' =>
      have content := named.content?_intern lawful variable'
      exact ⟨Draft.runs_statement line (fun _ member => absurd member List.not_mem_nil)
        (.input content), named.intern lawful⟩
  | @ifThen condition body line decided runs =>
      have later := grows_draft body (condition.draft draft).1
      have last := Draft.grows_ifThen (body.draft (condition.draft draft).1).1 line
        (condition.draft draft).2 (body.draft (condition.draft draft).1).2
      obtain ⟨⟨type, holds⟩, named⟩ :=
        condition.holds_draft decided named ((later.trans last).clean clean)
      obtain ⟨runs, named⟩ := runs_draft body runs named (last.clean clean)
      exact ⟨Draft.runs_ifThen line (holds.grows later) runs clean,
        named.congr (Draft.symbols_checkCondition _ _ _)⟩
  | @ifElse condition body otherwise line decided runs elses =>
      have later := grows_draft body (condition.draft draft).1
      have after := grows_draft otherwise (body.draft (condition.draft draft).1).1
      have last := Draft.grows_ifElse (otherwise.draft (body.draft (condition.draft draft).1).1).1
        line (condition.draft draft).2 (body.draft (condition.draft draft).1).2
        (otherwise.draft (body.draft (condition.draft draft).1).1).2
      obtain ⟨⟨type, holds⟩, named⟩ :=
        condition.holds_draft decided named ((later.trans (after.trans last)).clean clean)
      obtain ⟨runs, named⟩ := runs_draft body runs named ((after.trans last).clean clean)
      obtain ⟨elses, named⟩ := runs_draft otherwise elses named (last.clean clean)
      exact ⟨
        Draft.runs_ifElse line (holds.grows (later.trans after)) (runs.grows after) elses clean,
        named.congr (Draft.symbols_checkCondition _ _ _)⟩
  | @block statements line all =>
      have last :=
        Draft.grows_block (draftAll draft statements).1 line (draftAll draft statements).2
      obtain ⟨runs, named⟩ := runs_draftAll statements all named (last.clean clean)
      exact ⟨Draft.runs_block line _ runs, named.congr (Draft.symbols_block _ _ _)⟩
  | broken fragments error line => exact absurd clean (Draft.size_giveUp _ _ _)
  | unclosed statements error line => exact absurd clean (Draft.size_giveUp _ _ _)

theorem runs_draftAll (statements : List Statement)
    (lawful : ∀ statement ∈ statements, statement.Lawful) {draft : Draft} (named : draft.Named)
    (clean : (draftAll draft statements).1.diagnostics.size = 0) :
    (∀ id ∈ (draftAll draft statements).2, (draftAll draft statements).1.Runs id) ∧
      (draftAll draft statements).1.Named := by
  cases statements with
  | nil => exact ⟨fun _ member => absurd member List.not_mem_nil, named⟩
  | cons first rest =>
      have later := grows_draftAll rest (first.draft draft).1
      obtain ⟨front, others⟩ := List.forall_mem_cons.1 lawful
      obtain ⟨runs, named⟩ := runs_draft first front named (later.clean clean)
      obtain ⟨all, named⟩ := runs_draftAll rest others named clean
      exact ⟨List.forall_mem_cons.2 ⟨runs.grows later, all⟩, named⟩

end

end Statement

end StackScript
