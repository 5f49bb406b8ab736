import StackScript.Proofs.Phrase.Mentions
import StackScript.Proofs.Symbol.Adding
import StackScript.Proofs.Tree.Typing

/-!
# The terms of phrases

What the nodes stand for that are drafted for a phrase can be said by recursion on the phrase, given
the numbers of the symbols it mentions. These are the numbers in the table of the draft, and in all
tables that it grows to.
-/

namespace StackScript

/-! ## Numbers of symbols -/

/-- The number of the symbol of a name, if the table has one. -/
def SymbolTable.idOf (table : SymbolTable) (name : String) : SymbolId :=
  (table.indexOf? name).getD 0

theorem SymbolTable.indexOf?_eq_some_idOf {table : SymbolTable} {name : String}
    (known : name ∈ table.symbols.map Symbol.name) :
    table.indexOf? name = some (table.idOf name) := by
  obtain ⟨entry, member, same⟩ := List.mem_map.1 known
  cases found : table.indexOf? name with
  | none => exact absurd same (indexOf?_eq_none_iff.1 found entry member)
  | some id => rw [idOf, found, Option.getD_some]

theorem SymbolTable.exists_get?_idOf {table : SymbolTable} {name : String}
    (known : name ∈ table.symbols.map Symbol.name) :
    ∃ entry ∈ table.symbols, table.get? (table.idOf name) = some entry ∧ entry.name = name := by
  obtain ⟨inside, named, -⟩ :=
    List.findIdx?_eq_some_iff_getElem.1 (indexOf?_eq_some_idOf known)
  exact ⟨_, List.getElem_mem inside, List.getElem?_eq_getElem inside, by simpa using named⟩

/-- The number that interning answers stays that of the name. -/
theorem SymbolTable.idOf_of_intern {table later : SymbolTable} {symbol : Symbol}
    (grown : (table.intern symbol).1.symbols <+: later.symbols) :
    later.idOf symbol.name = (table.intern symbol).2 := by
  rw [idOf, indexOf?_of_prefix grown (table.indexOf?_intern symbol), Option.getD_some]

/-! ## Terms -/

namespace Term

/-- A converted operand. -/
def convert (operand : Term) : Coercion → Term
  | .toString => .coerceToString operand
  | .toInteger => .coerceToInteger operand

/-- A right operand, converted if it has to be for a left one of a type. -/
def addend (left : Ty) (right : Term) : Term :=
  match Coercion.forAddend left right.type with
  | .ok (some coercion) => right.convert coercion
  | .ok none | .error _ => right

/-- Statements in turn: the empty statement if there are none, and sequences nested to the left if
there are several. -/
def inTurn : List Term → Term
  | [] => .empty
  | first :: rest => rest.foldl .sequence first

end Term

/-- The term of an expression. -/
def Expression.term (ids : String → SymbolId) : Expression → Term
  | atom symbol _ =>
      match symbol.content with
      | .identifier => .identifier (ids symbol.name)
      | .string _ => .stringConstant (ids symbol.name)
      | .integer _ => .integerConstant (ids symbol.name)
  | assign target value _ => .assign (ids target.name) (value.term ids)
  | equals left right _ => .equals (left.term ids) (right.term ids)
  | add left right _ => .add (left.term ids) (.addend (left.term ids).type (right.term ids))

mutual

/-- The term of a statement. -/
def Statement.term (ids : String → SymbolId) : Statement → Term
  | .empty _ => .empty
  | .evaluate value _ => .evaluate (value.term ids)
  | .print value _ => .print (value.term ids)
  | .input target _ => .input (ids target.name)
  | .ifThen condition body _ => .ifThen (condition.term ids) (body.term ids)
  | .ifElse condition body otherwise _ =>
      .ifElse (condition.term ids) (body.term ids) (otherwise.term ids)
  | .block statements _ => .inTurn (Statement.terms ids statements)
  | .broken _ _ _ | .unclosed _ _ _ => .error

/-- The terms of statements. -/
def Statement.terms (ids : String → SymbolId) : List Statement → List Term
  | [] => []
  | first :: rest => first.term ids :: Statement.terms ids rest

end

/-! ## Nodes and their terms -/

namespace Draft

/-- A node stands for a term whose symbols are numbered by the table of the draft, and has the type
of the term. -/
structure Denotes (draft : Draft) (id : NodeId) (term : (String → SymbolId) → Term) : Prop where
  inside : id < draft.tree.size
  recorded : draft.tree.typeOf id = (draft.tree.term id).type
  term : ∀ later : SymbolTable, draft.symbols.symbols <+: later.symbols →
    draft.tree.term id = term later.idOf

section

variable {draft later : Draft} {id left right condition body otherwise : NodeId}
variable {term first second test runs elses : (String → SymbolId) → Term}

theorem Denotes.grows (denotes : draft.Denotes id term) (grows : draft.Grows later) :
    later.Denotes id term where
  inside := Nat.lt_of_lt_of_le denotes.inside grows.size_le
  recorded := by
    rw [Tree.typeOf_of_prefix grows.nodes denotes.inside,
      Tree.term_of_prefix grows.nodes id denotes.inside, denotes.recorded]
  term table grown := by
    rw [Tree.term_of_prefix grows.nodes id denotes.inside]
    exact denotes.term table (grows.symbols.trans grown)

theorem Denotes.congr (denotes : draft.Denotes id first)
    (same : ∀ table : SymbolTable, draft.symbols.symbols <+: table.symbols →
      first table.idOf = second table.idOf) : draft.Denotes id second where
  inside := denotes.inside
  recorded := denotes.recorded
  term table grown := (denotes.term table grown).trans (same table grown)

/-- A new node stands for a term if its form does, and has the type of its form. -/
theorem denotes_push {form : Form} {type : Ty} (line : Nat)
    (before : ∀ child ∈ form.children, child < draft.tree.size)
    (typed : type = (form.toTerm draft.tree.term).type)
    (same : ∀ table : SymbolTable, draft.symbols.symbols <+: table.symbols →
      form.toTerm draft.tree.term = term table.idOf) :
    (draft.push form type line).1.Denotes (draft.push form type line).2 term where
  inside := by
    rw [push, Tree.size_push]
    exact Nat.lt_succ_self _
  recorded := by
    rw [push, Tree.term_push draft.tree ⟨form, type, line⟩ before, Tree.typeOf_push]
    exact typed
  term table grown := by
    rw [push, Tree.term_push draft.tree ⟨form, type, line⟩ before]
    exact same table grown

/-! ### Expressions -/

theorem denotes_assign (line : Nat) {symbol : SymbolId} {name : String}
    (known : ∀ table : SymbolTable, draft.symbols.symbols <+: table.symbols →
      table.idOf name = symbol) (value : draft.Denotes id term) :
    (draft.assign line symbol id).1.Denotes (draft.assign line symbol id).2
      fun ids => .assign (ids name) (term ids) :=
  denotes_push line (List.forall_mem_singleton.2 value.inside) value.recorded fun table grown => by
    rw [known table grown, ← value.term table grown]
    rfl

theorem denotes_equals (line : Nat) (front : draft.Denotes left first)
    (back : draft.Denotes right second) :
    (draft.equals line left right).1.Denotes (draft.equals line left right).2
      fun ids => .equals (first ids) (second ids) := by
  have made {checked : Draft} (front : checked.Denotes left first)
      (back : checked.Denotes right second) :
      (checked.push (.equals left right) .bool line).1.Denotes
        (checked.push (.equals left right) .bool line).2
          fun ids => .equals (first ids) (second ids) :=
    denotes_push line (forall_mem_pair front.inside back.inside) rfl fun table grown => by
      rw [← front.term table grown, ← back.term table grown]
      rfl
  simp only [equals]
  split
  · exact made front back
  · exact made (front.grows (draft.grows_report line _)) (back.grows (draft.grows_report line _))

theorem denotes_coerce (line : Nat) (operand : draft.Denotes id term) (coercion : Coercion) :
    (draft.coerce line id coercion).1.Denotes (draft.coerce line id coercion).2
      fun ids => (term ids).convert coercion := by
  cases coercion <;>
    exact denotes_push line (List.forall_mem_singleton.2 operand.inside) rfl fun table grown => by
      rw [← operand.term table grown]
      rfl

/-- An addition has the type of the sum of its left operand, whatever the right one is. -/
theorem denotes_sum (line : Nat) (front : draft.Denotes left first)
    (back : draft.Denotes right second) {type : Ty} (typed : type = draft.tree.typeOf left) :
    (draft.push (.add left right) type.ofSum line).1.Denotes
      (draft.push (.add left right) type.ofSum line).2 fun ids => .add (first ids) (second ids) :=
  denotes_push line (forall_mem_pair front.inside back.inside)
    (by rw [typed, front.recorded]; rfl) fun table grown => by
      rw [← front.term table grown, ← back.term table grown]
      rfl

/-- The right operand is converted as the types of the terms ask for. -/
theorem denotes_add (line : Nat) (front : draft.Denotes left first)
    (back : draft.Denotes right second) :
    (draft.add line left right).1.Denotes (draft.add line left right).2
      fun ids => .add (first ids) (.addend (first ids).type (second ids)) := by
  have types (table : SymbolTable) (grown : draft.symbols.symbols <+: table.symbols) :
      Coercion.forAddend (first table.idOf).type (second table.idOf).type =
        Coercion.forAddend (draft.tree.typeOf left) (draft.tree.typeOf right) := by
    rw [front.recorded, back.recorded, front.term table grown, back.term table grown]
  simp only [add]
  split
  next found =>
    refine (denotes_sum line front back rfl).congr fun table grown => ?_
    simp only [Term.addend, types table grown, found]
  next coercion found =>
    have grows := draft.grows_coerce line right coercion
    refine (denotes_sum line (front.grows grows) (denotes_coerce line back coercion)
      (Tree.typeOf_of_prefix grows.nodes front.inside).symm).congr fun table grown => ?_
    simp only [Term.addend, types table (grows.symbols.trans grown), found]
  next problem found =>
    have grows := draft.grows_report line problem
    refine (denotes_sum line (front.grows grows) (back.grows grows) rfl).congr
      fun table grown => ?_
    simp only [Term.addend, types table grown, found]

/-! ### Statements -/

theorem denotes_ifThen (line : Nat) (decided : draft.Denotes condition test)
    (ran : draft.Denotes body runs) :
    (draft.ifThen line condition body).1.Denotes (draft.ifThen line condition body).2
      fun ids => .ifThen (test ids) (runs ids) := by
  have grows := draft.grows_checkCondition line condition
  have decided := decided.grows grows
  have ran := ran.grows grows
  refine denotes_push line (forall_mem_pair decided.inside ran.inside) rfl fun table grown => ?_
  rw [← decided.term table grown, ← ran.term table grown]
  rfl

theorem denotes_ifElse (line : Nat) (decided : draft.Denotes condition test)
    (ran : draft.Denotes body runs) (other : draft.Denotes otherwise elses) :
    (draft.ifElse line condition body otherwise).1.Denotes
      (draft.ifElse line condition body otherwise).2
        fun ids => .ifElse (test ids) (runs ids) (elses ids) := by
  have grows := draft.grows_checkCondition line condition
  have decided := decided.grows grows
  have ran := ran.grows grows
  have other := other.grows grows
  refine denotes_push line (List.forall_mem_cons.2
    ⟨decided.inside, forall_mem_pair ran.inside other.inside⟩) rfl fun table grown => ?_
  rw [← decided.term table grown, ← ran.term table grown, ← other.term table grown]
  rfl

/-- Nodes stand for terms in turn. -/
structure DenoteAll (draft : Draft) (ids : List NodeId)
    (terms : (String → SymbolId) → List Term) : Prop where
  inside : ∀ id ∈ ids, id < draft.tree.size
  recorded : ∀ id ∈ ids, draft.tree.typeOf id = (draft.tree.term id).type
  terms : ∀ later : SymbolTable, draft.symbols.symbols <+: later.symbols →
    ids.map draft.tree.term = terms later.idOf

theorem denoteAll_nil (draft : Draft) : draft.DenoteAll [] fun _ => [] :=
  ⟨List.forall_mem_nil _, List.forall_mem_nil _, fun _ _ => rfl⟩

theorem DenoteAll.cons {ids : List NodeId} {terms : (String → SymbolId) → List Term}
    (front : draft.Denotes id term) (others : draft.DenoteAll ids terms) :
    draft.DenoteAll (id :: ids) fun numbers => term numbers :: terms numbers where
  inside := List.forall_mem_cons.2 ⟨front.inside, others.inside⟩
  recorded := List.forall_mem_cons.2 ⟨front.recorded, others.recorded⟩
  terms table grown := by
    rw [List.map_cons, front.term table grown, others.terms table grown]

/-- Statements that are joined to sequences stand for their terms in turn. -/
theorem term_inTurn_block (draft : Draft) (line : Nat) (ids : List NodeId)
    (inside : ∀ id ∈ ids, id < draft.tree.size)
    (recorded : ∀ id ∈ ids, draft.tree.typeOf id = (draft.tree.term id).type) :
    (draft.block line ids).1.Denotes (draft.block line ids).2
      fun _ => .inTurn (ids.map draft.tree.term) := by
  cases ids with
  | nil => exact denotes_push line (List.forall_mem_nil _) rfl fun _ _ => rfl
  | cons first rest =>
      induction rest generalizing draft first with
      | nil =>
          exact ⟨inside first List.mem_cons_self, recorded first List.mem_cons_self, fun _ _ => rfl⟩
      | cons next rest induction =>
          rw [List.forall_mem_cons, List.forall_mem_cons] at inside recorded
          obtain ⟨front, back, others⟩ := inside
          have grows := draft.grows_push (.sequence first next) .void line
          have joined : (draft.sequence line first next).1.Denotes
              (draft.sequence line first next).2
                fun _ => .sequence (draft.tree.term first) (draft.tree.term next) :=
            denotes_push line (forall_mem_pair front back) rfl fun _ _ => rfl
          have kept (id : NodeId) (member : id ∈ rest) :
              (draft.sequence line first next).1.tree.term id = draft.tree.term id :=
            Tree.term_of_prefix grows.nodes id (others id member)
          have denotes := induction (draft.sequence line first next).1
            (draft.sequence line first next).2
            (List.forall_mem_cons.2 ⟨joined.inside, fun id member =>
              Nat.lt_of_lt_of_le (others id member) grows.size_le⟩)
            (List.forall_mem_cons.2 ⟨joined.recorded, fun id member => by
              rw [kept id member, ← recorded.2.2 id member]
              exact Tree.typeOf_of_prefix grows.nodes (others id member)⟩)
          rw [List.map_cons, List.map_congr_left kept,
            joined.term _ (List.prefix_refl _)] at denotes
          exact denotes

theorem denotes_block (line : Nat) {ids : List NodeId}
    {terms : (String → SymbolId) → List Term} (all : draft.DenoteAll ids terms) :
    (draft.block line ids).1.Denotes (draft.block line ids).2 fun numbers =>
      .inTurn (terms numbers) := by
  refine (draft.term_inTurn_block line ids all.inside all.recorded).congr fun table grown => ?_
  rw [all.terms table ((draft.grows_block line ids).symbols.trans grown)]

theorem denotes_giveUp (draft : Draft) (error : GrammarError) (line : Nat) :
    (draft.giveUp error line).1.Denotes (draft.giveUp error line).2 fun _ => .error :=
  denotes_push line (List.forall_mem_nil _) rfl fun _ _ => rfl

/-- A node without children stands for the mention of a symbol by its number. -/
theorem denotes_mention (draft : Draft) (symbol : Symbol) (line : Nat) (form : SymbolId → Form)
    {type : Ty} (leaf : ∀ id, (form id).children = [])
    (typed : ∀ id child, type = ((form id).toTerm child).type) :
    ((draft.intern symbol).1.push (form (draft.intern symbol).2) type line).1.Denotes
      ((draft.intern symbol).1.push (form (draft.intern symbol).2) type line).2
        fun ids => (form (ids symbol.name)).toTerm fun _ => .error := by
  refine denotes_push line (leaf _ ▸ List.forall_mem_nil _) (typed _ _) fun table grown => ?_
  rw [SymbolTable.idOf_of_intern grown]
  exact Form.toTerm_congr (leaf _ ▸ List.forall_mem_nil _)

end

end Draft

/-! ## Phrases -/

theorem Expression.denotes_draftAtom (draft : Draft) (symbol : Symbol) (line : Nat) :
    (draftAtom draft symbol line).1.Denotes (draftAtom draft symbol line).2 fun ids =>
      (atom symbol line).term ids := by
  simp only [draftAtom, term]
  cases symbol.content with
  | identifier => exact draft.denotes_mention symbol line .identifier (fun _ => rfl) fun _ _ => rfl
  | string => exact draft.denotes_mention symbol line .stringConstant (fun _ => rfl) fun _ _ => rfl
  | integer =>
      exact draft.denotes_mention symbol line .integerConstant (fun _ => rfl) fun _ _ => rfl

theorem Expression.denotes_draft (expression : Expression) (draft : Draft) :
    (expression.draft draft).1.Denotes (expression.draft draft).2 fun ids =>
      expression.term ids := by
  induction expression generalizing draft with
  | atom symbol line => exact denotes_draftAtom draft symbol line
  | assign target value line induction =>
      have grows := value.grows_draft (draft.intern target).1
      exact Draft.denotes_assign line
        (fun table grown => SymbolTable.idOf_of_intern (grows.symbols.trans grown)) (induction _)
  | equals left right line inductionLeft inductionRight =>
      exact Draft.denotes_equals line ((inductionLeft draft).grows (right.grows_draft _))
        (inductionRight _)
  | add left right line inductionLeft inductionRight =>
      exact Draft.denotes_add line ((inductionLeft draft).grows (right.grows_draft _))
        (inductionRight _)

namespace Statement

mutual

/-- The node of a statement stands for the term of the statement. -/
theorem denotes_draft (statement : Statement) (draft : Draft) :
    (statement.draft draft).1.Denotes (statement.draft draft).2 fun ids => statement.term ids := by
  cases statement with
  | empty line => exact Draft.denotes_push line (List.forall_mem_nil _) rfl fun _ _ => rfl
  | evaluate value line | print value line =>
      have denotes := value.denotes_draft draft
      refine Draft.denotes_push line (List.forall_mem_singleton.2 denotes.inside) rfl
        fun table grown => ?_
      rw [term, ← denotes.term table grown]
      rfl
  | input target line =>
      exact draft.denotes_mention target line .input (fun _ => rfl) fun _ _ => rfl
  | ifThen condition body line =>
      exact Draft.denotes_ifThen line
        ((condition.denotes_draft draft).grows (grows_draft body _)) (denotes_draft body _)
  | ifElse condition body otherwise line =>
      have later := grows_draft otherwise (body.draft (condition.draft draft).1).1
      exact Draft.denotes_ifElse line
        ((condition.denotes_draft draft).grows ((grows_draft body _).trans later))
        ((denotes_draft body _).grows later) (denotes_draft otherwise _)
  | block statements line => exact Draft.denotes_block line (denoteAll_draftAll statements draft)
  | broken fragments error line => exact Draft.denotes_giveUp _ error line
  | unclosed statements error line => exact Draft.denotes_giveUp _ error line

theorem denoteAll_draftAll (statements : List Statement) (draft : Draft) :
    (draftAll draft statements).1.DenoteAll (draftAll draft statements).2 fun ids =>
      terms ids statements := by
  cases statements with
  | nil => exact draft.denoteAll_nil
  | cons first rest =>
      exact Draft.DenoteAll.cons ((denotes_draft first draft).grows (grows_draftAll rest _))
        (denoteAll_draftAll rest _)

end

end Statement

/-! ## Symbols of phrases -/

theorem Expression.symbols_draft (expression : Expression) (draft : Draft) :
    (expression.draft draft).1.symbols = draft.symbols.addAll expression.mentions := by
  induction expression generalizing draft with
  | atom symbol line =>
      simp only [Expression.draft, draftAtom]
      split <;> rfl
  | assign target value line induction => exact induction _
  | equals left right line inductionLeft inductionRight =>
      rw [mentions, SymbolTable.addAll_append, ← inductionLeft, ← inductionRight]
      exact Draft.symbols_equals _ _ _ _
  | add left right line inductionLeft inductionRight =>
      rw [mentions, SymbolTable.addAll_append, ← inductionLeft, ← inductionRight]
      exact Draft.symbols_add _ _ _ _

theorem Fragment.symbols_foldl (fragments : List Fragment) (draft : Draft) :
    (fragments.foldl Fragment.draft draft).symbols =
      draft.symbols.addAll (fragments.flatMap mentions) := by
  induction fragments generalizing draft with
  | nil => rfl
  | cons first fragments induction =>
      rw [List.foldl_cons, induction, List.flatMap_cons, SymbolTable.addAll_append]
      cases first with
      | target symbol => rfl
      | expression value => rw [Fragment.draft, value.symbols_draft]; rfl

namespace Statement

mutual

/-- Drafting a statement adds the symbols that it mentions. -/
theorem symbols_draft (statement : Statement) (draft : Draft) :
    (statement.draft draft).1.symbols = draft.symbols.addAll statement.mentions := by
  cases statement with
  | empty line => rfl
  | evaluate value line | print value line => exact value.symbols_draft draft
  | input target line => rfl
  | ifThen condition body line =>
      rw [mentions, SymbolTable.addAll_append, ← condition.symbols_draft, ← symbols_draft body]
      exact Draft.symbols_checkCondition _ _ _
  | ifElse condition body otherwise line =>
      rw [mentions, SymbolTable.addAll_append, SymbolTable.addAll_append,
        ← condition.symbols_draft, ← symbols_draft body, ← symbols_draft otherwise]
      exact Draft.symbols_checkCondition _ _ _
  | block statements line =>
      rw [mentions, ← symbols_draftAll statements]
      exact Draft.symbols_block _ _ _
  | broken fragments error line => exact Fragment.symbols_foldl fragments draft
  | unclosed statements error line => exact symbols_draftAll statements draft

theorem symbols_draftAll (statements : List Statement) (draft : Draft) :
    (draftAll draft statements).1.symbols = draft.symbols.addAll (allMentions statements) := by
  cases statements with
  | nil => rfl
  | cons first rest =>
      rw [allMentions, SymbolTable.addAll_append, ← symbols_draft first, ← symbols_draftAll rest]
      rfl

end

end Statement

end StackScript
