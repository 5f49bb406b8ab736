import StackScript.Proofs.Grammar.Soundness
import StackScript.Proofs.Tree.Construction
import StackScript.Proofs.Tree.Denotation

/-!
# The nodes of a script

The nodes of a script are made by constructors that are called on nodes made before. Every node that
is drafted for a phrase is the topmost node of the phrase or under it, unless a part of the phrase
was given up. So all nodes of a script without faults are under its topmost node.
-/

namespace StackScript

namespace Tree.Under

variable {tree later : Tree} {root middle id : NodeId}

theorem trans (above : tree.Under root middle) (below : tree.Under middle id) :
    tree.Under root id := by
  induction below with
  | root => exact above
  | child _ found member induction => exact induction.child found member

/-- What is under a node stays there when the tree grows. -/
theorem of_prefix (grown : tree.nodes.toList <+: later.nodes.toList) (under : tree.Under root id) :
    later.Under root id := by
  induction under with
  | root => exact .root
  | child _ found member induction =>
      have inside := (Array.getElem?_eq_some_iff.1 found).1
      have kept := get?_of_prefix grown inside
      exact induction.child (kept.trans found) member

end Tree.Under

namespace Draft

/-- The nodes made since a draft had a number of them are some nodes and those under them. -/
def Covers (draft : Draft) (size : Nat) (tops : List NodeId) : Prop :=
  ∀ id, size ≤ id → id < draft.tree.size → ∃ top ∈ tops, draft.tree.Under top id

variable {draft later : Draft} {size : Nat} {tops others : List NodeId}

theorem covers_nil (draft : Draft) : draft.Covers draft.tree.size [] :=
  fun _ from' inside => absurd inside (Nat.not_lt.2 from')

/-- Nodes that are made later are covered by themselves. -/
theorem Covers.append (covers : draft.Covers size tops) (grows : draft.Grows later)
    (rest : later.Covers draft.tree.size others) : later.Covers size (tops ++ others) := by
  intro id from' inside
  by_cases earlier : id < draft.tree.size
  · obtain ⟨top, member, under⟩ := covers id from' earlier
    exact ⟨top, List.mem_append_left _ member, under.of_prefix grows.nodes⟩
  · obtain ⟨top, member, under⟩ := rest id (Nat.not_lt.1 earlier) inside
    exact ⟨top, List.mem_append_right _ member, under⟩

/-- A node above some others covers what these do. -/
theorem Covers.push_beside (covers : draft.Covers size tops) {form : Form} {type : Ty} (line : Nat)
    (each : ∀ top ∈ tops, top ∈ form.children ∨ top ∈ others) :
    (draft.push form type line).1.Covers size ((draft.push form type line).2 :: others) := by
  intro id from' inside
  have new : (draft.push form type line).1.tree.get? draft.tree.size = some ⟨form, type, line⟩ :=
    (Tree.get?_push _ _ _).trans (if_pos rfl)
  rw [Draft.push, Tree.size_push] at inside
  rcases Nat.lt_succ_iff_lt_or_eq.1 inside with earlier | rfl
  · obtain ⟨top, member, under⟩ := covers id from' earlier
    have under' := under.of_prefix (draft.tree.prefix_push ⟨form, type, line⟩)
    rcases each top member with child | other
    · exact ⟨_, List.mem_cons_self, (Tree.Under.root.child new child).trans under'⟩
    · exact ⟨top, List.mem_cons_of_mem _ other, under'⟩
  · exact ⟨_, List.mem_cons_self, .root⟩

theorem Covers.push (covers : draft.Covers size tops) {form : Form} {type : Ty} (line : Nat)
    (children : ∀ top ∈ tops, top ∈ form.children) :
    (draft.push form type line).1.Covers size [(draft.push form type line).2] :=
  covers.push_beside line fun top member => .inl (children top member)

theorem covers_push (draft : Draft) (form : Form) (type : Ty) (line : Nat) :
    (draft.push form type line).1.Covers draft.tree.size [(draft.push form type line).2] :=
  draft.covers_nil.push line (List.forall_mem_nil _)

theorem Covers.congr (covers : draft.Covers size tops) (same : later.tree = draft.tree) :
    later.Covers size tops := by
  unfold Covers
  rw [same]
  exact covers

variable {left right condition body otherwise : NodeId}

theorem Covers.equals (covers : draft.Covers size [left, right]) (line : Nat) :
    (draft.equals line left right).1.Covers size [(draft.equals line left right).2] := by
  simp only [Draft.equals]
  split
  · exact covers.push line fun _ member => member
  · exact Covers.push (covers.congr rfl) line fun _ member => member

theorem Covers.coerce (covers : draft.Covers size [left, right]) (line : Nat)
    (coercion : Coercion) :
    (draft.coerce line right coercion).1.Covers size
      [(draft.coerce line right coercion).2, left] := by
  cases coercion <;>
    exact covers.push_beside line (forall_mem_pair (.inr (List.mem_singleton_self _))
      (.inl (List.mem_singleton_self _)))

theorem Covers.add (covers : draft.Covers size [left, right]) (line : Nat) :
    (draft.add line left right).1.Covers size [(draft.add line left right).2] := by
  simp only [Draft.add]
  split
  · exact covers.push line fun _ member => member
  next coercion _ =>
    exact (covers.coerce line coercion).push line (forall_mem_pair
      (List.mem_cons_of_mem _ (List.mem_singleton_self _)) List.mem_cons_self)
  · exact Covers.push (covers.congr rfl) line fun _ member => member

theorem Covers.ifThen (covers : draft.Covers size [condition, body]) (line : Nat) :
    (draft.ifThen line condition body).1.Covers size [(draft.ifThen line condition body).2] :=
  (covers.congr (draft.tree_checkCondition line condition)).push line fun _ member => member

theorem Covers.ifElse (covers : draft.Covers size [condition, body, otherwise]) (line : Nat) :
    (draft.ifElse line condition body otherwise).1.Covers size
      [(draft.ifElse line condition body otherwise).2] :=
  (covers.congr (draft.tree_checkCondition line condition)).push line fun _ member => member

theorem Covers.block (covers : draft.Covers size tops) (line : Nat) :
    (draft.block line tops).1.Covers size [(draft.block line tops).2] := by
  cases tops with
  | nil => exact covers.push line (List.forall_mem_nil _)
  | cons first rest =>
      rw [Draft.block]
      induction rest generalizing draft first with
      | nil => exact covers
      | cons next rest induction =>
          refine induction _ (covers.push_beside line ?_)
          exact List.forall_mem_cons.2 ⟨.inl List.mem_cons_self, List.forall_mem_cons.2
            ⟨.inl (List.mem_cons_of_mem _ List.mem_cons_self), fun _ member => .inr member⟩⟩

end Draft

/-! ## Phrases -/

theorem Expression.covers_draft (expression : Expression) (draft : Draft) :
    (expression.draft draft).1.Covers draft.tree.size [(expression.draft draft).2] := by
  induction expression generalizing draft with
  | atom symbol line =>
      simp only [Expression.draft, draftAtom]
      split <;> exact Draft.covers_push (draft.intern symbol).1 _ _ _
  | assign target value line induction =>
      exact (induction (draft.intern target).1).push line fun _ member => member
  | equals left right line inductionLeft inductionRight =>
      exact ((inductionLeft draft).append (right.grows_draft _) (inductionRight _)).equals line
  | add left right line inductionLeft inductionRight =>
      exact ((inductionLeft draft).append (right.grows_draft _) (inductionRight _)).add line

namespace Statement

mutual

/-- The topmost node of a statement covers all that is drafted for it, if nothing of it was given
up. -/
theorem covers_draft (statement : Statement) (whole : statement.isWhole = true) (draft : Draft) :
    (statement.draft draft).1.Covers draft.tree.size [(statement.draft draft).2] := by
  cases statement with
  | empty line => exact draft.covers_push _ _ _
  | evaluate value line | print value line =>
      exact (value.covers_draft draft).push line fun _ member => member
  | input target line => exact Draft.covers_push (draft.intern target).1 _ _ _
  | ifThen condition body line =>
      exact ((condition.covers_draft draft).append (grows_draft body _)
        (covers_draft body whole _)).ifThen line
  | ifElse condition body otherwise line =>
      rw [isWhole, Bool.and_eq_true] at whole
      have test := (condition.covers_draft draft).append (grows_draft body _)
        (covers_draft body whole.1 _)
      exact (test.append (grows_draft otherwise _) (covers_draft otherwise whole.2 _)).ifElse line
  | block statements line => exact (covers_draftAll statements whole draft).block line
  | broken | unclosed => cases whole

theorem covers_draftAll (statements : List Statement) (whole : areWhole statements = true)
    (draft : Draft) :
    (draftAll draft statements).1.Covers draft.tree.size (draftAll draft statements).2 := by
  cases statements with
  | nil => exact draft.covers_nil
  | cons first rest =>
      rw [areWhole, Bool.and_eq_true] at whole
      exact (covers_draft first whole.1 draft).append (grows_draftAll rest _)
        (covers_draftAll rest whole.2 _)

end

end Statement

/-! ## Construction -/

namespace Draft

variable {draft : Draft}

theorem built_make (draft : Draft) (built : draft.tree.Built) (line : Nat) (call : Construction)
    (there : ∀ operand ∈ call.operands, operand < draft.tree.size) :
    (call.make draft line).1.tree.Built :=
  .make built draft.symbols draft.diagnostics line call there

theorem built_block (built : draft.tree.Built) (line : Nat) {ids : List NodeId}
    (there : ∀ id ∈ ids, id < draft.tree.size) : (draft.block line ids).1.tree.Built := by
  cases ids with
  | nil => exact draft.built_make built line .empty (List.forall_mem_nil _)
  | cons first rest =>
      rw [block]
      induction rest generalizing draft first with
      | nil => exact built
      | cons next rest induction =>
          rw [List.forall_mem_cons, List.forall_mem_cons] at there
          obtain ⟨front, back, others⟩ := there
          have grows := draft.grows_push (.sequence first next) .void line
          have joined : (draft.sequence line first next).2 <
              (draft.sequence line first next).1.tree.size := by
            simp [sequence, statement, push]
          exact induction (draft.built_make built line (.sequence first next)
            (forall_mem_pair front back)) _ (List.forall_mem_cons.2
              ⟨joined, fun id member => Nat.lt_of_lt_of_le (others id member) grows.size_le⟩)

theorem built_giveUp (built : draft.tree.Built) (error : GrammarError) (line : Nat) :
    (draft.giveUp error line).1.tree.Built :=
  (draft.report error.line (.malformed error.fault.message)).built_make built line .error
    (List.forall_mem_nil _)

end Draft

theorem Expression.built_draft (expression : Expression) {draft : Draft}
    (built : draft.tree.Built) : (expression.draft draft).1.tree.Built := by
  induction expression generalizing draft with
  | atom symbol line =>
      have leaf := (draft.intern symbol).1.built_make built line
      simp only [Expression.draft, draftAtom]
      cases symbol.content with
      | identifier => exact leaf (.identifier _) (List.forall_mem_nil _)
      | string => exact leaf (.stringConstant _) (List.forall_mem_nil _)
      | integer => exact leaf (.integerConstant _) (List.forall_mem_nil _)
  | assign target value line induction =>
      have inside := (value.denotes_draft (draft.intern target).1).inside
      exact Draft.built_make _ (@induction (draft.intern target).1 built) line (.assign _ _)
        (List.forall_mem_singleton.2 inside)
  | equals left right line inductionLeft inductionRight =>
      have first := (left.denotes_draft draft).grows (right.grows_draft (left.draft draft).1)
      exact Draft.built_make _ (inductionRight (inductionLeft built)) line (.equals _ _)
        (Draft.forall_mem_pair first.inside (right.denotes_draft _).inside)
  | add left right line inductionLeft inductionRight =>
      have first := (left.denotes_draft draft).grows (right.grows_draft (left.draft draft).1)
      exact Draft.built_make _ (inductionRight (inductionLeft built)) line (.add _ _)
        (Draft.forall_mem_pair first.inside (right.denotes_draft _).inside)

theorem Fragment.built_foldl (fragments : List Fragment) {draft : Draft}
    (built : draft.tree.Built) : (fragments.foldl Fragment.draft draft).tree.Built := by
  induction fragments generalizing draft with
  | nil => exact built
  | cons first fragments induction =>
      cases first with
      | target symbol => exact @induction (draft.intern symbol).1 built
      | expression value => exact induction (value.built_draft built)

namespace Statement

mutual

theorem built_draft (statement : Statement) {draft : Draft} (built : draft.tree.Built) :
    (statement.draft draft).1.tree.Built := by
  cases statement with
  | empty line => exact draft.built_make built line .empty (List.forall_mem_nil _)
  | evaluate value line =>
      exact Draft.built_make _ (value.built_draft built) line (.evaluate _)
        (List.forall_mem_singleton.2 (value.denotes_draft draft).inside)
  | print value line =>
      exact Draft.built_make _ (value.built_draft built) line (.print _)
        (List.forall_mem_singleton.2 (value.denotes_draft draft).inside)
  | input target line =>
      exact (draft.intern target).1.built_make built line (.input _) (List.forall_mem_nil _)
  | ifThen condition body line =>
      have first := (condition.denotes_draft draft).grows
        (grows_draft body (condition.draft draft).1)
      exact Draft.built_make _ (built_draft body (condition.built_draft built)) line (.ifThen _ _)
        (Draft.forall_mem_pair first.inside (denotes_draft body _).inside)
  | ifElse condition body otherwise line =>
      have later := grows_draft otherwise (body.draft (condition.draft draft).1).1
      have first := (condition.denotes_draft draft).grows
        ((grows_draft body (condition.draft draft).1).trans later)
      have second := (denotes_draft body (condition.draft draft).1).grows later
      exact Draft.built_make _
        (built_draft otherwise (built_draft body (condition.built_draft built))) line
        (.ifElse _ _ _) (List.forall_mem_cons.2
          ⟨first.inside, Draft.forall_mem_pair second.inside (denotes_draft otherwise _).inside⟩)
  | block statements line =>
      exact Draft.built_block (built_draftAll statements built) line
        (denoteAll_draftAll statements draft).inside
  | broken fragments error line =>
      exact Draft.built_giveUp (Fragment.built_foldl fragments built) error line
  | unclosed statements error line =>
      exact Draft.built_giveUp (built_draftAll statements built) error line

theorem built_draftAll (statements : List Statement) {draft : Draft}
    (built : draft.tree.Built) : (draftAll draft statements).1.tree.Built := by
  cases statements with
  | nil => exact built
  | cons first rest => exact built_draftAll rest (built_draft first built)

end

end Statement

/-- The tree of a script is made by constructors. -/
theorem Script.built_draft (script : Script) : script.draft.1.tree.Built :=
  Draft.built_block (Statement.built_draftAll script.statements .empty) script.line
    (Statement.denoteAll_draftAll script.statements .empty).inside

/-- All nodes of a script are under its topmost node, if nothing of it was given up. -/
theorem Script.under_draft (script : Script)
    (whole : Statement.areWhole script.statements = true) {id : NodeId}
    (inside : id < script.draft.1.tree.size) : script.draft.1.tree.Under script.draft.2 id := by
  have covers := (Statement.covers_draftAll script.statements whole .empty).block script.line
  obtain ⟨top, member, under⟩ := covers id (Nat.zero_le _) inside
  exact List.mem_singleton.1 member ▸ under

end StackScript
