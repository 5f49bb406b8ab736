import StackScript.Proofs.Symbol
import StackScript.Tree.OfPhrase
import StackScript.Tree.Term

/-!
# Growing drafts

Drafting only ever adds symbols, nodes and diagnostics, so a node that has been made goes on
standing for the same term.
-/

namespace StackScript

/-- A form whose children are the terms of its nodes. -/
def Form.toTerm (child : NodeId → Term) : Form → Term
  | sequence first second => .sequence (child first) (child second)
  | empty => .empty
  | evaluate value => .evaluate (child value)
  | print value => .print (child value)
  | input target => .input target
  | ifThen condition body => .ifThen (child condition) (child body)
  | ifElse condition body otherwise =>
      .ifElse (child condition) (child body) (child otherwise)
  | error => .error
  | equals left right => .equals (child left) (child right)
  | assign target value => .assign target (child value)
  | add left right => .add (child left) (child right)
  | identifier symbol => .identifier symbol
  | stringConstant symbol => .stringConstant symbol
  | integerConstant symbol => .integerConstant symbol
  | coerceToString operand => .coerceToString (child operand)
  | coerceToInteger operand => .coerceToInteger (child operand)

/-- Only the children of a form matter. -/
theorem Form.toTerm_congr {form : Form} {child other : NodeId → Term}
    (same : ∀ id ∈ form.children, child id = other id) : form.toTerm child = form.toTerm other := by
  cases form <;> simp_all [toTerm, children]

namespace Tree

variable {tree later : Tree}

theorem term_eq (tree : Tree) (id : NodeId) :
    tree.term id =
      match tree.get? id with
      | none => .error
      | some node =>
          node.form.toTerm fun child => if child < id then tree.term child else .error := by
  rw [term]
  cases tree.get? id with
  | none => rfl
  | some node =>
      obtain ⟨form, type, line⟩ := node
      cases form <;> rfl

/-- A tree has the nodes of an earlier one. -/
theorem get?_of_prefix (grown : tree.nodes.toList <+: later.nodes.toList) {id : NodeId}
    (inside : id < tree.size) : later.get? id = tree.get? id := by
  obtain ⟨more, shape⟩ := grown
  rw [get?, get?, ← Array.getElem?_toList, ← Array.getElem?_toList, ← shape,
    List.getElem?_append_left (by simpa [size] using inside)]

theorem typeOf_of_prefix (grown : tree.nodes.toList <+: later.nodes.toList) {id : NodeId}
    (inside : id < tree.size) : later.typeOf id = tree.typeOf id := by
  rw [typeOf, typeOf, get?_of_prefix grown inside]

/-- The term of a node does not change when the tree grows. -/
theorem term_of_prefix (grown : tree.nodes.toList <+: later.nodes.toList) (id : NodeId)
    (inside : id < tree.size) : later.term id = tree.term id := by
  induction id using Nat.strongRecOn with
  | ind id induction =>
      rw [term_eq, term_eq, get?_of_prefix grown inside]
      cases tree.get? id with
      | none => rfl
      | some node =>
          refine Form.toTerm_congr fun child _ => ?_
          by_cases smaller : child < id
          · rw [if_pos smaller, if_pos smaller]
            exact induction child smaller (Nat.lt_trans smaller inside)
          · rw [if_neg smaller, if_neg smaller]

theorem prefix_push (tree : Tree) (node : Node) :
    tree.nodes.toList <+: (tree.push node).nodes.toList := by
  rw [push, Array.toList_push]
  exact List.prefix_append _ _

/-- The term of a new node has the terms of its children, if they have been made before. -/
theorem term_push (tree : Tree) (node : Node)
    (before : ∀ child ∈ node.form.children, child < tree.size) :
    (tree.push node).term tree.size = node.form.toTerm tree.term := by
  rw [term_eq, get?_push, if_pos rfl]
  apply Form.toTerm_congr
  intro child member
  rw [if_pos (before child member)]
  exact term_of_prefix (tree.prefix_push node) child (before child member)

theorem typeOf_push (tree : Tree) (node : Node) :
    (tree.push node).typeOf tree.size = node.type := by
  rw [typeOf, get?_push, if_pos rfl]
  rfl

end Tree

/-- A draft has what an earlier one had. -/
structure Draft.Grows (earlier later : Draft) : Prop where
  symbols : earlier.symbols.symbols <+: later.symbols.symbols
  nodes : earlier.tree.nodes.toList <+: later.tree.nodes.toList
  diagnostics : earlier.diagnostics.toList <+: later.diagnostics.toList

namespace Draft

namespace Grows

variable {first second third : Draft}

theorem refl (draft : Draft) : draft.Grows draft :=
  ⟨List.prefix_refl _, List.prefix_refl _, List.prefix_refl _⟩

theorem trans (left : first.Grows second) (right : second.Grows third) : first.Grows third :=
  ⟨left.symbols.trans right.symbols, left.nodes.trans right.nodes,
    left.diagnostics.trans right.diagnostics⟩

/-- There were no more nodes. -/
theorem size_le (grows : first.Grows second) : first.tree.size ≤ second.tree.size := by
  simpa [Tree.size] using grows.nodes.length_le

/-- Where there are no diagnostics, there have been none. -/
theorem clean (grows : first.Grows second) (none : second.diagnostics.size = 0) :
    first.diagnostics.size = 0 := by
  have fewer := grows.diagnostics.length_le
  simp only [Array.length_toList] at fewer
  omega

end Grows

theorem grows_intern (draft : Draft) (symbol : Symbol) : draft.Grows (draft.intern symbol).1 :=
  ⟨SymbolTable.prefix_intern _ _, List.prefix_refl _, List.prefix_refl _⟩

theorem grows_report (draft : Draft) (line : Nat) (problem : Problem) :
    draft.Grows (draft.report line problem) := by
  refine ⟨List.prefix_refl _, List.prefix_refl _, ?_⟩
  rw [report, Array.toList_push]
  exact List.prefix_append _ _

theorem size_report (draft : Draft) (line : Nat) (problem : Problem) :
    (draft.report line problem).diagnostics.size ≠ 0 := by
  simp [report]

theorem grows_push (draft : Draft) (form : Form) (type : Ty) (line : Nat) :
    draft.Grows (draft.push form type line).1 :=
  ⟨List.prefix_refl _, draft.tree.prefix_push _, List.prefix_refl _⟩

theorem grows_checkCondition (draft : Draft) (line : Nat) (condition : NodeId) :
    draft.Grows (draft.checkCondition line condition) := by
  simp only [checkCondition]
  split
  · exact .refl draft
  · exact draft.grows_report _ _

theorem grows_ifThen (draft : Draft) (line : Nat) (condition body : NodeId) :
    draft.Grows (draft.ifThen line condition body).1 :=
  (draft.grows_checkCondition line condition).trans (grows_push _ _ _ _)

theorem grows_ifElse (draft : Draft) (line : Nat) (condition body otherwise : NodeId) :
    draft.Grows (draft.ifElse line condition body otherwise).1 :=
  (draft.grows_checkCondition line condition).trans (grows_push _ _ _ _)

theorem grows_block (draft : Draft) (line : Nat) (ids : List NodeId) :
    draft.Grows (draft.block line ids).1 := by
  cases ids with
  | nil => exact draft.grows_push _ _ _
  | cons first rest =>
      rw [block]
      induction rest generalizing draft first with
      | nil => exact .refl draft
      | cons next rest induction =>
          exact (draft.grows_push _ _ _).trans (induction _ _)

theorem grows_equals (draft : Draft) (line : Nat) (left right : NodeId) :
    draft.Grows (draft.equals line left right).1 := by
  refine Grows.trans ?_ (grows_push _ _ _ _)
  split
  · exact .refl draft
  · exact draft.grows_report _ _

theorem grows_coerce (draft : Draft) (line : Nat) (operand : NodeId) (coercion : Coercion) :
    draft.Grows (draft.coerce line operand coercion).1 := by
  cases coercion <;> exact draft.grows_push _ _ _

theorem grows_add (draft : Draft) (line : Nat) (left right : NodeId) :
    draft.Grows (draft.add line left right).1 := by
  simp only [add]
  split
  · exact draft.grows_push _ _ _
  · exact (draft.grows_coerce _ _ _).trans (grows_push _ _ _ _)
  · exact (draft.grows_report _ _).trans (grows_push _ _ _ _)

theorem grows_giveUp (draft : Draft) (error : GrammarError) (line : Nat) :
    draft.Grows (draft.giveUp error line).1 :=
  (draft.grows_report _ _).trans (grows_push _ _ _ _)

end Draft

/-! ## Phrases -/

theorem Expression.grows_draftAtom (draft : Draft) (symbol : Symbol) (line : Nat) :
    draft.Grows (draftAtom draft symbol line).1 := by
  refine (draft.grows_intern symbol).trans ?_
  simp only [draftAtom]
  split <;> exact Draft.grows_push _ _ _ _

theorem Expression.grows_draft (expression : Expression) (draft : Draft) :
    draft.Grows (expression.draft draft).1 := by
  induction expression generalizing draft with
  | atom symbol line => exact grows_draftAtom draft symbol line
  | assign target value line induction =>
      exact ((draft.grows_intern target).trans (induction _)).trans (Draft.grows_push _ _ _ _)
  | equals left right line inductionLeft inductionRight =>
      exact ((inductionLeft draft).trans (inductionRight _)).trans (Draft.grows_equals _ _ _ _)
  | add left right line inductionLeft inductionRight =>
      exact ((inductionLeft draft).trans (inductionRight _)).trans (Draft.grows_add _ _ _ _)

theorem Fragment.grows_draft (fragment : Fragment) (draft : Draft) :
    draft.Grows (fragment.draft draft) := by
  cases fragment with
  | target symbol => exact draft.grows_intern symbol
  | expression value => exact value.grows_draft draft

theorem Fragment.grows_foldl (fragments : List Fragment) (draft : Draft) :
    draft.Grows (fragments.foldl Fragment.draft draft) := by
  induction fragments generalizing draft with
  | nil => exact .refl draft
  | cons first fragments induction => exact (first.grows_draft draft).trans (induction _)

namespace Statement

mutual

theorem grows_draft (statement : Statement) (draft : Draft) :
    draft.Grows (statement.draft draft).1 := by
  cases statement with
  | empty line => exact draft.grows_push _ _ _
  | evaluate value line | print value line =>
      exact (value.grows_draft draft).trans (Draft.grows_push _ _ _ _)
  | input target line => exact (draft.grows_intern target).trans (Draft.grows_push _ _ _ _)
  | ifThen condition body line =>
      exact ((condition.grows_draft draft).trans (grows_draft body _)).trans
        (Draft.grows_ifThen _ _ _ _)
  | ifElse condition body otherwise line =>
      exact (((condition.grows_draft draft).trans (grows_draft body _)).trans
        (grows_draft otherwise _)).trans (Draft.grows_ifElse _ _ _ _ _)
  | block statements line =>
      exact (grows_draftAll statements draft).trans (Draft.grows_block _ _ _)
  | broken fragments error line =>
      exact (Fragment.grows_foldl fragments draft).trans (Draft.grows_giveUp _ _ _)
  | unclosed statements error line =>
      exact (grows_draftAll statements draft).trans (Draft.grows_giveUp _ _ _)

theorem grows_draftAll (statements : List Statement) (draft : Draft) :
    draft.Grows (draftAll draft statements).1 := by
  cases statements with
  | nil => exact .refl draft
  | cons first rest => exact (grows_draft first draft).trans (grows_draftAll rest _)

end

end Statement

end StackScript
