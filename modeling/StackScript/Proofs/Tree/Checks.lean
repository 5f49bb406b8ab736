import StackScript.Proofs.Tree.Construction

/-!
# The checks of a syntax tree

Constructors may be called in any order and on any nodes that are there, statements and nodes that
have several parents among them. A call records a diagnostic exactly if its operands have types that
it cannot use, and never more than one. As long as none is recorded, the types of all nodes agree.
-/

namespace StackScript

namespace Construction

/-- A call whose operands have types that the constructor cannot use. -/
def IsFaulty (typeOf : NodeId → Ty) : Construction → Prop
  | ifThen condition _ | ifElse condition _ _ => typeOf condition ≠ .bool
  | equals left right => typeOf left ≠ typeOf right
  | add left right =>
      (typeOf left ≠ .string ∧ typeOf left ≠ .integer) ∨
        typeOf right = .void ∨ typeOf right = .unknown
  | _ => False

end Construction

namespace Coercion

/-- The type of what is converted. -/
def type : Coercion → Ty
  | toString => .string
  | toInteger => .integer

/-- The node of a conversion. -/
def form (operand : NodeId) : Coercion → Form
  | toString => .coerceToString operand
  | toInteger => .coerceToInteger operand

variable {left right : Ty} {coercion : Coercion}

theorem forAddend_eq_error_iff :
    (∃ problem, forAddend left right = .error problem) ↔
      (left ≠ .string ∧ left ≠ .integer) ∨ right = .void ∨ right = .unknown := by
  cases left <;> cases right <;> simp [forAddend]

/-- Nothing is converted where the operands are of one type already. -/
theorem eq_of_forAddend_none (fits : forAddend left right = .ok none) :
    (left = .string ∨ left = .integer) ∧ right = left := by
  cases left <;> cases right <;> simp [forAddend] at fits ⊢

/-- A conversion brings an operand of another type to that of the left one. -/
theorem type_of_forAddend (converts : forAddend left right = .ok (some coercion)) :
    (left = .string ∨ left = .integer) ∧ coercion.type = left ∧ right ≠ left := by
  cases left <;> cases right <;> cases coercion <;> simp [forAddend, type] at converts ⊢

end Coercion

/-! ## What a call records -/

namespace Draft

variable {draft later : Draft} {line : Nat}

/-- A call has recorded a fault on a line, or has none to record. -/
def Records (draft : Draft) (line : Nat) (faulty : Prop) (later : Draft) : Prop :=
  (faulty → ∃ problem, later.diagnostics = draft.diagnostics.push ⟨line, problem⟩) ∧
    (¬faulty → later.diagnostics = draft.diagnostics)

theorem records_nothing (same : later.diagnostics = draft.diagnostics) :
    draft.Records line False later :=
  ⟨False.elim, fun _ => same⟩

theorem records_checkCondition (draft : Draft) (line : Nat) (condition : NodeId) :
    draft.Records line (draft.tree.typeOf condition ≠ .bool)
      (draft.checkCondition line condition) := by
  simp only [checkCondition]
  constructor
  · intro other
    rw [if_neg other]
    exact ⟨_, rfl⟩
  · intro bool
    rw [if_pos (not_not.1 bool)]

theorem records_equals (draft : Draft) (line : Nat) (left right : NodeId) :
    draft.Records line (draft.tree.typeOf left ≠ draft.tree.typeOf right)
      (draft.equals line left right).1 := by
  simp only [equals]
  constructor
  · intro other
    rw [if_neg other]
    exact ⟨_, rfl⟩
  · intro same
    rw [if_pos (not_not.1 same)]
    rfl

theorem coerce_eq (draft : Draft) (line : Nat) (operand : NodeId) (coercion : Coercion) :
    draft.coerce line operand coercion = draft.push (coercion.form operand) coercion.type line := by
  cases coercion <;> rfl

theorem records_add (draft : Draft) (line : Nat) (left right : NodeId) :
    draft.Records line (∃ problem,
        Coercion.forAddend (draft.tree.typeOf left) (draft.tree.typeOf right) = .error problem)
      (draft.add line left right).1 := by
  simp only [add]
  split
  next fits =>
    refine ⟨?_, fun _ => rfl⟩
    rintro ⟨problem, refused⟩
    cases fits.symm.trans refused
  next coercion converts =>
    rw [coerce_eq]
    refine ⟨?_, fun _ => rfl⟩
    rintro ⟨problem, refused⟩
    cases converts.symm.trans refused
  next problem refused =>
    exact ⟨fun _ => ⟨problem, rfl⟩, fun fits => absurd ⟨problem, refused⟩ fits⟩

/-- A call records one fault if it is faulty, and otherwise none. -/
theorem records_make (draft : Draft) (line : Nat) (call : Construction) :
    draft.Records line (call.IsFaulty draft.tree.typeOf) (call.make draft line).1 := by
  cases call with
  | ifThen condition body => exact draft.records_checkCondition line condition
  | ifElse condition body otherwise => exact draft.records_checkCondition line condition
  | equals left right => exact draft.records_equals line left right
  | add left right =>
      rw [Construction.IsFaulty, ← Coercion.forAddend_eq_error_iff]
      exact draft.records_add line left right
  | sequence | empty | evaluate | print | input | error | assign | identifier | stringConstant
  | integerConstant => exact records_nothing rfl

theorem not_isFaulty_of_clean {call : Construction}
    (clean : (call.make draft line).1.diagnostics.size = 0) :
    ¬call.IsFaulty draft.tree.typeOf := by
  intro faulty
  obtain ⟨problem, recorded⟩ := (draft.records_make line call).1 faulty
  simp [recorded] at clean

end Draft

/-! ## Where nothing is recorded -/

/-- The types of a form and its children agree: the operands of an addition have its type, those of
a comparison have one type, a condition is a boolean, and what is converted has another type. -/
def Form.Agrees (typeOf : NodeId → Ty) (type : Ty) : Form → Prop
  | add left right =>
      (type = .string ∨ type = .integer) ∧ typeOf left = type ∧ typeOf right = type
  | equals left right => typeOf left = typeOf right
  | ifThen condition _ | ifElse condition _ _ => typeOf condition = .bool
  | coerceToString operand | coerceToInteger operand => typeOf operand ≠ type
  | _ => True

/-- Only the types of the children of a form matter. -/
theorem Form.agrees_congr {form : Form} {typeOf other : NodeId → Ty} {type : Ty}
    (same : ∀ id ∈ form.children, typeOf id = other id) (agrees : form.Agrees typeOf type) :
    form.Agrees other type := by
  cases form <;> simp_all [Agrees, children]

/-- The type of a node is known and agrees with those of its children. -/
structure Node.Checked (typeOf : NodeId → Ty) (node : Node) : Prop where
  known : node.type ≠ .unknown
  agrees : node.form.Agrees typeOf node.type

namespace Draft

variable {draft later : Draft} {line : Nat}

/-- The types of all nodes agree. -/
def Checked (draft : Draft) : Prop :=
  ∀ id node, draft.tree.get? id = some node → node.Checked draft.tree.typeOf

theorem Checked.typeOf_ne_unknown (checked : draft.Checked) {id : NodeId}
    (inside : id < draft.tree.size) : draft.tree.typeOf id ≠ .unknown := by
  have found : draft.tree.get? id = some draft.tree.nodes[id] := Array.getElem?_eq_getElem inside
  rw [Tree.typeOf, found]
  exact (checked id _ found).known

/-- A node that agrees with nodes that are there keeps the draft checked. -/
theorem Checked.push (checked : draft.Checked) (formed : draft.Formed) {form : Form} {type : Ty}
    (line : Nat) (there : ∀ child ∈ form.children, child < draft.tree.size)
    (known : type ≠ .unknown) (agrees : form.Agrees draft.tree.typeOf type) :
    (draft.push form type line).1.Checked := by
  have kept {id : NodeId} (inside : id < draft.tree.size) :
      draft.tree.typeOf id = (draft.push form type line).1.tree.typeOf id :=
    (Tree.typeOf_of_prefix (draft.tree.prefix_push _) inside).symm
  intro id node found
  have cases : (if id = draft.tree.size then some ⟨form, type, line⟩ else draft.tree.get? id) =
      some node := (draft.tree.get?_push _ _).symm.trans found
  split at cases
  next =>
    rw [Option.some.injEq] at cases
    subst cases
    exact ⟨known, Form.agrees_congr (fun child member => kept (there child member)) agrees⟩
  next =>
    have inside : id < draft.tree.size := (Array.getElem?_eq_some_iff.1 cases).1
    have before := checked id node cases
    refine ⟨before.known, Form.agrees_congr (fun child member => kept ?_) before.agrees⟩
    exact Nat.lt_trans ((formed id node cases).children child member) inside

theorem Checked.ifThen (checked : draft.Checked) (formed : draft.Formed) {condition body : NodeId}
    (there : ∀ id ∈ [condition, body], id < draft.tree.size)
    (bool : draft.tree.typeOf condition = .bool) :
    (draft.ifThen line condition body).1.Checked := by
  rw [Draft.ifThen, checkCondition, if_pos bool]
  exact checked.push formed line there (by decide) bool

theorem Checked.ifElse (checked : draft.Checked) (formed : draft.Formed)
    {condition body otherwise : NodeId}
    (there : ∀ id ∈ [condition, body, otherwise], id < draft.tree.size)
    (bool : draft.tree.typeOf condition = .bool) :
    (draft.ifElse line condition body otherwise).1.Checked := by
  rw [Draft.ifElse, checkCondition, if_pos bool]
  exact checked.push formed line there (by decide) bool

theorem Checked.equals (checked : draft.Checked) (formed : draft.Formed) {left right : NodeId}
    (there : ∀ id ∈ [left, right], id < draft.tree.size)
    (same : draft.tree.typeOf left = draft.tree.typeOf right) :
    (draft.equals line left right).1.Checked := by
  simp only [Draft.equals, if_pos same]
  exact checked.push formed line there (by decide) same

/-- An addition of two operands that have its type. -/
theorem Checked.sum (checked : draft.Checked) (formed : draft.Formed) {left addend : NodeId}
    (there : ∀ id ∈ [left, addend], id < draft.tree.size) {type : Ty}
    (adds : type = .string ∨ type = .integer) (first : draft.tree.typeOf left = type)
    (second : draft.tree.typeOf addend = type) :
    (draft.push (.add left addend) type.ofSum line).1.Checked := by
  have sum : type.ofSum = type := by rcases adds with rfl | rfl <;> rfl
  rw [sum]
  exact checked.push formed line there (first ▸ checked.typeOf_ne_unknown (there left (by simp)))
    ⟨adds, first, second⟩

theorem Checked.coerce (checked : draft.Checked) (formed : draft.Formed) {operand : NodeId}
    (there : operand < draft.tree.size) {coercion : Coercion}
    (other : draft.tree.typeOf operand ≠ coercion.type) :
    (draft.coerce line operand coercion).1.Checked := by
  cases coercion <;>
    exact checked.push formed line (List.forall_mem_singleton.2 there) (by decide) other

/-- A conversion has the type of the left operand, so the two can be added. -/
theorem Checked.add (checked : draft.Checked) (formed : draft.Formed) {left right : NodeId}
    (there : ∀ id ∈ [left, right], id < draft.tree.size)
    (fits : ¬∃ problem,
      Coercion.forAddend (draft.tree.typeOf left) (draft.tree.typeOf right) = .error problem) :
    (draft.add line left right).1.Checked := by
  obtain ⟨first, second⟩ := List.forall_mem_cons.1 there
  rw [List.forall_mem_singleton] at second
  simp only [Draft.add]
  split
  next same =>
    obtain ⟨adds, equal⟩ := Coercion.eq_of_forAddend_none same
    exact checked.sum formed there adds rfl equal
  next coercion converts =>
    obtain ⟨adds, brought, other⟩ := Coercion.type_of_forAddend converts
    have grows := draft.grows_coerce line right coercion
    have made := draft.coerce_lt_size line right coercion
    have converted : (draft.coerce line right coercion).1.tree.typeOf
        (draft.coerce line right coercion).2 = draft.tree.typeOf left := by
      rw [coerce_eq, ← brought]
      exact draft.tree.typeOf_push _
    exact (checked.coerce formed second (brought ▸ other)).sum (formed.coerce line second coercion)
      (List.forall_mem_cons.2 ⟨Nat.lt_of_lt_of_le first grows.size_le,
        List.forall_mem_singleton.2 made⟩) adds
      (Tree.typeOf_of_prefix grows.nodes first) converted
  next problem refused => exact absurd ⟨problem, refused⟩ fits

/-- A call that is not faulty keeps the draft checked. -/
theorem Checked.make (checked : draft.Checked) (formed : draft.Formed) {call : Construction}
    (there : ∀ operand ∈ call.operands, operand < draft.tree.size)
    (sound : ¬call.IsFaulty draft.tree.typeOf) : (call.make draft line).1.Checked := by
  cases call with
  | ifThen condition body => exact checked.ifThen formed there (not_not.1 sound)
  | ifElse condition body otherwise => exact checked.ifElse formed there (not_not.1 sound)
  | equals left right => exact checked.equals formed there (not_not.1 sound)
  | add left right =>
      rw [Construction.IsFaulty, ← Coercion.forAddend_eq_error_iff] at sound
      exact checked.add formed there sound
  | assign target value =>
      have inside := List.forall_mem_singleton.1 there
      exact checked.push formed line there (checked.typeOf_ne_unknown inside) trivial
  | sequence | empty | evaluate | print | input | error | identifier | stringConstant
  | integerConstant => exact checked.push formed line there Ty.noConfusion trivial

theorem grows_make (draft : Draft) (line : Nat) (call : Construction) :
    draft.Grows (call.make draft line).1 := by
  cases call with
  | ifThen condition body => exact draft.grows_ifThen line condition body
  | ifElse condition body otherwise => exact draft.grows_ifElse line condition body otherwise
  | equals left right => exact draft.grows_equals line left right
  | add left right => exact draft.grows_add line left right
  | sequence | empty | evaluate | print | input | error | assign | identifier | stringConstant
  | integerConstant => exact draft.grows_push _ _ _

/-! ## Calls in turn -/

/-- Calls of constructors in turn, on nodes that are there, each with the line it is made for. -/
inductive Makes : Draft → List (Nat × Construction) → Draft → Prop
  | nil (draft : Draft) : Makes draft [] draft
  | cons {draft later : Draft} {line : Nat} {call : Construction}
      {calls : List (Nat × Construction)}
      (there : ∀ operand ∈ call.operands, operand < draft.tree.size)
      (others : Makes (call.make draft line).1 calls later) :
      Makes draft ((line, call) :: calls) later

namespace Makes

variable {calls : List (Nat × Construction)}

theorem grows (makes : draft.Makes calls later) : draft.Grows later := by
  induction makes with
  | nil draft => exact .refl draft
  | cons there others induction => exact (grows_make _ _ _).trans induction

theorem formed (makes : draft.Makes calls later) (formed : draft.Formed) : later.Formed := by
  induction makes with
  | nil => exact formed
  | cons there others induction => exact induction (formed.make _ _ there)

theorem checked (makes : draft.Makes calls later) (formed : draft.Formed)
    (checked : draft.Checked) (clean : later.diagnostics.size = 0) : later.Checked := by
  induction makes with
  | nil => exact checked
  | cons there others induction =>
      have recorded := others.grows.clean clean
      exact induction (formed.make _ _ there)
        (checked.make formed there (not_isFaulty_of_clean recorded)) clean

end Makes

/-- Whatever calls have been made from the beginning: every node has as many children as its kind
asks for, made before it, and stays as it is whatever calls follow. The next call records a fault on
its line if its operands have types that it cannot use, and otherwise nothing. And if nothing has
been recorded yet, the types of all nodes are known and agree with those of their children. -/
theorem checks_exact {symbols : SymbolTable} {calls : List (Nat × Construction)} {draft : Draft}
    (makes : Makes ⟨symbols, .empty, #[]⟩ calls draft) :
    (∀ id node, draft.tree.get? id = some node →
        node.form.children.length = node.form.kind.arity ∧
          (∀ child ∈ node.form.children, child < id) ∧
          ∀ more later, draft.Makes more later → later.tree.get? id = some node) ∧
      (∀ (line : Nat) (call : Construction),
        (∀ operand ∈ call.operands, operand < draft.tree.size) →
        (call.IsFaulty draft.tree.typeOf → ∃ problem,
          (call.make draft line).1.diagnostics = draft.diagnostics.push ⟨line, problem⟩) ∧
        (¬call.IsFaulty draft.tree.typeOf →
          (call.make draft line).1.diagnostics = draft.diagnostics)) ∧
      (draft.diagnostics = #[] →
        ∀ id node, draft.tree.get? id = some node → node.Checked draft.tree.typeOf) := by
  have nothing (id : NodeId) (node : Node) : Tree.empty.get? id ≠ some node := by
    simp [Tree.empty, Tree.get?]
  have formed : draft.Formed := makes.formed fun id node found => absurd found (nothing id node)
  refine ⟨fun id node found => ⟨node.form.length_children, (formed id node found).children, ?_⟩,
    fun line call _ => draft.records_make line call, fun clean => ?_⟩
  · intro more later further
    have inside : id < draft.tree.size := (Array.getElem?_eq_some_iff.1 found).1
    rw [Tree.get?_of_prefix further.grows.nodes inside, found]
  · exact makes.checked (fun id node found => absurd found (nothing id node))
      (fun id node found => absurd found (nothing id node)) (clean ▸ rfl)

/-- A string, a comparison and an integer added up, printed if the comparison holds. -/
def mixedSum : List (Nat × Construction) :=
  [(1, .stringConstant 0), (1, .integerConstant 1), (2, .equals 1 1), (2, .add 0 2), (3, .add 4 1),
    (3, .print 6), (4, .ifThen 2 7)]

/-- What the calls for the sum make, two conversions among the nodes. -/
def mixedSumDraft : Draft :=
  mixedSum.foldl (fun draft step => (step.2.make draft step.1).1) ⟨.empty, .empty, #[]⟩

theorem checks_exact_mixedSum :
    Makes ⟨.empty, .empty, #[]⟩ mixedSum mixedSumDraft ∧ mixedSumDraft.diagnostics = #[] ∧
      mixedSumDraft.tree.get? 5 = some ⟨.coerceToString 1, .string, 3⟩ ∧
      Node.Checked mixedSumDraft.tree.typeOf ⟨.coerceToString 1, .string, 3⟩ ∧
      (∀ operand ∈ (Construction.add 2 1).operands, operand < mixedSumDraft.tree.size) ∧
      (Construction.add 2 1).IsFaulty mixedSumDraft.tree.typeOf ∧
      ∃ problem, ((Construction.add 2 1).make mixedSumDraft 5).1.diagnostics = #[⟨5, problem⟩] := by
  have makes : Makes ⟨.empty, .empty, #[]⟩ mixedSum mixedSumDraft :=
    .cons (by decide) (.cons (by decide) (.cons (by decide) (.cons (by decide) (.cons (by decide)
      (.cons (by decide) (.cons (by decide) (.nil _)))))))
  have clean : mixedSumDraft.diagnostics = #[] := by decide
  have found : mixedSumDraft.tree.get? 5 = some ⟨.coerceToString 1, .string, 3⟩ := by decide
  have there : ∀ operand ∈ (Construction.add 2 1).operands, operand < mixedSumDraft.tree.size := by
    decide
  have faulty : (Construction.add 2 1).IsFaulty mixedSumDraft.tree.typeOf := .inl (by decide)
  obtain ⟨-, records, checked⟩ := checks_exact makes
  obtain ⟨problem, recorded⟩ := (records 5 _ there).1 faulty
  exact ⟨makes, clean, found, checked clean 5 _ found, there, faulty, problem,
    by rw [recorded, clean]; rfl⟩

end Draft

end StackScript
