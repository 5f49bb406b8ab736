import StackScript.Proofs.LinkedCode.Assembly
import StackScript.Proofs.Tree.Growth

/-!
# Trees by construction

Whatever nodes the constructors are called on, children have smaller numbers than their parents and
every node has the type that its form and the types of its children ask for. So the code of a tree
can be said node by node, with the types that are recorded, and linked code becomes that code, even
where checks have failed or nodes have several parents.
-/

namespace StackScript

/-- A call of a node constructor. Conversions are made by additions only. -/
inductive Construction where
  | sequence (first second : NodeId)
  | empty
  | evaluate (value : NodeId)
  | print (value : NodeId)
  | input (target : SymbolId)
  | ifThen (condition body : NodeId)
  | ifElse (condition body otherwise : NodeId)
  | error
  | equals (left right : NodeId)
  | assign (target : SymbolId) (value : NodeId)
  | add (left right : NodeId)
  | identifier (symbol : SymbolId)
  | stringConstant (symbol : SymbolId)
  | integerConstant (symbol : SymbolId)
deriving DecidableEq, Repr

namespace Construction

/-- The nodes that a constructor is called on. -/
def operands : Construction → List NodeId
  | sequence first second => [first, second]
  | evaluate value | print value | assign _ value => [value]
  | ifThen condition body => [condition, body]
  | ifElse condition body otherwise => [condition, body, otherwise]
  | equals left right | add left right => [left, right]
  | empty | input _ | error | identifier _ | stringConstant _ | integerConstant _ => []

/-- What a constructor makes of a draft. -/
def make (draft : Draft) (line : Nat) : Construction → Draft × NodeId
  | sequence first second => draft.sequence line first second
  | empty => draft.statement line .empty
  | evaluate value => draft.statement line (.evaluate value)
  | print value => draft.statement line (.print value)
  | input target => draft.statement line (.input target)
  | ifThen condition body => draft.ifThen line condition body
  | ifElse condition body otherwise => draft.ifElse line condition body otherwise
  | error => draft.statement line .error
  | equals left right => draft.equals line left right
  | assign target value => draft.assign line target value
  | add left right => draft.add line left right
  | identifier symbol => draft.identifier line symbol
  | stringConstant symbol => draft.stringConstant line symbol
  | integerConstant symbol => draft.integerConstant line symbol

end Construction

/-- A tree that is made by calling constructors on nodes that are there, whatever the symbols and
the diagnostics are meanwhile. -/
inductive Tree.Built : Tree → Prop
  | empty : Built .empty
  | make {tree : Tree} (built : Built tree) (symbols : SymbolTable)
      (diagnostics : Array Diagnostic) (line : Nat) (call : Construction)
      (there : ∀ operand ∈ call.operands, operand < tree.size) :
      Built (call.make ⟨symbols, tree, diagnostics⟩ line).1.tree

/-- The type that a form asks for, given those of its children. -/
def Form.type (typeOf : NodeId → Ty) : Form → Ty
  | equals _ _ => .bool
  | assign _ value => typeOf value
  | add left _ => (typeOf left).ofSum
  | identifier _ | stringConstant _ | coerceToString _ => .string
  | integerConstant _ | coerceToInteger _ => .integer
  | sequence _ _ | empty | evaluate _ | print _ | input _ | ifThen _ _ | ifElse _ _ _ | error =>
      .void

/-- Only the types of the children of a form matter. -/
theorem Form.type_congr {form : Form} {typeOf other : NodeId → Ty}
    (same : ∀ id ∈ form.children, typeOf id = other id) : form.type typeOf = form.type other := by
  cases form <;> simp_all [type, children]

/-- The type of a form is that of its term. -/
theorem Form.type_toTerm (form : Form) (child : NodeId → Term) :
    (form.toTerm child).type = form.type fun id => (child id).type := by
  cases form <;> rfl

namespace Tree

/-- The node of a number refers to nodes before it, and has the type that its form asks for. -/
structure Formed (tree : Tree) (id : NodeId) (node : Node) : Prop where
  children : ∀ child ∈ node.form.children, child < id
  type : node.type = node.form.type tree.typeOf

section Push

variable {tree : Tree} {node : Node}

/-- Nodes stay as they are when the tree grows. -/
theorem Formed.push {id : NodeId} (formed : tree.Formed id node) (inside : id < tree.size)
    (more : Node) : (tree.push more).Formed id node where
  children := formed.children
  type := formed.type.trans (Form.type_congr fun child member =>
    (Tree.typeOf_of_prefix (tree.prefix_push more)
      (Nat.lt_trans (formed.children child member) inside)).symm)

/-- A tree of formed nodes has one more if the new node refers to nodes that are there. -/
theorem formed_push (all : ∀ id node, tree.get? id = some node → tree.Formed id node)
    (there : ∀ child ∈ node.form.children, child < tree.size)
    (typed : node.type = node.form.type tree.typeOf) :
    ∀ id other, (tree.push node).get? id = some other → (tree.push node).Formed id other := by
  intro id other found
  rw [get?_push] at found
  split at found
  next last =>
    rw [Option.some.injEq] at found
    subst last found
    refine ⟨there, typed.trans (Form.type_congr fun child member => ?_)⟩
    exact (Tree.typeOf_of_prefix (tree.prefix_push node) (there child member)).symm
  next =>
    have inside : id < tree.size := (Array.getElem?_eq_some_iff.1 found).1
    exact (all id other found).push inside node

end Push

end Tree

namespace Draft

variable {draft : Draft}

/-- Every node of a draft is formed. -/
def Formed (draft : Draft) : Prop :=
  ∀ id node, draft.tree.get? id = some node → draft.tree.Formed id node

theorem Formed.push (formed : draft.Formed) {form : Form} {type : Ty} (line : Nat)
    (there : ∀ child ∈ form.children, child < draft.tree.size)
    (typed : type = form.type draft.tree.typeOf) : (draft.push form type line).1.Formed :=
  Tree.formed_push formed there typed

theorem Formed.report (formed : draft.Formed) (line : Nat) (problem : Problem) :
    (draft.report line problem).Formed :=
  formed

theorem tree_checkCondition (draft : Draft) (line : Nat) (condition : NodeId) :
    (draft.checkCondition line condition).tree = draft.tree := by
  simp only [checkCondition]
  split <;> rfl

theorem Formed.checkCondition (formed : draft.Formed) (line : Nat) (condition : NodeId) :
    (draft.checkCondition line condition).Formed := by
  rw [Formed, draft.tree_checkCondition line condition]
  exact formed

theorem Formed.ifThen (formed : draft.Formed) (line : Nat) {condition body : NodeId}
    (there : ∀ id ∈ [condition, body], id < draft.tree.size) :
    (draft.ifThen line condition body).1.Formed :=
  (formed.checkCondition line condition).push line
    (draft.tree_checkCondition line condition ▸ there) rfl

theorem Formed.ifElse (formed : draft.Formed) (line : Nat) {condition body otherwise : NodeId}
    (there : ∀ id ∈ [condition, body, otherwise], id < draft.tree.size) :
    (draft.ifElse line condition body otherwise).1.Formed :=
  (formed.checkCondition line condition).push line
    (draft.tree_checkCondition line condition ▸ there) rfl

theorem Formed.equals (formed : draft.Formed) (line : Nat) {left right : NodeId}
    (there : ∀ id ∈ [left, right], id < draft.tree.size) :
    (draft.equals line left right).1.Formed := by
  simp only [Draft.equals]
  split
  · exact formed.push line there rfl
  · exact (formed.report line _).push line there rfl

/-- An addition of a left operand and what the right one has been converted to. -/
theorem Formed.push_add {prepared : Draft} (formed : prepared.Formed) (line : Nat)
    {left addend : NodeId} {type : Ty} (there : left < prepared.tree.size)
    (added : addend < prepared.tree.size) (recorded : prepared.tree.typeOf left = type) :
    (prepared.push (.add left addend) type.ofSum line).1.Formed := by
  refine formed.push line ?_ (congrArg Ty.ofSum recorded.symm)
  exact List.forall_mem_cons.2 ⟨there, List.forall_mem_singleton.2 added⟩

theorem Formed.coerce (formed : draft.Formed) (line : Nat) {operand : NodeId}
    (there : operand < draft.tree.size) (coercion : Coercion) :
    (draft.coerce line operand coercion).1.Formed := by
  cases coercion <;> exact formed.push line (List.forall_mem_singleton.2 there) rfl

/-- A conversion is a node of the draft that it is made for. -/
theorem coerce_lt_size (draft : Draft) (line : Nat) (operand : NodeId) (coercion : Coercion) :
    (draft.coerce line operand coercion).2 < (draft.coerce line operand coercion).1.tree.size := by
  cases coercion <;>
  · rw [coerce, push, Tree.size_push]
    exact Nat.lt_succ_self _

theorem Formed.add (formed : draft.Formed) (line : Nat) {left right : NodeId}
    (there : ∀ id ∈ [left, right], id < draft.tree.size) :
    (draft.add line left right).1.Formed := by
  obtain ⟨first, second⟩ := List.forall_mem_cons.1 there
  rw [List.forall_mem_singleton] at second
  simp only [Draft.add]
  split
  · exact formed.push_add line first second rfl
  next coercion _ =>
    have grows := draft.grows_coerce line right coercion
    exact (formed.coerce line second coercion).push_add line
      (Nat.lt_of_lt_of_le first grows.size_le) (draft.coerce_lt_size line right coercion)
      (Tree.typeOf_of_prefix grows.nodes first)
  · exact (formed.report line _).push_add line first second rfl

/-- No constructor makes a node that is not formed. -/
theorem Formed.make (formed : draft.Formed) (line : Nat) (call : Construction)
    (there : ∀ operand ∈ call.operands, operand < draft.tree.size) :
    (call.make draft line).1.Formed := by
  cases call with
  | ifThen condition body => exact formed.ifThen line there
  | ifElse condition body otherwise => exact formed.ifElse line there
  | equals left right => exact formed.equals line there
  | add left right => exact formed.add line there
  | sequence | empty | evaluate | print | input | error | assign | identifier | stringConstant
  | integerConstant => exact formed.push line there rfl

end Draft

namespace Tree

variable {tree : Tree}

/-- Every node of a tree that constructors have made is formed. -/
theorem Built.formed (built : tree.Built) {id : NodeId} {node : Node}
    (found : tree.get? id = some node) : tree.Formed id node := by
  induction built generalizing id node with
  | empty => contradiction
  | @make tree built symbols diagnostics line call there induction =>
      have before : Draft.Formed ⟨symbols, tree, diagnostics⟩ := fun _ _ => induction
      exact before.make line call there id node found

/-- The term of a node is its form over the terms of its children. -/
theorem Built.term_eq (built : tree.Built) {id : NodeId} {node : Node}
    (found : tree.get? id = some node) : tree.term id = node.form.toTerm tree.term := by
  rw [Tree.term_eq, found]
  exact Form.toTerm_congr fun child member => if_pos ((built.formed found).children child member)

/-- The type that is recorded for a node is the type of its term. -/
theorem Built.typeOf_eq (built : tree.Built) {id : NodeId} (inside : id < tree.size) :
    tree.typeOf id = (tree.term id).type := by
  induction id using Nat.strongRecOn with
  | ind id induction =>
      have found : tree.get? id = some tree.nodes[id] := Array.getElem?_eq_getElem inside
      have formed := built.formed found
      have recorded : tree.typeOf id = tree.nodes[id].type := by
        rw [typeOf, found]
        rfl
      rw [recorded, formed.type, built.term_eq found, Form.type_toTerm]
      refine Form.type_congr fun child member => ?_
      have smaller := formed.children child member
      exact induction child smaller (Nat.lt_trans smaller inside)

end Tree

/-! ## Code by nodes -/

/-- The instructions of a form, given the types and the instructions of its children. -/
def Form.code (typeOf : NodeId → Ty) (code : NodeId → List Instruction) :
    Form → List Instruction
  | sequence first second => code first ++ code second
  | empty | error => [.nop]
  | evaluate value => code value ++ [.discard]
  | print value => code value ++ [.print]
  | input target => [.input target]
  | ifThen condition body =>
      code condition ++ [.jumpIfFalse (Int32.ofInt ((code body).length + 2))] ++ code body ++ [.nop]
  | ifElse condition body otherwise =>
      code condition ++ [.jumpIfFalse (Int32.ofInt ((code body).length + 3))] ++ code body ++
        [.jump (Int32.ofInt ((code otherwise).length + 3)), .nop] ++ code otherwise ++ [.nop]
  | equals left right =>
      code left ++ code right ++ [if typeOf left = .bool then .boolEqual else .equal]
  | assign target value => code value ++ [.getTop target]
  | add left right => code left ++ code right ++ [.add]
  | identifier symbol | stringConstant symbol | integerConstant symbol => [.push symbol]
  | coerceToString operand =>
      code operand ++ [if typeOf operand = .bool then .boolToString else .integerToString]
  | coerceToInteger operand => code operand ++ [.stringToInteger]

/-- Only the types and the instructions of the children of a form matter. -/
theorem Form.code_congr {form : Form} {typeOf other : NodeId → Ty}
    {code code' : NodeId → List Instruction} (types : ∀ id ∈ form.children, typeOf id = other id)
    (same : ∀ id ∈ form.children, code id = code' id) :
    form.code typeOf code = form.code other code' := by
  cases form <;> simp_all [Form.code, children]

/-- The instructions of a form are those of its term. -/
theorem Form.code_toTerm (form : Form) (child : NodeId → Term) :
    (form.toTerm child).code = form.code (fun id => (child id).type) fun id => (child id).code := by
  cases form <;>
    simp [toTerm, Form.code, Term.code, Term.comparisonInstruction, Term.conversionInstruction]

/-- A term is within a bound if its symbol and its children are. -/
theorem Form.within_toTerm {form : Form} {child : NodeId → Term} {bound : Nat}
    (symbols : ∀ symbol, form.symbol? = some symbol → symbol < bound)
    (children : ∀ id ∈ form.children, (child id).Within bound) :
    (form.toTerm child).Within bound := by
  cases form <;> simp_all [Form.toTerm, Form.children, Form.symbol?, Term.Within]

namespace Tree

/-- The instructions of the node of a number, with the type that is recorded for each node. -/
def code (tree : Tree) (id : NodeId) : List Instruction :=
  match tree.get? id with
  | none => [.nop]
  | some node =>
      node.form.code tree.typeOf fun child => if child < id then tree.code child else [.nop]
termination_by id

/-- A node is the root or under it. -/
inductive Under (tree : Tree) (root : NodeId) : NodeId → Prop
  | root : Under tree root root
  | child {id child : NodeId} {node : Node} (above : Under tree root id)
      (found : tree.get? id = some node) (member : child ∈ node.form.children) :
      Under tree root child

variable {tree : Tree}

/-- The instructions of a node are those of its form over the instructions of its children. -/
theorem Built.code_eq (built : tree.Built) {id : NodeId} {node : Node}
    (found : tree.get? id = some node) : tree.code id = node.form.code tree.typeOf tree.code := by
  rw [code, found]
  exact Form.code_congr (fun _ _ => rfl) fun child member =>
    if_pos ((built.formed found).children child member)

/-- The instructions of a node are those of its term. -/
theorem Built.code_term (built : tree.Built) {id : NodeId} (inside : id < tree.size) :
    (tree.term id).code = tree.code id := by
  induction id using Nat.strongRecOn with
  | ind id induction =>
      have found : tree.get? id = some tree.nodes[id] := Array.getElem?_eq_getElem inside
      rw [built.term_eq found, Form.code_toTerm, built.code_eq found]
      have before (child : NodeId) (member : child ∈ tree.nodes[id].form.children) :
          child < id ∧ child < tree.size :=
        have smaller := (built.formed found).children child member
        ⟨smaller, Nat.lt_trans smaller inside⟩
      exact Form.code_congr
        (fun child member => (built.typeOf_eq (before child member).2).symm)
        fun child member => induction child (before child member).1 (before child member).2

/-- A term is within a bound if the symbols of all nodes under its root are. -/
theorem Built.within (built : tree.Built) {root : NodeId} {bound : Nat} (inside : root < tree.size)
    (known : ∀ id node symbol, tree.Under root id → tree.get? id = some node →
      node.form.symbol? = some symbol → symbol < bound) : (tree.term root).Within bound := by
  have all : ∀ id, tree.Under root id → id < tree.size → (tree.term id).Within bound := by
    intro id
    induction id using Nat.strongRecOn with
    | ind id induction =>
        intro under inside
        have found : tree.get? id = some tree.nodes[id] := Array.getElem?_eq_getElem inside
        rw [built.term_eq found]
        refine Form.within_toTerm (fun symbol => known id _ symbol under found)
          fun child member => ?_
        have smaller := (built.formed found).children child member
        exact induction child smaller (under.child found member) (Nat.lt_trans smaller inside)
  exact all root .root inside

/-- The linked code of a node that constructors have made, over symbols among which are those of the
nodes under it, becomes the node's instructions, unless there are too many for their offsets to be
written. -/
theorem ofLinked?_eq_code {tree : Tree} (built : tree.Built) {root : NodeId}
    (inside : root < tree.size) {table : SymbolTable}
    (known : ∀ id node symbol, tree.Under root id → tree.get? id = some node →
      node.form.symbol? = some symbol → symbol < table.size)
    (short : (LinkedCode.ofTerm (tree.term root)).length < 2 ^ 31) :
    Program.ofLinked? table.assignSlots ((LinkedCode.ofTerm (tree.term root)).number 1) =
        .ok ⟨tree.code root, table.cells⟩ ∧
      ∀ id node, tree.get? id = some node →
        tree.code id = node.form.code tree.typeOf tree.code := by
  rw [LinkedCode.length_ofTerm] at short
  refine ⟨?_, fun id node found => built.code_eq found⟩
  rw [← built.code_term inside]
  exact (Program.ofLinked?_ofTerm (built.within inside known)).1 (Term.fits_of_length short)

/-- A conditional in which one mention stands at six places, and which compares a boolean with
it. -/
def sharedConditional : Tree :=
  ⟨#[⟨.identifier 0, .string, 1⟩, ⟨.equals 0 0, .bool, 1⟩, ⟨.equals 1 0, .bool, 2⟩,
    ⟨.print 0, .void, 2⟩, ⟨.ifThen 1 3, .void, 3⟩, ⟨.ifElse 2 4 3, .void, 4⟩]⟩

theorem built_sharedConditional : sharedConditional.Built :=
  have first := Built.empty.make .empty #[] 1 (.identifier 0) (by decide)
  have second := first.make .empty #[] 1 (.equals 0 0) (by decide)
  have third := second.make .empty #[] 2 (.equals 1 0) (by decide)
  have fourth := third.make .empty #[] 2 (.print 0) (by decide)
  have fifth := fourth.make .empty #[] 3 (.ifThen 1 3) (by decide)
  fifth.make .empty #[] 4 (.ifElse 2 4 3) (by decide)

theorem ofLinked?_eq_code_sharedConditional :
    sharedConditional.Built ∧ 5 < sharedConditional.size ∧
      (LinkedCode.ofTerm (sharedConditional.term 5)).length < 2 ^ 31 ∧
      Program.ofLinked? (SymbolTable.assignSlots ⟨[.identifier "x" 1]⟩)
          ((LinkedCode.ofTerm (sharedConditional.term 5)).number 1) =
        .ok ⟨[.push 0, .push 0, .equal, .push 0, .boolEqual, .jumpIfFalse 10, .push 0, .push 0,
          .equal, .jumpIfFalse 4, .push 0, .print, .nop, .jump 5, .nop, .push 0, .print, .nop],
          [.unknown]⟩ := by
  have short : (LinkedCode.ofTerm (sharedConditional.term 5)).length < 2 ^ 31 := by decide +kernel
  have known : ∀ id node symbol, sharedConditional.Under 5 id →
      sharedConditional.get? id = some node → node.form.symbol? = some symbol → symbol < 1 := by
    intro id node symbol _ found named
    have all : ∀ node ∈ sharedConditional.nodes, ∀ symbol ∈ node.form.symbol?, symbol < 1 := by
      decide
    exact all node (Array.mem_of_getElem? found) symbol named
  refine ⟨built_sharedConditional, by decide, short, ?_⟩
  rw [(ofLinked?_eq_code built_sharedConditional (by decide) known short).1]
  decide +kernel

end Tree

end StackScript
