import Mathlib.Data.List.Nodup
import StackScript.Proofs.Machine.Instructions

/-!
# Who owns which cell

Each value of the stack that names a cell owns it. An instruction drops the owners on top of the
stack and may free what they owned, and it may add owners of new cells; below, nothing changes, and
no other cell comes into use or goes out of it.
-/

namespace StackScript.Machine

/-- The cells that the values of a stack name, those of the top first. -/
def stackCells (stack : List Value) : List Nat :=
  stack.flatMap Value.cells

@[simp] theorem stackCells_nil : stackCells [] = [] := rfl

@[simp] theorem stackCells_cons (value : Value) (rest : List Value) :
    stackCells (value :: rest) = value.cells ++ stackCells rest :=
  List.flatMap_cons

theorem datum?_isSome_iff {pool : Pool} {value : Value} :
    (datum? pool value).isSome ↔ ∀ index ∈ value.cells, (pool.get? index).isSome := by
  cases value with
  | cell index => simp [datum?, Value.cells]
  | bool value => simp [datum?, Value.cells]

/-- The cell of a value that stands for something is in use. -/
theorem isSome_of_datum? {pool : Pool} {value : Value} {datum : Datum}
    (found : datum? pool value = some datum) {index : Nat} (named : index ∈ value.cells) :
    (pool.get? index).isSome :=
  datum?_isSome_iff.1 (Option.isSome_of_eq_some found) index named

/-- What a value that stands for something holds is never free. -/
theorem isFree_stored {pool : Pool} {value : Value} {datum : Datum}
    (found : datum? pool value = some datum) : datum.stored.isFree = false := by
  cases value with
  | bool value =>
      cases found
      rfl
  | cell index =>
      obtain ⟨content, there, rfl⟩ := Option.map_eq_some_iff.1 found
      exact Pool.isFree_of_get?_eq_some there

/-- A change of owners on top of the stack, and of the cells in use with them. -/
structure Owners (state next : State) (dropped freed added kept : List Nat) : Prop where
  before : stackCells state.stack = dropped ++ kept
  after : stackCells next.stack = added ++ kept
  subset : freed ⊆ dropped
  distinct : added.Nodup
  fresh : ∀ index ∈ added, state.pool.get? index = none
  active : ∀ index, (next.pool.get? index).isSome ↔
    index ∈ added ∨ (state.pool.get? index).isSome ∧ index ∉ freed
  size : state.pool.size ≤ next.pool.size

section Rules

variable {state next : State}

/-- Only the cells that the stack names and the pool count. -/
theorem Owners.congr {other : State} {dropped freed added kept : List Nat}
    (owners : Owners state next dropped freed added kept)
    (cells : stackCells other.stack = stackCells next.stack) (pool : other.pool = next.pool) :
    Owners state other dropped freed added kept where
  before := owners.before
  after := cells.trans owners.after
  subset := owners.subset
  distinct := owners.distinct
  fresh := owners.fresh
  active := pool ▸ owners.active
  size := pool ▸ owners.size

/-- Freeing cells of values that are taken off. -/
theorem owners_freeing {dropped freed : List Nat} {stack : List Value}
    (before : stackCells state.stack = dropped ++ stackCells stack) (subset : freed ⊆ dropped) :
    Owners state (state.freeing freed stack) dropped freed [] (stackCells stack) where
  before := before
  after := rfl
  subset := subset
  distinct := List.nodup_nil
  fresh := by simp
  active index := by
    simp only [State.freeing, Pool.get?_foldl_release]
    by_cases freed : index ∈ freed <;> simp [freed]
  size := by simp [State.freeing]

/-- Taking a new cell, and freeing cells of values that are taken off and were in use. -/
theorem owners_placing {content : Cell} {dropped freed : List Nat} {stack : List Value}
    (kept : content.isFree = false)
    (before : stackCells state.stack = dropped ++ stackCells stack) (subset : freed ⊆ dropped)
    (used : ∀ index ∈ freed, (state.pool.get? index).isSome) :
    Owners state (state.placing content freed stack) dropped freed
      [(state.pool.allocate content).2] (stackCells stack) where
  before := before
  after := rfl
  subset := subset
  distinct := List.nodup_singleton _
  fresh index added := by
    rw [List.mem_singleton] at added
    rw [added]
    exact Pool.get?_allocate_fresh state.pool content
  active index := by
    simp only [State.placing, Pool.get?_foldl_release, Pool.get?_allocate kept,
      List.mem_singleton]
    by_cases new : index = (state.pool.allocate content).2
    · have unused : index ∉ freed := by
        intro freed
        have active := used index freed
        rw [new, Pool.get?_allocate_fresh] at active
        contradiction
      simp [new, new ▸ unused]
    · by_cases freed : index ∈ freed <;> simp [new, freed]
  size := by
    simp only [State.placing, Pool.size_foldl_release]
    exact Pool.size_le_allocate state.pool content

/-- Storing in a cell in use changes no owners. -/
theorem owners_set {slot : Nat} {content : Cell} (kept : content.isFree = false)
    (active : (state.pool.get? slot).isSome) (same : next.stack = state.stack)
    (stored : next.pool = state.pool.set slot content) :
    Owners state next [] [] [] (stackCells state.stack) where
  before := rfl
  after := by rw [same, List.nil_append]
  subset := List.Subset.refl []
  distinct := List.nodup_nil
  fresh := by simp
  active index := by
    rw [stored, Pool.get?_set kept]
    by_cases here : index = slot ∧ slot < state.pool.size
    · simp [here.1, here.2, active]
    · simp [here]
  size := Nat.le_of_eq (by rw [stored, Pool.size_set])

theorem owners_refl (state : State) : Owners state state [] [] [] (stackCells state.stack) where
  before := rfl
  after := rfl
  subset := List.Subset.refl []
  distinct := List.nodup_nil
  fresh := by simp
  active := by simp
  size := Nat.le_refl _

end Rules

/-- An instruction enlarges the pool only if all cells are in use. -/
theorem Executes.size_pool_cases {state next : State} {instruction : Instruction} {distance : Int}
    (rule : Executes state instruction distance next) :
    next.pool.size = state.pool.size ∨
      next.pool.size = state.pool.size + 1 ∧
        ∀ index < state.pool.size, (state.pool.get? index).isSome := by
  cases rule with
  | push | add | boolToString | integerToString | stringToInteger =>
      simp only [State.placing, Pool.size_foldl_release]
      exact Pool.size_allocate_cases _ _
  | getTop | input => exact .inl (Pool.size_set _ _ _)
  | _ => exact .inl (by simp [State.freeing])

/-- An instruction takes one more cell at most. -/
theorem Executes.size_pool {state next : State} {instruction : Instruction} {distance : Int}
    (rule : Executes state instruction distance next) : next.pool.size ≤ state.pool.size + 1 := by
  rcases rule.size_pool_cases with same | ⟨more, -⟩ <;> omega

/-- The cells of the values that an instruction takes off a stack and does not free: those of two
values that are compared. -/
def abandons : Instruction → List Value → List Nat
  | .boolEqual, right :: left :: _ => right.cells ++ left.cells
  | _, _ => []

/-- Every instruction changes owners on top of the stack only, and it frees what the values that it
takes off own, unless it compares two of them. -/
theorem Executes.owners {state next : State} {instruction : Instruction} {distance : Int}
    (rule : Executes state instruction distance next) :
    ∃ freed added kept,
      Owners state next (abandons instruction state.stack ++ freed) freed added kept := by
  cases rule with
  | nop | jump => exact ⟨_, _, _, owners_refl state⟩
  | push found =>
      have kept := Pool.isFree_of_get?_eq_some found
      exact ⟨_, _, _,
        owners_placing kept (List.nil_append _).symm (List.Subset.refl []) (by simp)⟩
  | getTop shape found active =>
      exact ⟨_, _, _, owners_set (isFree_stored found) active rfl rfl⟩
  | @discard value rest shape =>
      have before : stackCells state.stack = value.cells ++ stackCells rest := by
        rw [shape, stackCells_cons]
      exact ⟨_, _, _, owners_freeing before (List.Subset.refl _)⟩
  | @print value rest datum output shape found written =>
      have before : stackCells state.stack = value.cells ++ stackCells rest := by
        rw [shape, stackCells_cons]
      exact ⟨_, _, _, (owners_freeing before (List.Subset.refl _)).congr rfl rfl⟩
  | input flushed read active => exact ⟨_, _, _, owners_set rfl active rfl rfl⟩
  | @jumpIfFalse offset value rest shape =>
      have before : stackCells state.stack = (Value.bool value).cells ++ stackCells rest := by
        rw [shape, stackCells_cons]
      exact ⟨_, _, _, owners_freeing before (List.nil_subset _)⟩
  | @equal right left rest rightContent leftContent shape rightFound leftFound =>
      have before : stackCells state.stack = [right, left] ++ stackCells rest := by
        rw [shape, stackCells_cons, stackCells_cons, ← List.append_assoc]
        rfl
      exact ⟨_, _, _, (owners_freeing before (List.Subset.refl _)).congr rfl rfl⟩
  | @boolEqual right left rest shape =>
      have before : stackCells state.stack =
          (abandons .boolEqual state.stack ++ []) ++ stackCells rest := by
        rw [shape, stackCells_cons, stackCells_cons, abandons, List.append_nil, List.append_assoc]
      exact ⟨_, _, _, (owners_freeing before (List.nil_subset _)).congr rfl rfl⟩
  | @add right left rest rightContent leftContent shape rightFound leftFound =>
      have kept : (leftContent.add rightContent).isFree = false :=
        Cell.isFree_add (Pool.isFree_of_get?_eq_some leftFound) rightContent
      have before : stackCells state.stack = [right, left] ++ stackCells rest := by
        rw [shape, stackCells_cons, stackCells_cons, ← List.append_assoc]
        rfl
      refine ⟨_, _, _, owners_placing kept before (List.Subset.refl _) ?_⟩
      simp [rightFound, leftFound]
  | @boolToString value rest shape =>
      have before : stackCells state.stack = (Value.bool value).cells ++ stackCells rest := by
        rw [shape, stackCells_cons]
      exact ⟨_, _, _, owners_placing rfl before (List.nil_subset _) (by simp)⟩
  | integerToString shape found =>
      refine ⟨_, _, _, owners_placing rfl ?_ (List.Subset.refl _) (by simp [found])⟩
      rw [shape, stackCells_cons]
      rfl
  | @stringToInteger value rest datum shape found =>
      have before : stackCells state.stack = value.cells ++ stackCells rest := by
        rw [shape, stackCells_cons]
      exact ⟨_, _, _, owners_placing rfl before (List.Subset.refl _)
        fun index named => isSome_of_datum? found named⟩

/-! ## Invariants -/

/-- The cells that the stack names are distinct and in use. -/
structure Owned (state : State) : Prop where
  distinct : (stackCells state.stack).Nodup
  active : ∀ index ∈ stackCells state.stack, (state.pool.get? index).isSome

/-- The first cells are in use, and the stack names none of them. -/
structure Rooted (slots : Nat) (state : State) : Prop where
  active : ∀ slot < slots, (state.pool.get? slot).isSome
  apart : ∀ index ∈ stackCells state.stack, slots ≤ index

section Invariants

variable {state next : State} {dropped freed added kept : List Nat}

/-- What an instruction takes off the stack is in use. -/
theorem Owned.isSome_of_mem_take (owned : Owned state) {index count : Nat}
    (held : .cell index ∈ state.stack.take count) : (state.pool.get? index).isSome :=
  owned.active index
    (List.mem_flatMap.2 ⟨.cell index, List.mem_of_mem_take held, List.mem_singleton_self index⟩)

theorem Owners.owned (owners : Owners state next dropped freed added kept) (owned : Owned state) :
    Owned next := by
  have distinct : (dropped ++ kept).Nodup := owners.before ▸ owned.distinct
  have remains : ∀ index ∈ kept, (state.pool.get? index).isSome ∧ index ∉ freed := by
    intro index below
    refine ⟨owned.active index (owners.before ▸ List.mem_append_right dropped below), ?_⟩
    intro freed
    exact List.disjoint_of_nodup_append distinct (owners.subset freed) below
  constructor
  · rw [owners.after]
    refine List.Nodup.append owners.distinct (List.Nodup.of_append_right distinct) ?_
    intro index new below
    have inactive := owners.fresh index new
    have active := (remains index below).1
    rw [inactive] at active
    contradiction
  · intro index named
    rw [owners.after] at named
    rw [owners.active]
    exact (List.mem_append.1 named).imp id (remains index)

theorem Owners.rooted (owners : Owners state next dropped freed added kept) {slots : Nat}
    (rooted : Rooted slots state) : Rooted slots next := by
  have above : ∀ index ∈ dropped ++ kept, slots ≤ index := owners.before ▸ rooted.apart
  constructor
  · intro slot inside
    rw [owners.active]
    refine .inr ⟨rooted.active slot inside, fun freed => ?_⟩
    have outside := above slot (List.mem_append_left kept (owners.subset freed))
    exact absurd inside (Nat.not_lt_of_le outside)
  · intro index named
    rw [owners.after] at named
    rcases List.mem_append.1 named with new | below
    · by_contra inside
      have active := rooted.active index (Nat.lt_of_not_le inside)
      rw [owners.fresh index new] at active
      contradiction
    · exact above index (List.mem_append_right dropped below)

end Invariants

/-! ## Loaded programs -/

section Loaded

variable {program : Program}

/-- A cell of a program in which no cell is free is found as soon as the program is loaded. -/
theorem get?_loaded (full : ∀ cell ∈ program.cells, cell.isFree = false) {slot : Nat}
    (inside : slot < program.cells.length) :
    Pool.get? ⟨program.cells⟩ slot = some program.cells[slot] :=
  Pool.get?_eq_some_iff.2 ⟨List.getElem?_eq_getElem inside, full _ (List.getElem_mem inside)⟩

theorem owned_loaded (program : Program) (input : InputStream) (output : OutputStream) :
    Owned (.loaded program input output) :=
  ⟨List.nodup_nil, fun _ named => absurd named List.not_mem_nil⟩

theorem rooted_loaded (full : ∀ cell ∈ program.cells, cell.isFree = false) (input : InputStream)
    (output : OutputStream) : Rooted program.cells.length (.loaded program input output) where
  active _ inside := Option.isSome_of_eq_some (get?_loaded full inside)
  apart _ named := absurd named List.not_mem_nil

end Loaded

end StackScript.Machine
