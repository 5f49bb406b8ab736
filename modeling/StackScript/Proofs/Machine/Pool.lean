import Mathlib.Tactic.ByContra
import StackScript.Machine.Pool

/-!
# The cells in use

A pool is seen through `Pool.get?`, which finds the cells in use. Each operation changes what is
found at one index only: taking a cell puts a value where nothing was in use, storing replaces a
value, and freeing removes it. Sizes never shrink.
-/

namespace StackScript

theorem Cell.isFree_eq_true_iff {cell : Cell} : cell.isFree = true ↔ cell = .free := by
  cases cell <;> simp [isFree]

namespace Pool

/-- A cell is found exactly if it is there and not free. -/
theorem get?_eq_some_iff {pool : Pool} {index : Nat} {content : Cell} :
    pool.get? index = some content ↔
      pool.cells[index]? = some content ∧ content.isFree = false := by
  simp [get?, Option.filter_eq_some_iff]

/-- The index of a cell in use is within the pool. -/
theorem lt_size_of_isSome {pool : Pool} {index : Nat} (active : (pool.get? index).isSome) :
    index < pool.size := by
  obtain ⟨content, found⟩ := Option.isSome_iff_exists.1 active
  have there := (get?_eq_some_iff.1 found).1
  exact (List.getElem?_eq_some_iff.1 there).1

/-- Within the pool, a cell that is not in use is free. -/
theorem getElem?_eq_free {pool : Pool} {index : Nat} (inside : index < pool.size)
    (inactive : pool.get? index = none) : pool.cells[index]? = some .free := by
  have there : pool.cells[index]? = some pool.cells[index] := List.getElem?_eq_getElem inside
  have free : pool.cells[index].isFree = true := by
    by_contra kept
    have found : pool.get? index = some pool.cells[index] :=
      get?_eq_some_iff.2 ⟨there, by simpa using kept⟩
    simp [inactive] at found
  rw [there, Cell.isFree_eq_true_iff.1 free]

/-- Storing a value makes it what is found at its index, if the pool has a cell there. -/
theorem get?_set {pool : Pool} {content : Cell} (kept : content.isFree = false) (slot index : Nat) :
    (pool.set slot content).get? index =
      if index = slot ∧ slot < pool.size then some content else pool.get? index := by
  by_cases same : index = slot
  · subst same
    by_cases inside : index < pool.size
    · rw [if_pos ⟨rfl, inside⟩]
      refine get?_eq_some_iff.2 ⟨?_, kept⟩
      rw [set, List.getElem?_set_self inside]
    · rw [if_neg (fun both => inside both.2)]
      rw [get?_eq_none_of_size_le (by simpa using inside),
        get?_eq_none_of_size_le (by simpa using inside)]
  · rw [if_neg (fun both => same both.1)]
    simp only [get?, set]
    rw [List.getElem?_set_ne (Ne.symm same)]

/-- Freeing a cell leaves nothing at its index. -/
theorem get?_release (pool : Pool) (freed index : Nat) :
    (pool.release freed).get? index = if index = freed then none else pool.get? index := by
  by_cases same : index = freed
  · subst same
    rw [if_pos rfl, Option.eq_none_iff_forall_not_mem]
    intro content found
    obtain ⟨there, kept⟩ := get?_eq_some_iff.1 found
    have inside : index < pool.cells.length := by
      simpa [release, set] using (List.getElem?_eq_some_iff.1 there).1
    rw [release, set, List.getElem?_set_self inside, Option.some.injEq] at there
    rw [← there] at kept
    simp [Cell.isFree] at kept
  · rw [if_neg same]
    simp only [get?, release, set]
    rw [List.getElem?_set_ne (Ne.symm same)]

/-- Freeing several cells leaves nothing at their indices. -/
theorem get?_foldl_release (pool : Pool) (freed : List Nat) (index : Nat) :
    (freed.foldl release pool).get? index = if index ∈ freed then none else pool.get? index := by
  induction freed generalizing pool with
  | nil => simp
  | cons first freed induction =>
      rw [List.foldl_cons, induction, get?_release]
      by_cases here : index = first
      · simp [here]
      · simp [here]

@[simp] theorem size_foldl_release (pool : Pool) (freed : List Nat) :
    (freed.foldl release pool).size = pool.size := by
  induction freed generalizing pool with
  | nil => rfl
  | cons first freed induction => rw [List.foldl_cons, induction, size_release]

/-- A new value goes to a cell that is not in use. -/
theorem get?_allocate_fresh (pool : Pool) (content : Cell) :
    pool.get? (pool.allocate content).2 = none := by
  unfold allocate
  split
  next index first =>
    obtain ⟨inside, free, -⟩ := List.findIdx?_eq_some_iff_getElem.1 first
    rw [Option.eq_none_iff_forall_not_mem]
    intro found member
    obtain ⟨there, kept⟩ := get?_eq_some_iff.1 member
    rw [List.getElem?_eq_getElem inside, Option.some.injEq] at there
    rw [there, kept] at free
    contradiction
  next => exact get?_eq_none_of_size_le (Nat.le_refl _)

/-- Taking a cell for a value puts the value there and leaves the other cells as they were. -/
theorem get?_allocate {pool : Pool} {content : Cell} (kept : content.isFree = false) (index : Nat) :
    (pool.allocate content).1.get? index =
      if index = (pool.allocate content).2 then some content else pool.get? index := by
  unfold allocate
  split
  next slot first =>
    obtain ⟨inside, -⟩ := List.findIdx?_eq_some_iff_getElem.1 first
    rw [get?_set kept]
    simp [size, inside]
  next =>
    by_cases same : index = pool.size
    · rw [if_pos same]
      refine get?_eq_some_iff.2 ⟨?_, kept⟩
      simp [same, size]
    · rw [if_neg same]
      simp only [get?]
      rcases Nat.lt_or_ge index pool.size with inside | outside
      · rw [List.getElem?_append_left inside]
      · have beyond : (pool.cells ++ [content]).length ≤ index := by
          rw [List.length_append, List.length_singleton]
          exact Nat.lt_of_le_of_ne outside (Ne.symm same)
        rw [List.getElem?_eq_none beyond, List.getElem?_eq_none outside]

/-- Taking a cell enlarges the pool only if all cells are in use. -/
theorem size_allocate_cases (pool : Pool) (content : Cell) :
    (pool.allocate content).1.size = pool.size ∨
      (pool.allocate content).1.size = pool.size + 1 ∧
        ∀ index < pool.size, (pool.get? index).isSome := by
  unfold allocate
  split
  next => exact .inl (size_set _ _ _)
  next none =>
    refine .inr ⟨by simp [size], fun index inside => ?_⟩
    have there : pool.cells[index]? = some pool.cells[index] := List.getElem?_eq_getElem inside
    have kept : pool.cells[index].isFree = false :=
      List.findIdx?_eq_none_iff.1 none _ (List.getElem_mem inside)
    exact Option.isSome_of_eq_some (get?_eq_some_iff.2 ⟨there, kept⟩)

/-- Taking a cell never makes the pool smaller. -/
theorem size_le_allocate (pool : Pool) (content : Cell) :
    pool.size ≤ (pool.allocate content).1.size := by
  rcases pool.size_allocate_cases content with same | ⟨more, -⟩
  · exact Nat.le_of_eq same.symm
  · exact Nat.le_of_lt (Nat.lt_of_lt_of_eq (Nat.lt_succ_self _) more.symm)

end Pool

end StackScript
