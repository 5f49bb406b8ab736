import StackScript.Proofs.Machine.Pool

/-!
# First fit

A pool takes any sequence of changes: values are put into cells that it finds, cells are freed,
whether they are there or not, and cells are overwritten. Each value goes to the first free cell, or
behind the last one if none is free, and no other cell is touched. So the pool is never larger than
it had to be: its size is what it was at first or the largest number of cells ever in use, whichever
is more.
-/

namespace StackScript.Pool

/-- A change of a pool. What is put into a cell is not itself a free cell. -/
inductive Change where
  /-- Put a value into a cell that is not in use. -/
  | allocate (content : Cell) (kept : content.isFree = false)
  /-- Free a cell, if there is one of that index. -/
  | release (index : Nat)
  /-- Overwrite a cell, free or in use, if there is one of that index. -/
  | set (index : Nat) (content : Cell) (kept : content.isFree = false)

/-- A pool with a change made to it. -/
def Change.apply : Change → Pool → Pool
  | allocate content _, pool => (pool.allocate content).1
  | release index, pool => pool.release index
  | set index content _, pool => pool.set index content

/-- A pool after some changes, made in their order. -/
def after (pool : Pool) : List Change → Pool
  | [] => pool
  | change :: later => (change.apply pool).after later

/-- The largest number of cells in use, before the first change and after each of them. -/
def peak (pool : Pool) : List Change → Nat
  | [] => pool.active
  | change :: later => max pool.active ((change.apply pool).peak later)

/-- A value goes to the first free cell of a pool, or behind the last cell if none is free. Only
that cell comes into use, with the value, and all other cells are as they were. -/
structure FirstFit (pool : Pool) (content : Cell) (index : Nat) (next : Pool) : Prop where
  fresh : pool.get? index = none
  first :
    pool.cells[index]? = some .free ∧
        (∀ lower < index, pool.cells[lower]? ≠ some .free) ∨
      index = pool.size ∧ .free ∉ pool.cells
  stored : next.get? index = some content
  inUse : ∀ other, (next.get? other).isSome ↔ other = index ∨ (pool.get? other).isSome
  others : ∀ other, other ≠ index → next.cells[other]? = pool.cells[other]?

/-! ## Cells in use -/

theorem active_le_size (pool : Pool) : pool.active ≤ pool.size :=
  List.countP_le_length

/-- All cells of a pool are in use if none of them is free. -/
theorem active_eq_size {pool : Pool} (full : ∀ index < pool.size, (pool.get? index).isSome) :
    pool.active = pool.size := by
  refine List.countP_eq_length.2 fun content member => ?_
  obtain ⟨index, inside, rfl⟩ := List.mem_iff_getElem.1 member
  obtain ⟨content, found⟩ := Option.isSome_iff_exists.1 (full index inside)
  obtain ⟨there, kept⟩ := get?_eq_some_iff.1 found
  rw [List.getElem?_eq_getElem inside, Option.some.injEq] at there
  rw [there, kept, Bool.not_false]

/-! ## Allocation -/

section Allocation

variable {pool : Pool} {content : Cell}

/-- One more cell is in use after an allocation. -/
theorem active_allocate (kept : content.isFree = false) :
    (pool.allocate content).1.active = pool.active + 1 := by
  unfold allocate
  split
  next index first =>
    obtain ⟨inside, free, -⟩ := List.findIdx?_eq_some_iff_getElem.1 first
    rw [set, active, List.countP_set inside]
    simp [active, free, kept]
  next => simp [active, kept]

/-- A value is put where the first free cell is, or behind the last cell. -/
theorem index_allocate_cases (pool : Pool) (content : Cell) :
    pool.cells[(pool.allocate content).2]? = some .free ∧
        (∀ lower < (pool.allocate content).2, pool.cells[lower]? ≠ some .free) ∨
      (pool.allocate content).2 = pool.size ∧ .free ∉ pool.cells := by
  unfold allocate
  split
  next index first =>
    obtain ⟨inside, free, earlier⟩ := List.findIdx?_eq_some_iff_getElem.1 first
    refine .inl ⟨?_, fun lower below there => ?_⟩
    · rw [List.getElem?_eq_getElem inside, Cell.isFree_eq_true_iff.1 free]
    · obtain ⟨_, lowerFree⟩ := List.getElem?_eq_some_iff.1 there
      exact earlier lower below (Cell.isFree_eq_true_iff.2 lowerFree)
  next none =>
    refine .inr ⟨rfl, fun member => ?_⟩
    have used := List.findIdx?_eq_none_iff.1 none _ member
    contradiction

/-- An allocation writes to one cell. -/
theorem getElem?_allocate_of_ne {other : Nat} (ne : other ≠ (pool.allocate content).2) :
    (pool.allocate content).1.cells[other]? = pool.cells[other]? := by
  unfold allocate at ne ⊢
  split at ne
  next => exact List.getElem?_set_ne (Ne.symm ne)
  next =>
    rcases Nat.lt_or_ge other pool.size with inside | outside
    · exact List.getElem?_append_left inside
    · have beyond : pool.size < other := Nat.lt_of_le_of_ne outside (Ne.symm ne)
      rw [List.getElem?_eq_none outside, List.getElem?_eq_none]
      rw [List.length_append, List.length_singleton]
      exact beyond

theorem firstFit_allocate (kept : content.isFree = false) :
    FirstFit pool content (pool.allocate content).2 (pool.allocate content).1 where
  fresh := get?_allocate_fresh pool content
  first := index_allocate_cases pool content
  stored := by rw [get?_allocate kept, if_pos rfl]
  inUse other := by
    rw [get?_allocate kept]
    by_cases same : other = (pool.allocate content).2 <;> simp [same]
  others _ ne := getElem?_allocate_of_ne ne

end Allocation

/-! ## Sequences of changes -/

/-- A change leaves a pool as large as it was, or as many cells as are in use then. -/
theorem size_apply (change : Change) (pool : Pool) :
    (change.apply pool).size = max pool.size (change.apply pool).active := by
  have fits := (change.apply pool).active_le_size
  have same (equal : (change.apply pool).size = pool.size) :
      (change.apply pool).size = max pool.size (change.apply pool).active := by
    rw [equal] at fits ⊢
    exact (Nat.max_eq_left fits).symm
  cases change with
  | release index => exact same (size_release pool index)
  | set index content kept => exact same (size_set pool index content)
  | allocate content kept =>
      rcases pool.size_allocate_cases content with equal | ⟨more, full⟩
      · exact same equal
      · have grown : (pool.allocate content).1.active = pool.size + 1 := by
          rw [active_allocate kept, active_eq_size full]
        simp only [Change.apply, more, grown]
        omega

theorem active_le_peak (pool : Pool) (changes : List Change) : pool.active ≤ pool.peak changes := by
  cases changes with
  | nil => exact Nat.le_refl _
  | cons change later => exact Nat.le_max_left _ _

/-- After any changes, the size of a pool is its first size or the peak. -/
theorem size_after (pool : Pool) (changes : List Change) :
    (pool.after changes).size = max pool.size (pool.peak changes) := by
  -- The cells in use at first are within the first size, and those after the change within the peak
  -- of what follows, so that neither is lost when the two maxima are put together.
  induction changes generalizing pool with
  | nil => exact (Nat.max_eq_left pool.active_le_size).symm
  | cons change later induction =>
      have step := size_apply change pool
      have fits := pool.active_le_size
      have behind := (change.apply pool).active_le_peak later
      calc
        (pool.after (change :: later)).size
            = max (change.apply pool).size ((change.apply pool).peak later) := induction _
        _ = max pool.size (max pool.active ((change.apply pool).peak later)) := by omega

theorem after_append (pool : Pool) (earlier later : List Change) :
    pool.after (earlier ++ later) = (pool.after earlier).after later := by
  induction earlier generalizing pool with
  | nil => rfl
  | cons change earlier induction => exact induction (change.apply pool)

/-- In any sequence of changes to any pool, each allocation puts its value into the first free cell
or behind the last one, and changes nothing else; and at any point of the sequence, the size of the
pool is its first size or the largest number of cells in use so far, whichever is more. -/
theorem fits_first_and_grows_at_peak (cells : List Cell) (changes : List Change) (n : Nat) :
    (∀ content kept, changes[n]? = some (.allocate content kept) →
      FirstFit (after ⟨cells⟩ (changes.take n)) content
        ((after ⟨cells⟩ (changes.take n)).allocate content).2
        (after ⟨cells⟩ (changes.take (n + 1)))) ∧
    (after ⟨cells⟩ (changes.take n)).size =
      max cells.length (peak ⟨cells⟩ (changes.take n)) := by
  refine ⟨fun content kept next => ?_, size_after ⟨cells⟩ (changes.take n)⟩
  rw [List.take_add_one, next, after_append]
  exact firstFit_allocate kept

/-- Changes that free cells twice or where there are none, overwrite a free cell, reuse a cell, and
fill the pool twice. -/
def interleaved : List Change :=
  [.release 7, .set 1 (.string "a") rfl, .allocate (.integer 5) rfl, .release 0, .release 0,
    .allocate .unknown rfl, .allocate (.string "b") rfl, .release 2]

theorem fits_first_and_grows_at_peak_interleaved :
    interleaved[5]? = some (.allocate .unknown rfl) ∧
      FirstFit ⟨[.free, .string "a", .integer 5]⟩ .unknown 0
        ⟨[.unknown, .string "a", .integer 5]⟩ ∧
      (after ⟨[.integer 3, .free]⟩ interleaved).size = 4 ∧
      (after ⟨[.integer 3, .free]⟩ interleaved).active = 3 := by
  have reused := fits_first_and_grows_at_peak [.integer 3, .free] interleaved 5
  have ended := fits_first_and_grows_at_peak [.integer 3, .free] interleaved 8
  exact ⟨rfl, reused.1 _ _ rfl, ended.2, rfl⟩

end StackScript.Pool
