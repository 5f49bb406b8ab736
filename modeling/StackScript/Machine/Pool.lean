import StackScript.Cell

/-!
# Cell pools

The memory of the machine is a row of cells. A new value goes to the first free cell, and the row
grows by one cell only when none is free.
-/

namespace StackScript

/-- The memory of the machine. -/
structure Pool where
  /-- The cells by their index. -/
  cells : List Cell
deriving DecidableEq, Repr

namespace Pool

/-- The memory without cells. -/
def empty : Pool := ⟨[]⟩

/-- The number of cells. -/
def size (pool : Pool) : Nat :=
  pool.cells.length

/-- The cell of an index, if it is in use. -/
def get? (pool : Pool) (index : Nat) : Option Cell :=
  pool.cells[index]?.filter fun cell => !cell.isFree

/-- The memory with a cell replaced, if there is one of that index. -/
def set (pool : Pool) (index : Nat) (cell : Cell) : Pool :=
  ⟨pool.cells.set index cell⟩

/-- The memory with a cell freed. -/
def release (pool : Pool) (index : Nat) : Pool :=
  pool.set index .free

/-- The memory with a new value in it, and the index of the value's cell. -/
def allocate (pool : Pool) (cell : Cell) : Pool × Nat :=
  match pool.cells.findIdx? Cell.isFree with
  | some index => (pool.set index cell, index)
  | none => (⟨pool.cells ++ [cell]⟩, pool.size)

/-- The number of cells in use. -/
def active (pool : Pool) : Nat :=
  pool.cells.countP fun cell => !cell.isFree

@[simp] theorem size_set (pool : Pool) (index : Nat) (cell : Cell) :
    (pool.set index cell).size = pool.size := by
  simp [set, size]

@[simp] theorem size_release (pool : Pool) (index : Nat) :
    (pool.release index).size = pool.size :=
  size_set pool index .free

/-- No cell is in use behind the last one. -/
theorem get?_eq_none_of_size_le {pool : Pool} {index : Nat} (outside : pool.size ≤ index) :
    pool.get? index = none := by
  have missing : pool.cells[index]? = none := List.getElem?_eq_none outside
  simp [get?, missing]

/-- A cell in use is not free. -/
theorem isFree_of_get?_eq_some {pool : Pool} {index : Nat} {cell : Cell}
    (found : pool.get? index = some cell) : cell.isFree = false := by
  have kept := (Option.filter_eq_some_iff.1 found).2
  simpa using kept

end Pool

end StackScript
