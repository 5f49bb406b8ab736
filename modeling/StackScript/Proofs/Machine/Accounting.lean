import Mathlib.Data.List.FinRange
import StackScript.Proofs.Machine.Safety

/-!
# Accounting for cells

Between two instructions, a cell is in use because it is one of the program's own, because a value
of the stack owns it, or because a comparison of two values has taken its owner off the stack
without freeing it. No cell is in use for two of these reasons, so the cells in use can be counted.
-/

namespace StackScript

/-- The cells in use are as many as the entries of a list that names each of them once. -/
theorem Pool.active_eq_length {pool : Pool} {indices : List Nat} (distinct : indices.Nodup)
    (all : ∀ index, index ∈ indices ↔ (pool.get? index).isSome) :
    pool.active = indices.length := by
  let used := (List.finRange pool.cells.length).filter fun slot => !pool.cells[slot].isFree
  have count : pool.active = (used.map Fin.val).length := by
    rw [List.length_map, ← List.countP_eq_length_filter, active]
    conv_lhs => rw [← List.map_get_finRange pool.cells, List.countP_map]
    rfl
  have listed : (used.map Fin.val).Nodup :=
    ((List.nodup_finRange _).filter _).map Fin.val_injective
  rw [count]
  refine ((List.perm_ext_iff_of_nodup listed distinct).2 fun index => ?_).length_eq
  rw [all, Option.isSome_iff_exists]
  constructor
  · intro member
    obtain ⟨slot, kept, rfl⟩ := List.mem_map.1 member
    have busy : pool.cells[slot.val].isFree = false := by
      simpa using (List.mem_filter.1 kept).2
    exact ⟨_, get?_eq_some_iff.2 ⟨List.getElem?_eq_getElem slot.isLt, busy⟩⟩
  · rintro ⟨content, found⟩
    obtain ⟨there, kept⟩ := get?_eq_some_iff.1 found
    obtain ⟨inside, rfl⟩ := List.getElem?_eq_some_iff.1 there
    refine List.mem_map.2 ⟨⟨index, inside⟩, List.mem_filter.2 ⟨List.mem_finRange _, ?_⟩, rfl⟩
    simpa using kept

namespace Machine

variable {limits : Limits} {code : List Instruction} {start config next : Config}
variable {lost : List Nat} {slots : Nat}

/-- Some turns lead from one configuration to another, and these are the cells that the
instructions on the way abandon. -/
inductive Loses (limits : Limits) (code : List Instruction) (start : Config) :
    Config → List Nat → Prop
  | refl : Loses limits code start start []
  | tail {config next : Config} {lost : List Nat} (earlier : Loses limits code start config lost)
      (turn : Turn limits code config next) :
      Loses limits code start next (config.abandons code ++ lost)

theorem Loses.reaches (loses : Loses limits code start config lost) :
    Reaches limits code start config := by
  induction loses with
  | refl => exact .refl
  | tail _ turn induction => exact induction.tail turn

theorem Reaches.loses (reach : Reaches limits code start config) :
    ∃ lost, Loses limits code start config lost := by
  induction reach with
  | refl => exact ⟨[], .refl⟩
  | tail _ turn induction =>
      obtain ⟨lost, earlier⟩ := induction
      exact ⟨_, earlier.tail turn⟩

/-- The cells that a state accounts for: the first ones, those that the stack names, and lost
ones. -/
def State.accounts (state : State) (slots : Nat) (lost : List Nat) : List Nat :=
  List.range slots ++ (stackCells state.stack ++ lost)

/-- The cells in use are those accounted for, and each of them for one reason only. -/
structure Accounted (slots : Nat) (state : State) (lost : List Nat) : Prop where
  distinct : (state.accounts slots lost).Nodup
  all : ∀ index, index ∈ state.accounts slots lost ↔ (state.pool.get? index).isSome

theorem Accounted.active_eq {state : State} (accounted : Accounted slots state lost) :
    state.pool.active = slots + (stackCells state.stack).length + lost.length := by
  rw [Pool.active_eq_length accounted.distinct accounted.all, State.accounts, List.length_append,
    List.length_append, List.length_range, Nat.add_assoc]

theorem Accounted.isSome_iff {state : State} (accounted : Accounted slots state lost)
    (index : Nat) : (state.pool.get? index).isSome ↔
      index < slots ∨ index ∈ stackCells state.stack ∨ index ∈ lost := by
  rw [← accounted.all, State.accounts, List.mem_append, List.mem_append, List.mem_range]

theorem Accounted.owned {state : State} (accounted : Accounted slots state lost) : Owned state where
  distinct := accounted.distinct.of_append_right.of_append_left
  active index named := (accounted.isSome_iff index).2 (.inr (.inl named))

/-- Where some cells are freed and others added, those that stay are still accounted for. -/
theorem Owners.accounted_of_perm {state after : State} {dropped freed added kept later : List Nat}
    (owners : Owners state after dropped freed added kept)
    (accounted : Accounted slots state lost) (stays : List Nat)
    (before : (state.accounts slots lost).Perm (freed ++ stays))
    (behind : (after.accounts slots later).Perm (added ++ stays)) :
    Accounted slots after later := by
  have distinct := before.nodup_iff.1 accounted.distinct
  have apart : freed.Disjoint stays := List.disjoint_of_nodup_append distinct
  have staying (index : Nat) :
      index ∈ stays ↔ (state.pool.get? index).isSome ∧ index ∉ freed := by
    rw [← accounted.all, before.mem_iff, List.mem_append]
    constructor
    · intro member
      exact ⟨.inr member, fun gone => apart gone member⟩
    · rintro ⟨gone | member, remains⟩
      · exact absurd gone remains
      · exact member
  constructor
  · rw [behind.nodup_iff]
    refine owners.distinct.append distinct.of_append_right fun index new old => ?_
    have active := ((staying index).1 old).1
    rw [owners.fresh index new] at active
    contradiction
  · intro index
    rw [behind.mem_iff, List.mem_append, staying, owners.active]

/-- Cells that are taken off the stack are freed, or they are lost. -/
theorem Owners.accounted {state after : State} {abandoned freed added kept : List Nat}
    (owners : Owners state after (abandoned ++ freed) freed added kept)
    (accounted : Accounted slots state lost) :
    Accounted slots after (abandoned ++ lost) := by
  apply owners.accounted_of_perm accounted (List.range slots ++ (kept ++ (abandoned ++ lost)))
  · rw [State.accounts, owners.before, List.perm_iff_count]
    intro index
    simp only [List.count_append]
    omega
  · rw [State.accounts, owners.after, List.perm_iff_count]
    intro index
    simp only [List.count_append]
    omega

theorem accounted_loaded {program : Program} (full : ∀ cell ∈ program.cells, cell.isFree = false)
    (input : InputStream) (output : OutputStream) :
    Accounted program.cells.length (.loaded program input output) [] where
  distinct := by
    simpa [State.accounts, State.loaded, State.initial] using List.nodup_range
  all index := by
    simp only [State.accounts, State.loaded, State.initial, stackCells_nil, List.append_nil,
      List.mem_range]
    constructor
    · intro inside
      rw [get?_loaded full inside, Option.isSome_some]
    · exact Pool.lt_size_of_isSome

section Programs

variable {program : Program} {input : InputStream} {output : OutputStream}

theorem Loses.accounted (full : ∀ cell ∈ program.cells, cell.isFree = false)
    (loses : Loses limits program.code (.start program input output) config lost) :
    Accounted program.cells.length config.state lost := by
  induction loses with
  | refl => exact accounted_loaded full input output
  | tail _ turn induction =>
      obtain ⟨freed, added, kept, owners⟩ := turn.owners
      exact owners.accounted induction

/-- A value that a turn takes off the stack has its cell freed exactly if the turn does not abandon
the cell. -/
theorem Turn.get?_eq_none_iff (owned : Owned config.state) (turn : Turn limits code config next)
    {index : Nat} (before : index ∈ stackCells config.state.stack)
    (after : index ∉ stackCells next.state.stack) :
    next.state.pool.get? index = none ↔ index ∉ config.abandons code := by
  obtain ⟨freed, added, kept, owners⟩ := turn.owners
  have active := owned.active index before
  have distinct := owned.distinct
  rw [owners.before] at before distinct
  rw [owners.after, List.mem_append, not_or] at after
  have dropped := (List.mem_append.1 before).resolve_right after.2
  have apart : (config.abandons code).Disjoint freed :=
    List.disjoint_of_nodup_append distinct.of_append_left
  rw [← Option.not_isSome_iff_eq_none, owners.active]
  constructor
  · intro inactive abandoned
    exact inactive (.inr ⟨active, apart abandoned⟩)
  · rintro gone (new | ⟨-, remains⟩)
    · exact after.1 new
    · rcases List.mem_append.1 dropped with abandoned | freed
      · exact gone abandoned
      · exact remains freed

/-- A turn enlarges the pool only if all cells are accounted for, so the pool has at most one cell
more than these. -/
theorem Turn.size_le (accounted : Accounted slots config.state lost)
    (turn : Turn limits code config next) :
    next.state.pool.size ≤ config.state.pool.size ∨
      next.state.pool.size ≤
        slots + (stackCells config.state.stack).length + lost.length + 1 := by
  cases turn with
  | @intro ip target state next instruction distance found done lands =>
      rcases (executes_of_attempt done).1.size_pool_cases with same | ⟨more, full⟩
      · exact .inl (Nat.le_of_eq same)
      · have all (index : Nat) :
            index ∈ List.range state.pool.size ↔ (state.pool.get? index).isSome := by
          rw [List.mem_range]
          exact ⟨full index, Pool.lt_size_of_isSome⟩
        have count := Pool.active_eq_length List.nodup_range all
        rw [List.length_range, accounted.active_eq] at count
        exact .inr (Nat.le_of_eq (more.trans (congrArg (· + 1) count.symm)))

end Programs

/-! ## Heights on the way -/

/-- Some turns lead from one configuration to another, and this is the largest height of the stack
on the way. -/
inductive Climbs (limits : Limits) (code : List Instruction) (start : Config) : Config → Nat → Prop
  | refl : Climbs limits code start start start.state.stack.length
  | tail {config next : Config} {height : Nat} (earlier : Climbs limits code start config height)
      (turn : Turn limits code config next) :
      Climbs limits code start next (max height next.state.stack.length)

theorem Climbs.reaches {height : Nat} (climbs : Climbs limits code start config height) :
    Reaches limits code start config := by
  induction climbs with
  | refl => exact .refl
  | tail _ turn induction => exact induction.tail turn

theorem Reaches.climbs (reach : Reaches limits code start config) :
    ∃ height, Climbs limits code start config height := by
  induction reach with
  | refl => exact ⟨_, .refl⟩
  | tail _ turn induction =>
      obtain ⟨height, earlier⟩ := induction
      exact ⟨_, earlier.tail turn⟩

theorem Climbs.length_le {height : Nat} (climbs : Climbs limits code start config height) :
    config.state.stack.length ≤ height := by
  cases climbs with
  | refl => exact Nat.le_refl _
  | tail => exact Nat.le_max_right _ _

/-- There are at most as many cells named as values. -/
theorem length_stackCells_le (stack : List Value) : (stackCells stack).length ≤ stack.length := by
  induction stack with
  | nil => exact Nat.le_refl 0
  | cons value rest induction =>
      have one : value.cells.length ≤ 1 := by cases value <;> simp [Value.cells]
      rw [stackCells_cons, List.length_append, List.length_cons]
      omega

/-- Where nothing is ever abandoned, the pool has a cell for each of the first ones, one for each
value of the highest stack so far, and at most one more. -/
theorem Climbs.size_le {height : Nat} (climbs : Climbs limits code start config height)
    (begun : start.state.pool.size = slots)
    (accounted : ∀ config, Reaches limits code start config → Accounted slots config.state []) :
    config.state.pool.size ≤ slots + height + 1 := by
  induction climbs with
  | refl => omega
  | @tail config next height earlier turn induction =>
      have known := earlier.length_le
      have named := length_stackCells_le config.state.stack
      have more : height ≤ max height next.state.stack.length := Nat.le_max_left _ _
      rcases turn.size_le (accounted config earlier.reaches) with same | grown
      · omega
      · rw [List.length_nil] at grown
        omega

/-! ## All programs -/

/-- In a run of a program without free cells, the cells in use between two instructions are those of
the program, those that the stack names and those that comparisons of two values have abandoned on
the way, and they are as many as these together. So there are no others just where nothing has been
abandoned. A cell whose owner a turn takes off the stack is free behind the turn, unless the turn
abandons it. -/
theorem cells_accounted {program : Program} (full : ∀ cell ∈ program.cells, cell.isFree = false)
    (limits : Limits) (input : InputStream) (output : OutputStream) :
    (∀ config, Reaches limits program.code (.start program input output) config →
      ∃ lost, Loses limits program.code (.start program input output) config lost) ∧
    ∀ config lost, Loses limits program.code (.start program input output) config lost →
      (∀ index, (config.state.pool.get? index).isSome ↔
        index < program.cells.length ∨ index ∈ stackCells config.state.stack ∨ index ∈ lost) ∧
      config.state.pool.active =
        program.cells.length + (stackCells config.state.stack).length + lost.length ∧
      (config.state.pool.active = program.cells.length + (stackCells config.state.stack).length ↔
        lost = []) ∧
      ∀ next, Turn limits program.code config next →
        ∀ index ∈ stackCells config.state.stack, index ∉ stackCells next.state.stack →
          (next.state.pool.get? index = none ↔ index ∉ config.abandons program.code) := by
  refine ⟨fun config reach => reach.loses, fun config lost loses => ?_⟩
  have accounted := loses.accounted full
  have count := accounted.active_eq
  refine ⟨accounted.isSome_iff, count, ?_, fun next turn index before after => ?_⟩
  · rw [count, Nat.add_eq_left, List.length_eq_zero_iff]
  · exact turn.get?_eq_none_iff accounted.owned before after

/-- A program that compares two values that own cells. -/
def stranding : Program := ⟨[.push 0, .push 0, .boolEqual], [.integer 1]⟩

/-- A configuration of the run of the program, in which all cells hold the same integer. -/
def strandingConfig (ip : Nat) (stack : List Value) (cells : Nat) : Config :=
  ⟨ip, ⟨stack, ⟨List.replicate cells (.integer 1)⟩, ip, .ofBytes [], .unbounded⟩⟩

/-- Two cells are abandoned in the run of the program. -/
theorem loses_stranding :
    Loses .standard stranding.code (.start stranding (.ofBytes []) .unbounded)
      (strandingConfig 3 [.bool false] 3) [2, 1] := by
  have first : Turn .standard stranding.code (.start stranding (.ofBytes []) .unbounded)
      (strandingConfig 1 [.cell 1] 2) := .intro rfl rfl rfl
  have second : Turn .standard stranding.code (strandingConfig 1 [.cell 1] 2)
      (strandingConfig 2 [.cell 2, .cell 1] 3) := .intro rfl rfl rfl
  have third : Turn .standard stranding.code (strandingConfig 2 [.cell 2, .cell 1] 3)
      (strandingConfig 3 [.bool false] 3) := .intro rfl rfl rfl
  exact .tail (.tail (.tail .refl first) second) third

theorem isFree_stranding : ∀ cell ∈ stranding.cells, cell.isFree = false := by
  simp [stranding, Cell.isFree]

theorem cells_accounted_stranding :
    (∀ cell ∈ stranding.cells, cell.isFree = false) ∧
      ∃ config lost,
        Loses .standard stranding.code (.start stranding (.ofBytes []) .unbounded) config lost ∧
          lost.length = 2 ∧
          config.state.pool.active =
            stranding.cells.length + (stackCells config.state.stack).length + lost.length := by
  obtain ⟨-, accounted⟩ :=
    cells_accounted isFree_stranding .standard (.ofBytes []) .unbounded
  exact ⟨isFree_stranding, _, _, loses_stranding, rfl, (accounted _ _ loses_stranding).2.1⟩

/-- Cells of values that are compared are not freed, although the program is accepted and none of
its cells is free: no account that leaves them out is right for all programs. -/
theorem not_all_cells_freed :
    ¬ ∀ (program : Program) (limits : Limits) (input : InputStream) (output : OutputStream),
      program.check = .ok () → (∀ cell ∈ program.cells, cell.isFree = false) →
        ∀ config, Reaches limits program.code (.start program input output) config →
          config.state.pool.active =
            program.cells.length + (stackCells config.state.stack).length := by
  intro counted
  have same := counted stranding .standard (.ofBytes []) .unbounded rfl isFree_stranding _
    loses_stranding.reaches
  contradiction

end Machine

end StackScript
