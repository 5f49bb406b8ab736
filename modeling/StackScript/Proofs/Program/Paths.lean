import Mathlib.Tactic.Lift
import StackScript.Proofs.Program.Heights

/-!
# Ways through the code

A way begins in front of the first instruction with an empty stack and goes on wherever an
instruction may go on, whatever the heights. The height check accepts exactly the code whose ways
never take more values than there are, never jump backward or past the end, and agree on the height
at each place where they meet.
-/

namespace StackScript.Heights

/-- A way leads to an index with a height. Both are integers, as nothing keeps a way from leaving
the code or from taking more values than there are. -/
inductive Path (code : List Instruction) : Int → Int → Prop
  | start : Path code 0 0
  | onward {index : Nat} {height : Int} {instruction : Instruction}
      (before : Path code index height) (here : code[index]? = some instruction)
      (falls : instruction.fallsThrough = true) :
      Path code (index + 1) (height - instruction.pops + instruction.pushes)
  | jump {index : Nat} {height : Int} {instruction : Instruction} {offset : Int32}
      (before : Path code index height) (here : code[index]? = some instruction)
      (jumps : instruction.offset? = some offset) :
      Path code (index + offset.toInt) (height - instruction.pops + instruction.pushes)

/-- Every slot of the code is among a number of cells, and on all ways through the code instructions
find the values they take, jumps go forward and no further than behind the last instruction, and the
heights at each index agree. -/
structure Balanced (code : List Instruction) (cells : Nat) : Prop where
  slot : ∀ instruction ∈ code, ∀ slot, instruction.slot? = some slot → slot < cells
  pops : ∀ {index : Nat} {height : Int} {instruction : Instruction}, Path code index height →
    code[index]? = some instruction → instruction.pops ≤ height
  jump : ∀ {index : Nat} {height : Int} {instruction : Instruction} {offset : Int32},
    Path code index height → code[index]? = some instruction → instruction.offset? = some offset →
      0 < offset.toInt ∧ index + offset.toInt ≤ code.length
  agree : ∀ {index first second : Int}, Path code index first → Path code index second →
    first = second

section Accepted

variable {code : List Instruction} {cells : Nat} {table : List (Option Nat)}

/-- The height behind an instruction that finds the values it takes. -/
theorem cast_after {instruction : Instruction} {height : Nat} (enough : instruction.pops ≤ height) :
    ((height - instruction.pops + instruction.pushes : Nat) : Int) =
      height - instruction.pops + instruction.pushes := by
  omega

/-- Every way stays within a consistent table and brings what is recorded there. -/
theorem Path.recorded (first : table[0]? = some (some 0)) (consistent : Consistent cells code table)
    {index height : Int} (path : Path code index height) :
    ∃ place level : Nat, index = place ∧ height = level ∧ table[place]? = some (some level) := by
  induction path with
  | start => exact ⟨0, 0, rfl, rfl, first⟩
  | @onward index height instruction before here falls induction =>
      obtain ⟨place, level, same, rfl, there⟩ := induction
      obtain rfl : index = place := Int.ofNat.inj same
      have next := (consistent.recorded here there).onward falls
      rw [List.getElem?_drop, Nat.add_zero] at next
      exact ⟨index + 1, _, rfl, (cast_after (consistent.pops here there)).symm, next⟩
  | @jump index height instruction offset before here jumps induction =>
      obtain ⟨place, level, same, rfl, there⟩ := induction
      obtain rfl : index = place := Int.ofNat.inj same
      obtain ⟨distance, forward, target⟩ := (consistent.recorded here there).jump jumps
      rw [List.getElem?_drop] at target
      refine ⟨index + 1 + distance, _, ?_, (cast_after (consistent.pops here there)).symm, target⟩
      omega

/-- Code with a consistent table is balanced. -/
theorem Consistent.balanced (consistent : Consistent cells code table)
    (fits : table.length = code.length + 1) (first : table[0]? = some (some 0)) :
    Balanced code cells where
  slot instruction member slot named := by
    obtain ⟨index, here⟩ := List.mem_iff_getElem?.1 member
    exact consistent.slot here named
  pops {index height instruction} path here := by
    obtain ⟨place, level, same, rfl, there⟩ := path.recorded first consistent
    obtain rfl : index = place := Int.ofNat.inj same
    exact Int.ofNat_le.2 (consistent.pops here there)
  jump {index height instruction offset} path here jumps := by
    obtain ⟨place, level, same, rfl, there⟩ := path.recorded first consistent
    obtain rfl : index = place := Int.ofNat.inj same
    obtain ⟨distance, forward, target⟩ := (consistent.recorded here there).jump jumps
    rw [List.getElem?_drop] at target
    have inside := (List.getElem?_eq_some_iff.1 target).1
    omega
  agree {index height other} path path' := by
    obtain ⟨place, level, rfl, rfl, there⟩ := path.recorded first consistent
    obtain ⟨place', level', same, rfl, there'⟩ := path'.recorded first consistent
    obtain rfl : place = place' := Int.ofNat.inj same
    rw [there, Option.some.injEq, Option.some.injEq] at there'
    rw [there']

end Accepted

/-! ## The table of a balanced code -/

open Classical in
/-- The height that some way brings to each index, where any way leads there. -/
noncomputable def pathHeights (code : List Instruction) : List (Option Nat) :=
  (List.range (code.length + 1)).map fun (index : Nat) =>
    if found : ∃ height : Nat, Path code index height then some found.choose else none

namespace Balanced

variable {code : List Instruction} {cells : Nat}

/-- No way brings a negative height, and none leaves the code. -/
theorem bounds (balanced : Balanced code cells) {index height : Int}
    (path : Path code index height) :
    0 ≤ height ∧ 0 ≤ index ∧ index ≤ code.length := by
  cases path with
  | start => exact ⟨Int.le_refl 0, Int.le_refl 0, Int.natCast_nonneg _⟩
  | onward before here falls =>
      have enough := balanced.pops before here
      have inside := (List.getElem?_eq_some_iff.1 here).1
      omega
  | jump before here jumps =>
      have enough := balanced.pops before here
      have lands := balanced.jump before here jumps
      omega

/-- The table of a balanced code has the heights that ways bring, and no others. -/
theorem getElem?_pathHeights (balanced : Balanced code cells) {index height : Nat} :
    (pathHeights code)[index]? = some (some height) ↔ Path code index height := by
  rw [pathHeights, List.getElem?_map, Option.map_eq_some_iff]
  constructor
  · rintro ⟨place, ranged, chosen⟩
    obtain ⟨inside, same⟩ := List.getElem?_eq_some_iff.1 ranged
    rw [List.getElem_range] at same
    subst same
    split at chosen
    next found =>
      rw [Option.some.injEq] at chosen
      exact chosen ▸ found.choose_spec
    next => contradiction
  · intro path
    have inside : index < code.length + 1 := by
      have bounds := balanced.bounds path
      omega
    have found : ∃ height : Nat, Path code index height := ⟨height, path⟩
    refine ⟨index, List.getElem?_range inside, ?_⟩
    rw [dif_pos found, Int.ofNat.inj (balanced.agree found.choose_spec path)]

/-- Where a way leads from, the table has the height that it leaves. -/
theorem recorded_pathHeights (balanced : Balanced code cells) {index height : Nat}
    {instruction : Instruction} (path : Path code index height)
    (here : code[index]? = some instruction) :
    Recorded ((pathHeights code).drop (index + 1)) instruction
      (height - instruction.pops + instruction.pushes) := by
  have enough := Int.ofNat_le.1 (balanced.pops path here)
  constructor
  · intro falls
    rw [List.getElem?_drop, Nat.add_zero, balanced.getElem?_pathHeights, cast_after enough]
    exact path.onward here falls
  · intro offset jumps
    obtain ⟨forward, -⟩ := balanced.jump path here jumps
    refine ⟨offset.toInt.toNat - 1, by omega, ?_⟩
    rw [List.getElem?_drop, balanced.getElem?_pathHeights, cast_after enough]
    have lands := path.jump here jumps
    have place : ((index + 1 + (offset.toInt.toNat - 1) : Nat) : Int) = index + offset.toInt := by
      omega
    rwa [place]

theorem consistent_pathHeights (balanced : Balanced code cells) :
    Consistent cells code (pathHeights code) where
  slot here named := balanced.slot _ (List.mem_of_getElem? here) _ named
  pops here known := Int.ofNat_le.1 (balanced.pops (balanced.getElem?_pathHeights.1 known) here)
  recorded here known := balanced.recorded_pathHeights (balanced.getElem?_pathHeights.1 known) here

/-- What leads somewhere last is an instruction that is reached itself, and in front of it. -/
theorem supported_pathHeights (balanced : Balanced code cells) :
    Supported code (pathHeights code) := by
  intro target height known
  have path := balanced.getElem?_pathHeights.1 known
  generalize place : (target : Int) = index at path
  generalize (height : Int) = level at path
  cases path with
  | start => exact .inl (Int.ofNat.inj place)
  | @onward index level instruction before here falls =>
      have nonnegative := (balanced.bounds before).1
      lift level to Nat using nonnegative
      have reached := balanced.getElem?_pathHeights.2 before
      exact .inr ⟨index, instruction, level, by omega, here, reached, .inl ⟨falls, by omega⟩⟩
  | @jump index level instruction offset before here jumps =>
      have nonnegative := (balanced.bounds before).1
      have forward := (balanced.jump before here jumps).1
      lift level to Nat using nonnegative
      have reached := balanced.getElem?_pathHeights.2 before
      exact .inr ⟨index, instruction, level, by omega, here, reached, .inr ⟨offset, jumps, place⟩⟩

/-- Balanced code is accepted with the heights that ways bring. -/
theorem heights_eq (balanced : Balanced code cells) :
    Instruction.heights code cells = .ok (pathHeights code) :=
  heights_eq_ok (by rw [pathHeights, List.length_map, List.length_range])
    (balanced.getElem?_pathHeights.2 .start) balanced.consistent_pathHeights
    balanced.supported_pathHeights

end Balanced

/-- The height check accepts balanced code over a number of cells, and no other. -/
theorem accepts_iff_balanced (code : List Instruction) (cells : Nat) :
    (∃ table, Instruction.heights code cells = .ok table) ↔ Balanced code cells := by
  constructor
  · rintro ⟨table, accepted⟩
    obtain ⟨fits, first, consistent⟩ := heights_consistent accepted
    exact consistent.balanced fits first
  · intro balanced
    exact ⟨_, balanced.heights_eq⟩

end StackScript.Heights
