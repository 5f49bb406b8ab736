import StackScript.Proofs.LinkedCode.ListOrder

/-!
# The lines of generated code

Numbering puts the instructions of linked code on consecutive lines, in list order, and changes
nothing else about them.
-/

namespace StackScript

/-- An instruction as it is before it is numbered. -/
def LinkedInstruction.unnumbered (instruction : LinkedInstruction) : LinkedInstruction :=
  { instruction with line := none }

namespace LinkedCode

variable {code : LinkedCode}

theorem get?_setLine (code : LinkedCode) (id : InstructionId) (line : Nat) (other : InstructionId) :
    (code.setLine id line).get? other =
      if id = other then (code.get? id).map ({ · with line := some line })
      else code.get? other := by
  rw [get?, setLine, Array.getElem?_modify]
  by_cases same : id = other
  · rw [if_pos same, if_pos same, same]
    rfl
  · rw [if_neg same, if_neg same]
    rfl

/-- The line of an instruction, once it has one. -/
def line? (code : LinkedCode) (id : InstructionId) : Option Nat :=
  (code.get? id).bind LinkedInstruction.line

/-- Instructions have consecutive lines from one on. -/
def Numbered (code : LinkedCode) : Nat → List (InstructionId × LinkedInstruction) → Prop
  | _, [] => True
  | line, (id, _) :: rest => code.line? id = some line ∧ Numbered code (line + 1) rest

theorem numbered_append {line : Nat} {front back : List (InstructionId × LinkedInstruction)} :
    code.Numbered line (front ++ back) ↔
      code.Numbered line front ∧ code.Numbered (line + front.length) back := by
  induction front generalizing line with
  | nil => simp [Numbered]
  | cons first front induction =>
      rw [List.cons_append, Numbered, Numbered, induction, and_assoc, List.length_cons,
        Nat.add_assoc, Nat.add_comm 1]

theorem numbered_of_zipIdx {line : Nat} {part : List (InstructionId × LinkedInstruction)}
    (lines : ∀ entry ∈ part.zipIdx line, code.line? entry.1.1 = some entry.2) :
    code.Numbered line part := by
  induction part generalizing line with
  | nil => trivial
  | cons first part induction =>
      rw [List.zipIdx_cons, List.forall_mem_cons] at lines
      exact ⟨lines.1, induction lines.2⟩

/-- Giving lines to some instructions. -/
def setLines (code : LinkedCode) (part : List ((InstructionId × LinkedInstruction) × Nat)) :
    LinkedCode :=
  part.foldl (fun code ((id, _), line) => code.setLine id line) code

/-- Instructions that are given no line stay as they are. -/
theorem get?_setLines_of_not_mem {part : List ((InstructionId × LinkedInstruction) × Nat)}
    {id : InstructionId} (other : id ∉ part.map (·.1.1)) :
    (code.setLines part).get? id = code.get? id := by
  induction part generalizing code with
  | nil => rfl
  | cons first part induction =>
      rw [List.map_cons, List.mem_cons, not_or] at other
      have kept : (code.setLine first.1.1 first.2).get? id = code.get? id := by
        rw [get?_setLine, if_neg (Ne.symm other.1)]
      rw [← kept]
      exact induction other.2

/-- An instruction on a line. -/
def onLine (entry : (InstructionId × LinkedInstruction) × Nat) :
    InstructionId × LinkedInstruction :=
  (entry.1.1, { entry.1.2 with line := some entry.2 })

/-- Instructions that are given a line stay as they are otherwise. -/
theorem get?_setLines_of_mem {part : List ((InstructionId × LinkedInstruction) × Nat)}
    (distinct : (part.map (·.1.1)).Nodup) {entry : (InstructionId × LinkedInstruction) × Nat}
    (member : entry ∈ part) (found : code.get? entry.1.1 = some entry.1.2) :
    (code.setLines part).get? entry.1.1 = some (onLine entry).2 := by
  induction part generalizing code with
  | nil => cases member
  | cons first part induction =>
      rw [List.map_cons, List.nodup_cons] at distinct
      rw [setLines, List.foldl_cons]
      rcases List.mem_cons.1 member with rfl | later
      · refine (get?_setLines_of_not_mem distinct.1).trans ?_
        rw [get?_setLine, if_pos rfl, found]
        rfl
      · refine induction distinct.2 later ?_
        have differs : first.1.1 ≠ entry.1.1 := fun same =>
          distinct.1 (same ▸ List.mem_map_of_mem later)
        rw [get?_setLine, if_neg differs, found]

theorem Visits.onLine {later : LinkedCode} {start : Option InstructionId}
    {list : List (InstructionId × LinkedInstruction)} {line : Nat} (visits : code.Visits start list)
    (lines : ∀ entry ∈ list.zipIdx line, later.get? entry.1.1 = some (onLine entry).2) :
    later.Visits start ((list.zipIdx line).map LinkedCode.onLine) := by
  induction visits generalizing line with
  | ended => exact .ended
  | @next id instruction rest _ _ induction =>
      rw [List.zipIdx_cons] at lines ⊢
      exact .next (lines ((id, instruction), line) List.mem_cons_self)
        (induction fun entry member => lines entry (List.mem_cons_of_mem _ member))

theorem head_setLines (part : List ((InstructionId × LinkedInstruction) × Nat)) :
    (code.setLines part).head = code.head := by
  induction part generalizing code with
  | nil => rfl
  | cons first part induction => exact induction

theorem size_setLines (part : List ((InstructionId × LinkedInstruction) × Nat)) :
    (code.setLines part).instructions.size = code.instructions.size := by
  induction part generalizing code with
  | nil => rfl
  | cons first part induction => exact induction.trans Array.size_modify

variable (isList : code.IsList)

include isList

/-- Numbering puts an instruction of the list on its line. -/
theorem IsList.get?_number {start : Nat} {entry : (InstructionId × LinkedInstruction) × Nat}
    (member : entry ∈ code.toList.zipIdx start) :
    (code.number start).get? entry.1.1 = some (onLine entry).2 := by
  have names : (code.toList.zipIdx start).map (·.1.1) = code.toList.map Prod.fst := by
    rw [← List.zipIdx_map_fst start code.toList, List.map_map, List.zipIdx_map_fst]
    rfl
  have listed : entry.1 ∈ code.toList := by
    rw [← List.zipIdx_map_fst start code.toList]
    exact List.mem_map_of_mem member
  exact get?_setLines_of_mem (names ▸ isList.nodup) member (isList.visits.found entry.1 listed)

/-- The instructions of the list have consecutive lines once they are numbered. -/
theorem IsList.numbered (start : Nat) : (code.number start).Numbered start code.toList :=
  numbered_of_zipIdx fun _ member =>
    Option.bind_eq_some_iff.2 ⟨_, isList.get?_number member, rfl⟩

/-- Numbering changes nothing but the lines of the list. -/
theorem IsList.toList_number (start : Nat) :
    (code.number start).toList = (code.toList.zipIdx start).map onLine := by
  have visits : (code.number start).Visits code.head ((code.toList.zipIdx start).map onLine) :=
    isList.visits.onLine fun entry member => isList.get?_number member
  have count : code.toList.length = code.instructions.size := by
    simpa using isList.once.length_eq
  have head : (code.number start).head = code.head := head_setLines _
  have size : (code.number start).instructions.size = code.instructions.size := size_setLines _
  rw [toList, head, size]
  exact visits.listFrom_eq (by simp [count])

/-- The instruction at a place of the list is on the line of that place. -/
theorem IsList.getElem?_number (start place : Nat) :
    (code.number start).toList[place]? =
      code.toList[place]?.map fun entry => onLine (entry, place + start) := by
  rw [isList.toList_number, List.getElem?_map, List.getElem?_zipIdx, Option.map_map,
    Nat.add_comm start]
  rfl

theorem IsList.line?_number {start place : Nat} {entry : InstructionId × LinkedInstruction}
    (here : code.toList[place]? = some entry) :
    (code.number start).line? entry.1 = some (place + start) := by
  have member : (entry, start + place) ∈ code.toList.zipIdx start := by
    refine List.mem_of_getElem? (i := place) ?_
    rw [List.getElem?_zipIdx, here, Option.map_some]
  rw [Nat.add_comm]
  exact Option.bind_eq_some_iff.2 ⟨_, isList.get?_number member, rfl⟩

theorem IsList.unnumbered_number (start : Nat) :
    (code.number start).toList.map (·.2.unnumbered) = code.toList.map (·.2.unnumbered) := by
  rw [isList.toList_number, List.map_map, ← List.zipIdx_map_fst start code.toList, List.map_map,
    List.zipIdx_map_fst]
  rfl

end LinkedCode

end StackScript
