import Mathlib.Algebra.Ring.Nat
import StackScript.Program.Statistics
import StackScript.Proofs.Text.Lines

/-!
# The order of statistics

The loop over the instructions of a program counts each of them once, under the name of its kind.
Statistics list the counts, the largest first and equal ones by name. This order leaves no choice,
so that the text is the same in whatever order the counts were found, and the names and counts can
be read off its lines.
-/

namespace StackScript

open Text

/-! ## Kinds of instructions -/

namespace Instruction

/-- Instructions that differ in their operands at most. -/
def SameKind (left right : Instruction) : Prop :=
  left.ctorIdx = right.ctorIdx

instance (left right : Instruction) : Decidable (left.SameKind right) :=
  inferInstanceAs (Decidable (_ = _))

/-- The names of all kinds of instructions. -/
def kinds : List String :=
  [nop, push 0, getTop 0, discard, print, input 0, jump 0, jumpIfFalse 0, equal, boolEqual, add,
    boolToString, integerToString, stringToInteger].map name

theorem getElem?_kinds (instruction : Instruction) :
    kinds[instruction.ctorIdx]? = some instruction.name := by
  cases instruction <;> rfl

/-- A name is that of one kind. -/
theorem name_eq_iff {left right : Instruction} : left.name = right.name ↔ left.SameKind right := by
  have distinct : kinds.Nodup := by decide
  have inside := (List.getElem?_eq_some_iff.1 left.getElem?_kinds).1
  rw [SameKind, ← List.getElem?_inj inside distinct, getElem?_kinds, getElem?_kinds,
    Option.some.injEq]

theorem name_mem_kinds (instruction : Instruction) : instruction.name ∈ kinds :=
  List.mem_of_getElem? instruction.getElem?_kinds

theorem unbroken_name (instruction : Instruction) : Unbroken instruction.name := by
  have all : ∀ name ∈ kinds, Unbroken name := by decide
  exact all _ instruction.name_mem_kinds

theorem singleLine_name (instruction : Instruction) : SingleLine instruction.name := by
  have all : ∀ name ∈ kinds, SingleLine name := by decide
  exact all _ instruction.name_mem_kinds

end Instruction

namespace Frequency

/-! ## Counting -/

/-- Frequencies that count every instruction once, under its name. -/
structure Tallies (code : List Instruction) (frequencies : List Frequency) : Prop where
  distinct : (frequencies.map Frequency.name).Nodup
  occurs : ∀ name,
    name ∈ frequencies.map Frequency.name ↔ ∃ instruction ∈ code, instruction.name = name
  counted : ∀ frequency ∈ frequencies,
    frequency.count = code.countP fun instruction => instruction.name = frequency.name
  total : (frequencies.map Frequency.count).sum = code.length

section Increment

variable {name : String} {frequencies : List Frequency}

/-- The names are those from before, with a new name behind them. -/
theorem map_name_increment (name : String) (frequencies : List Frequency) :
    (increment name frequencies).map Frequency.name =
      if name ∈ frequencies.map Frequency.name then frequencies.map Frequency.name
      else frequencies.map Frequency.name ++ [name] := by
  induction frequencies with
  | nil => rfl
  | cons first others induction =>
      by_cases here : first.name = name
      · simp [increment, here]
      · rw [increment, if_neg here, List.map_cons, induction, List.map_cons]
        have other : name ≠ first.name := Ne.symm here
        by_cases member : name ∈ others.map Frequency.name
        · rw [if_pos member, if_pos (List.mem_cons_of_mem _ member)]
        · rw [if_neg member, if_neg (List.not_mem_cons_of_ne_of_not_mem other member)]
          rfl

/-- What is counted for a name after one more occurrence, of that name or of another. -/
theorem mem_increment (distinct : (frequencies.map Frequency.name).Nodup) {frequency : Frequency}
    (member : frequency ∈ increment name frequencies) :
    frequency ∈ frequencies ∧ frequency.name ≠ name ∨
      (∃ earlier ∈ frequencies, earlier.name = name ∧ frequency = ⟨name, earlier.count + 1⟩) ∨
      name ∉ frequencies.map Frequency.name ∧ frequency = ⟨name, 1⟩ := by
  induction frequencies with
  | nil => exact .inr (.inr ⟨List.not_mem_nil, List.mem_singleton.1 member⟩)
  | cons first others induction =>
      obtain ⟨only, distinct⟩ := List.nodup_cons.1 distinct
      rw [increment] at member
      split at member
      next here =>
        rcases List.mem_cons.1 member with rfl | later
        · exact .inr (.inl ⟨first, List.mem_cons_self, here, rfl⟩)
        · -- Names are distinct, so that none of the later ones is the name that was counted.
          refine .inl ⟨List.mem_cons_of_mem _ later, fun same => only ?_⟩
          rw [here, ← same]
          exact List.mem_map_of_mem later
      next other =>
        rcases List.mem_cons.1 member with rfl | later
        · exact .inl ⟨List.mem_cons_self, other⟩
        · rcases induction distinct later with ⟨there, ne⟩ | ⟨earlier, there, same⟩ | ⟨new, one⟩
          · exact .inl ⟨List.mem_cons_of_mem _ there, ne⟩
          · exact .inr (.inl ⟨earlier, List.mem_cons_of_mem _ there, same⟩)
          · exact .inr (.inr ⟨List.not_mem_cons_of_ne_of_not_mem (Ne.symm other) new, one⟩)

/-- One more occurrence is counted. -/
theorem sum_increment (name : String) (frequencies : List Frequency) :
    ((increment name frequencies).map Frequency.count).sum =
      (frequencies.map Frequency.count).sum + 1 := by
  induction frequencies with
  | nil => rfl
  | cons first others induction =>
      rw [increment]
      split
      · simp only [List.map_cons, List.sum_cons]
        omega
      · simp only [List.map_cons, List.sum_cons, induction]
        omega

end Increment

section Loop

variable {code : List Instruction} {frequencies : List Frequency}

/-- A turn of the loop counts one more instruction. -/
theorem Tallies.increment (tallies : Tallies code frequencies) (instruction : Instruction) :
    Tallies (code ++ [instruction]) (increment instruction.name frequencies) where
  distinct := by
    rw [map_name_increment]
    split
    next => exact tallies.distinct
    next new =>
      refine List.nodup_append.2 ⟨tallies.distinct, List.pairwise_singleton _ _, ?_⟩
      rintro other member _ here rfl
      exact new (List.mem_singleton.1 here ▸ member)
  occurs name := by
    have before := tallies.occurs name
    rw [map_name_increment]
    split
    next there =>
      have again := (tallies.occurs instruction.name).1 there
      simp only [List.mem_append, List.mem_singleton, or_and_right, exists_or, exists_eq_left,
        before]
      refine ⟨.inl, ?_⟩
      rintro (earlier | rfl)
      · exact earlier
      · exact again
    next => simp [before, or_and_right, exists_or, eq_comm]
  counted frequency member := by
    rw [List.countP_append, List.countP_singleton]
    rcases mem_increment tallies.distinct member with
      ⟨there, other⟩ | ⟨earlier, there, named, rfl⟩ | ⟨new, rfl⟩
    · simp [tallies.counted frequency there, Ne.symm other]
    · simp [tallies.counted earlier there, named]
    · have none : code.countP (fun other => other.name = instruction.name) = 0 := by
        rw [List.countP_eq_zero]
        intro other there
        rw [decide_eq_true_eq]
        exact fun same => new ((tallies.occurs _).2 ⟨other, there, same⟩)
      simp [none]
  total := by
    rw [sum_increment, tallies.total, List.length_append, List.length_singleton]

/-- The loop counts the instructions that it runs over. -/
theorem Tallies.foldl (tallies : Tallies code frequencies) (rest : List Instruction) :
    Tallies (code ++ rest)
      (rest.foldl (fun frequencies instruction => Frequency.increment instruction.name frequencies)
        frequencies) := by
  induction rest generalizing code frequencies with
  | nil => rwa [List.append_nil]
  | cons instruction rest induction =>
      have further := induction (tallies.increment instruction)
      rwa [List.append_assoc] at further

theorem tallies_ofCode (code : List Instruction) : Tallies code (ofCode code) := by
  have none : Tallies [] [] := ⟨.nil, by simp, by simp, rfl⟩
  exact none.foldl code

theorem Tallies.perm {others : List Frequency} (tallies : Tallies code frequencies)
    (same : others.Perm frequencies) : Tallies code others where
  distinct := (same.map Frequency.name).nodup_iff.2 tallies.distinct
  occurs name := by rw [(same.map Frequency.name).mem_iff, tallies.occurs]
  counted frequency member := tallies.counted frequency (same.mem_iff.1 member)
  total := by rw [(same.map Frequency.count).sum_nat, tallies.total]

theorem Tallies.named (tallies : Tallies code frequencies) {frequency : Frequency}
    (member : frequency ∈ frequencies) :
    ∃ instruction ∈ code, instruction.name = frequency.name :=
  (tallies.occurs frequency.name).1 (List.mem_map_of_mem member)

end Loop

/-! ## Order -/

/-- A frequency is larger than another, or equal and of a smaller name. -/
def StrictlyPrecedes (left right : Frequency) : Prop :=
  right.count < left.count ∨ left.count = right.count ∧ left.name < right.name

theorem precedes_iff {left right : Frequency} :
    left.precedes right = true ↔
      right.count < left.count ∨ left.count = right.count ∧ left.name ≤ right.name := by
  simp [precedes]

theorem precedes_trans {left middle right : Frequency} (first : left.precedes middle = true)
    (second : middle.precedes right = true) : left.precedes right = true := by
  rw [precedes_iff] at *
  rcases first with more | ⟨same, first⟩ <;> rcases second with more' | ⟨same', second⟩
  · exact .inl (by omega)
  · exact .inl (by omega)
  · exact .inl (by omega)
  · exact .inr ⟨by omega, String.le_trans first second⟩

theorem precedes_total (left right : Frequency) :
    (left.precedes right || right.precedes left) = true := by
  rw [Bool.or_eq_true, precedes_iff, precedes_iff]
  rcases Nat.lt_trichotomy left.count right.count with less | same | more
  · exact .inr (.inl less)
  · rcases String.le_total left.name right.name with first | second
    · exact .inl (.inr ⟨same, first⟩)
    · exact .inr (.inr ⟨same.symm, second⟩)
  · exact .inl (.inl more)

/-- Frequencies that are listed in front of each other are the same. -/
theorem precedes_antisymm {left right : Frequency} (first : left.precedes right = true)
    (second : right.precedes left = true) : left = right := by
  obtain ⟨name, count⟩ := left
  obtain ⟨name', count'⟩ := right
  simp only [precedes_iff] at first second
  rcases first with more | ⟨rfl, first⟩
  · omega
  · rcases second with more | ⟨-, second⟩
    · exact absurd more (Nat.lt_irrefl _)
    · rw [String.le_antisymm first second]

theorem pairwise_sorted (frequencies : List Frequency) :
    (sorted frequencies).Pairwise fun left right => left.precedes right = true :=
  @List.pairwise_mergeSort Frequency precedes (fun _ _ _ => precedes_trans) precedes_total
    frequencies

/-- The listed order does not depend on the one in which frequencies are found. -/
theorem sorted_eq_of_perm {left right : List Frequency} (same : left.Perm right) :
    sorted left = sorted right := by
  have perm : (sorted left).Perm (sorted right) :=
    (List.mergeSort_perm left _).trans (same.trans (List.mergeSort_perm right _).symm)
  exact perm.eq_of_pairwise (fun _ _ _ _ => precedes_antisymm) (pairwise_sorted left)
    (pairwise_sorted right)

/-- Frequencies of different names are in strict order. -/
theorem pairwise_strictlyPrecedes {frequencies : List Frequency}
    (distinct : (frequencies.map Frequency.name).Nodup) :
    (sorted frequencies).Pairwise StrictlyPrecedes := by
  have names : (sorted frequencies).Pairwise fun left right => left.name ≠ right.name :=
    List.pairwise_map.1 (((List.mergeSort_perm frequencies _).map _).nodup_iff.2 distinct)
  refine (pairwise_sorted frequencies).imp₂ (fun left right order other => ?_) names
  rcases precedes_iff.1 order with more | ⟨same, first⟩
  · exact .inl more
  · refine .inr ⟨same, String.not_le.1 fun second => other ?_⟩
    exact String.le_antisymm first second

/-! ## Lines -/

/-- The first words of a line of statistics are a name and its count. -/
theorem words_row {frequency : Frequency} (unbroken : Unbroken frequency.name) (total : Nat) :
    (words (row total frequency)).take 2 = [frequency.name, decimal frequency.count] := by
  have line : row total frequency =
      repeated 2 ' ' ++ (leftAligned 12 frequency.name ++ " " ++
        (rightAligned 4 (decimal frequency.count) ++ " " ++
          ("(" ++ rightAligned 5 (percentage frequency.count total) ++ "%)"))) := by
    have gap : " (" = " " ++ "(" := rfl
    simp only [row, gap, String.append_assoc]
    rfl
  rw [line, words_blanks, words_leftAligned unbroken, words_rightAligned (unbroken_decimal _)]
  rfl

theorem singleLine_row {frequency : Frequency} (single : SingleLine frequency.name) (total : Nat) :
    SingleLine (row total frequency) := by
  simp +decide [row, percentage, single]

end Frequency

namespace Program

variable {program : Program} {frequencies : List Frequency}

theorem singleLine_of_tallies (tallies : Frequency.Tallies program.code frequencies)
    {frequency : Frequency} (member : frequency ∈ frequencies) (total : Nat) :
    SingleLine (Frequency.row total frequency) := by
  obtain ⟨instruction, -, named⟩ := tallies.named member
  exact Frequency.singleLine_row (named ▸ instruction.singleLine_name) total

/-- The lines of statistics: the sizes of a program, and below a heading one line for each frequency
in their order. -/
theorem splitLines_statisticsOf (tallies : Frequency.Tallies program.code frequencies) :
    splitLines (program.statisticsOf frequencies) =
      ["Instructions: " ++ decimal program.code.length,
        "Cells:        " ++ decimal program.cells.length, "Op frequency:"]
      ++ (Frequency.sorted frequencies).map (Frequency.row program.code.length) ++ [""] := by
  rw [statisticsOf, splitLines_lines]
  simp only [List.forall_mem_append, List.forall_mem_cons, List.forall_mem_map]
  refine ⟨by simp +decide, fun frequency member => ?_⟩
  exact singleLine_of_tallies (tallies.perm (List.mergeSort_perm _ _)) member _

/-- Statistics do not depend on the order in which the counts of instructions are found. Below the
heading they have one line for each kind of instruction that occurs, with its name and count, in
strict order; and each instruction is counted once. -/
theorem statistics_canonical (program : Program) {left right : List Frequency}
    (first : left.Perm (Frequency.ofCode program.code))
    (second : right.Perm (Frequency.ofCode program.code)) :
    program.statisticsOf left = program.statisticsOf right ∧
    (∀ instruction other : Instruction,
      instruction.name = other.name ↔ instruction.SameKind other) ∧
    ∃ listed : List Frequency,
      splitLines (program.statisticsOf left) =
        ["Instructions: " ++ decimal program.code.length,
          "Cells:        " ++ decimal program.cells.length, "Op frequency:"]
        ++ listed.map (Frequency.row program.code.length) ++ [""] ∧
      (∀ frequency ∈ listed,
        (words (Frequency.row program.code.length frequency)).take 2 =
          [frequency.name, decimal frequency.count]) ∧
      listed.Pairwise Frequency.StrictlyPrecedes ∧
      Frequency.Tallies program.code listed := by
  have tallies := (Frequency.tallies_ofCode program.code).perm first
  have listed := tallies.perm (List.mergeSort_perm left Frequency.precedes)
  refine ⟨?_, fun _ _ => Instruction.name_eq_iff, Frequency.sorted left,
    splitLines_statisticsOf tallies, fun frequency member => ?_,
    Frequency.pairwise_strictlyPrecedes tallies.distinct, listed⟩
  · rw [statisticsOf, statisticsOf, Frequency.sorted_eq_of_perm (first.trans second.symm)]
  · obtain ⟨instruction, -, named⟩ := listed.named member
    exact Frequency.words_row (named ▸ instruction.unbroken_name) _

/-- A program in which two kinds of instructions occur equally often. -/
def tied : Program :=
  ⟨[.push 0, .print, .push 1, .print, .jump 1], [.integer 1, .string "a"]⟩

theorem statistics_canonical_tied :
    let left : List Frequency := [⟨"JMP", 1⟩, ⟨"PUSH", 2⟩, ⟨"PRINT", 2⟩]
    let right : List Frequency := [⟨"PRINT", 2⟩, ⟨"JMP", 1⟩, ⟨"PUSH", 2⟩]
    left.Perm (Frequency.ofCode tied.code) ∧ right.Perm (Frequency.ofCode tied.code) ∧
      tied.statisticsOf left = tied.statisticsOf right ∧
      ∃ listed : List Frequency,
        splitLines (tied.statisticsOf left) =
          ["Instructions: 5", "Cells:        2", "Op frequency:"]
          ++ listed.map (Frequency.row 5) ++ [""] ∧
        listed.Pairwise Frequency.StrictlyPrecedes ∧ Frequency.Tallies tied.code listed := by
  intro left right
  have first : left.Perm (Frequency.ofCode tied.code) := by decide
  have second : right.Perm (Frequency.ofCode tied.code) := by decide
  obtain ⟨same, -, listed, lines, -, order, tallies⟩ := statistics_canonical tied first second
  exact ⟨first, second, same, listed, lines, order, tallies⟩

end Program

end StackScript
