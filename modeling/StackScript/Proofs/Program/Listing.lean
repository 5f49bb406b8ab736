import Mathlib.Algebra.Group.Nat.Defs
import Mathlib.Data.List.Chain
import StackScript.Program.Listing
import StackScript.Proofs.Text.Lines

/-!
# Programs and their listings

A program is known from its listing. The numbers of cells and instructions stand at the head of
their parts, so the lines of two equal listings belong to the same cells and instructions; a line of
the listing tells its cell by its first character, and its instruction by the name up to the first
space and the operand behind it. A rule is never taken for the line of an instruction, which begins
with a digit.

The marks are right as well: where a line has one, a jump goes there, and the other way round; and
just the marked lines have a rule above them.
-/

namespace StackScript

open Text

/-! ## Cells -/

namespace Cell

theorem singleLine_listed (cell : Cell) : SingleLine cell.listed := by
  cases cell with
  | free | unknown => decide
  | string text => exact singleLine_quoted text
  | integer value => exact singleLine_decimal value.toInt

/-- The first characters of cells in a listing. -/
def Begins (c : Char) : Cell → Prop
  | free | unknown => c = '<'
  | string _ => c = '"'
  | integer _ => c.toNat = 0x2D ∨ 0x30 ≤ c.toNat ∧ c.toNat ≤ 0x39

theorem begins_listed (cell : Cell) : ∃ c, cell.listed.toList.head? = some c ∧ cell.Begins c := by
  cases cell with
  | free | unknown => exact ⟨'<', rfl, rfl⟩
  | string text => exact ⟨'"', by rw [listed, quoted, String.toList_ofList]; rfl, rfl⟩
  | integer value => exact head?_decimal value.toInt

/-- A cell is known from its text in a listing. -/
theorem listed_injective {left right : Cell} (same : left.listed = right.listed) :
    left = right := by
  obtain ⟨c, first, begins⟩ := left.begins_listed
  obtain ⟨d, first', begins'⟩ := right.begins_listed
  obtain rfl : c = d := by rwa [same, first', Option.some.injEq, eq_comm] at first
  cases left <;> cases right <;> simp only [Begins] at begins begins'
  case free.free | unknown.unknown => rfl
  case free.unknown | unknown.free => exact absurd same (by decide)
  case string.string text text' => exact congrArg string (quoted_injective same)
  case integer.integer value value' =>
    exact congrArg integer (Int64.toInt_inj.1 (decimal_injective same))
  all_goals
    first
    | subst begins; exact absurd begins' (by decide)
    | subst begins'; exact absurd begins (by decide)

end Cell

/-! ## Instructions -/

namespace Instruction

theorem singleLine_listed (ip : Nat) (instruction : Instruction) :
    SingleLine (instruction.listed ip) := by
  unfold listed
  cases instruction <;> simp +decide [listedJump, name]

/-- The name of an instruction is its text in a listing up to the first space. -/
theorem takeWhile_listed (ip : Nat) (instruction : Instruction) :
    (instruction.listed ip).toList.takeWhile (· ≠ ' ') = instruction.name.toList := by
  unfold listed
  cases instruction <;> simp [name, String.toList_append]

/-- The offset of a jump is known from its text in a listing. -/
theorem offset_of_listedJump {ip : Nat} {offset offset' : Int32}
    (same : listedJump ip offset = listedJump ip offset') : offset = offset' := by
  have spaced (offset : Int32) : listedJump ip offset =
      signed offset.toInt ++ " " ++
        ("(→ " ++ zeroPadded 4 (ip + offset.toInt) ++ ")") := by
    have split : " (→ " = " " ++ "(→ " := rfl
    simp only [listedJump, split, String.append_assoc]
  rw [spaced, spaced] at same
  exact Int32.toInt_inj.1 (signed_append_inj same).1

/-- An instruction is known from its text in a listing. -/
theorem listed_injective {ip : Nat} {left right : Instruction}
    (same : left.listed ip = right.listed ip) : left = right := by
  have names : left.name = right.name := by
    rw [← String.toList_inj, ← takeWhile_listed ip, same, takeWhile_listed]
  -- Instructions of two names are apart; of one name, only the operand can differ.
  cases left <;> cases right <;> first | rfl | (simp [name] at names; done) | skip
  case push.push slot slot' | input.input slot slot' | getTop.getTop slot slot' =>
    unfold listed at same
    rw [String.append_left_inj, String.append_right_inj] at same
    rw [Int.ofNat_inj.1 (decimal_injective same)]
  case jump.jump offset offset' | jumpIfFalse.jumpIfFalse offset offset' =>
    unfold listed at same
    rw [String.append_right_inj] at same
    rw [offset_of_listedJump same]

/-! ## Entries -/

/-- The line of an entry under its number. -/
def entryLine (marked : Bool) (ip : Nat) (text : String) : String :=
  zeroPadded 4 ip ++ (if marked then " ► " else "   ") ++ text

theorem entry_eq (marked : Bool) (ip : Nat) (text : String) :
    entry marked ip text =
      if marked then [Program.landingRule, entryLine marked ip text]
      else [entryLine marked ip text] :=
  rfl

theorem entryLine_eq (marked : Bool) (ip : Nat) (text : String) :
    entryLine marked ip text =
      zeroPadded 4 ip ++ " " ++ ((if marked then "► " else "  ") ++ text) := by
  have split : (if marked then " ► " else "   ") = " " ++ if marked then "► " else "  " := by
    cases marked <;> rfl
  rw [entryLine, split, String.append_assoc, String.append_assoc, String.append_assoc]

/-- A line tells its number, whether it is marked, and its text. -/
theorem entryLine_inj {marked marked' : Bool} {ip ip' : Nat} {text text' : String} :
    entryLine marked ip text = entryLine marked' ip' text' ↔
      marked = marked' ∧ ip = ip' ∧ text = text' := by
  constructor
  · intro same
    rw [entryLine_eq, entryLine_eq] at same
    obtain ⟨numbers, rests⟩ := zeroPadded_append_inj same
    cases marked <;> cases marked' <;> simp [← String.toList_inj, String.toList_append] at rests
    all_goals exact ⟨rfl, numbers, String.toList_inj.1 rests⟩
  · rintro ⟨rfl, rfl, rfl⟩
    rfl

/-- The line of an entry begins with a digit. -/
theorem begins_entryLine (marked : Bool) (ip : Nat) (text : String) :
    ∃ c, (entryLine marked ip text).toList.head? = some c ∧ c.isDigit = true := by
  have nonempty : (zeroPadded 4 ip).toList ≠ [] := by
    rw [zeroPadded_natCast]
    exact List.append_ne_nil_of_right_ne_nil _ Nat.toDigits_ne_nil
  refine ⟨(zeroPadded 4 ip).toList.head nonempty, ?_, isDigit_of_mem_zeroPadded (List.head_mem _)⟩
  rw [entryLine, String.toList_append, String.toList_append, List.append_assoc,
    List.head?_append_of_ne_nil _ nonempty, List.head?_eq_some_head nonempty]

/-- A line that does not begin with a digit is not the line of an entry. -/
theorem entryLine_ne {row : String}
    (other : ∀ c, row.toList.head? = some c → c.isDigit = false) (marked : Bool) (ip : Nat)
    (text : String) : entryLine marked ip text ≠ row := by
  obtain ⟨c, first, digit⟩ := begins_entryLine marked ip text
  rintro rfl
  rw [other c first] at digit
  exact Bool.false_ne_true digit

theorem landingRule_ne (marked : Bool) (ip : Nat) (text : String) :
    entryLine marked ip text ≠ Program.landingRule := by
  refine entryLine_ne (fun c first => ?_) marked ip text
  rw [Program.landingRule, String.toList_append] at first
  cases first
  rfl

theorem entryLine_mem_entry {marked marked' : Bool} {ip ip' : Nat} {text text' : String} :
    entryLine marked ip text ∈ entry marked' ip' text' ↔
      marked = marked' ∧ ip = ip' ∧ text = text' := by
  rw [entry_eq]
  cases marked' <;> simp [landingRule_ne, entryLine_inj]

/-- What is behind an entry is known together with the entry. -/
theorem entry_append_inj {marked marked' : Bool} {ip : Nat} {text text' : String}
    {rest rest' : List String}
    (same : entry marked ip text ++ rest = entry marked' ip text' ++ rest') :
    text = text' ∧ rest = rest' := by
  rw [entry_eq, entry_eq] at same
  cases marked <;> cases marked' <;>
    simp only [if_true, Bool.false_eq_true, if_false, List.cons_append, List.nil_append,
      List.cons.injEq] at same
  case false.false => exact ⟨(entryLine_inj.1 same.1).2.2, same.2⟩
  case true.true => exact ⟨(entryLine_inj.1 same.2.1).2.2, same.2.2⟩
  case false.true => exact absurd same.1 (landingRule_ne _ _ _)
  case true.false => exact absurd same.1.symm (landingRule_ne _ _ _)

theorem singleLine_of_mem_entry {marked : Bool} {ip : Nat} {text row : String}
    (single : SingleLine text) (member : row ∈ entry marked ip text) : SingleLine row := by
  have rule : SingleLine Program.landingRule :=
    singleLine_append.2 ⟨by decide, singleLine_repeated (by decide)⟩
  have line : SingleLine (entryLine marked ip text) := by
    cases marked <;> simp +decide [entryLine, single]
  rw [entry_eq] at member
  cases marked with
  | false => exact List.mem_singleton.1 member ▸ line
  | true =>
      rcases List.mem_pair.1 member with rfl | rfl
      · exact rule
      · exact line

/-! ## The lines of instructions -/

theorem singleLine_of_mem_rows {targets : List Nat} {code : List Instruction} {ip : Nat}
    {row : String} (member : row ∈ rows targets ip code) : SingleLine row := by
  induction code generalizing ip with
  | nil =>
      rw [rows] at member
      split at member
      · exact singleLine_of_mem_entry (by decide) member
      · contradiction
  | cons instruction rest induction =>
      rw [rows, List.mem_append] at member
      rcases member with here | later
      · exact singleLine_of_mem_entry (instruction.singleLine_listed ip) here
      · exact induction later

/-- As many instructions are known from their lines, whatever places are marked. -/
theorem rows_injective {targets targets' : List Nat} {left right : List Instruction} {ip : Nat}
    (length : left.length = right.length) (same : rows targets ip left = rows targets' ip right) :
    left = right := by
  induction left generalizing right ip with
  | nil => rw [List.eq_nil_of_length_eq_zero length.symm]
  | cons first left induction =>
      cases right with
      | nil => contradiction
      | cons first' right =>
          rw [rows, rows] at same
          obtain ⟨texts, others⟩ := entry_append_inj same
          rw [listed_injective texts, induction (Nat.succ.inj length) others]

/-- The lines of the places from a number on: an instruction has one, which is marked if the place
is among those that are to be marked, and the end has one if it is among them. -/
theorem entryLine_mem_rows {targets : List Nat} {code : List Instruction} {start ip : Nat}
    {marked : Bool} {text : String} :
    entryLine marked ip text ∈ rows targets start code ↔
      (marked = true ↔ ip ∈ targets) ∧ ∃ place, ip = start + place ∧
        ((∃ instruction, code[place]? = some instruction ∧ text = instruction.listed ip) ∨
          marked = true ∧ place = code.length ∧ text = "END") := by
  induction code generalizing start with
  | nil =>
      have last : entryLine marked ip text ∈ rows targets start [] ↔
          start ∈ targets ∧ marked = true ∧ ip = start ∧ text = "END" := by
        rw [rows]
        split <;> simp_all [entryLine_mem_entry]
      rw [last]
      constructor
      · rintro ⟨target, rfl, rfl, rfl⟩
        exact ⟨by simp [target], 0, rfl, .inr ⟨rfl, rfl, rfl⟩⟩
      · rintro ⟨marks, place, number, ⟨_, absent, -⟩ | ⟨rfl, rfl, rfl⟩⟩
        · contradiction
        · obtain rfl : ip = start := number
          exact ⟨marks.1 rfl, rfl, rfl, rfl⟩
  | cons instruction rest induction =>
      rw [rows, List.mem_append, entryLine_mem_entry, induction]
      constructor
      · rintro (⟨rfl, rfl, rfl⟩ | ⟨marks, place, number, shown⟩)
        · exact ⟨by simp, 0, rfl, .inl ⟨instruction, rfl, rfl⟩⟩
        · exact ⟨marks, place + 1, by omega, by simpa using shown⟩
      · rintro ⟨marks, place, number, shown⟩
        cases place with
        | zero =>
            obtain rfl : ip = start := number
            rcases shown with ⟨_, here, rfl⟩ | ⟨-, impossible, -⟩
            · cases here
              exact .inl ⟨Bool.eq_iff_iff.2 (by simpa using marks), rfl, rfl⟩
            · contradiction
        | succ place => exact .inr ⟨marks, place, by omega, by simpa using shown⟩

/-! ## Rules -/

/-- A line is that of a marked entry. -/
def Marks (row : String) : Prop :=
  ∃ ip text, row = entryLine true ip text

/-- A line stands above another one as it should: the rule above a marked line, and no rule above
any other one. -/
def Rules (above row : String) : Prop :=
  above = Program.landingRule ↔ Marks row

theorem not_marks_landingRule : ¬Marks Program.landingRule := by
  rintro ⟨ip, text, same⟩
  exact landingRule_ne true ip text same.symm

/-- An entry does not begin with its marked line. -/
theorem not_marks_of_mem_head?_entry {marked : Bool} {ip : Nat} {text row : String}
    (first : row ∈ (entry marked ip text).head?) : ¬Marks row := by
  cases marked with
  | false =>
      obtain rfl : entryLine false ip text = row := Option.some.inj first
      rintro ⟨ip', text', same⟩
      exact Bool.false_ne_true (entryLine_inj.1 same).1
  | true =>
      obtain rfl : Program.landingRule = row := Option.some.inj first
      exact not_marks_landingRule

/-- An entry does not end with a rule. -/
theorem ne_landingRule_of_mem_getLast?_entry {marked : Bool} {ip : Nat} {text row : String}
    (last : row ∈ (entry marked ip text).getLast?) : row ≠ Program.landingRule := by
  have shape : (entry marked ip text).getLast? = some (entryLine marked ip text) := by
    cases marked <;> rfl
  rw [shape] at last
  obtain rfl := Option.some.inj last
  exact landingRule_ne marked ip text

theorem isChain_entry (marked : Bool) (ip : Nat) (text : String) :
    (entry marked ip text).IsChain Rules := by
  cases marked with
  | false => exact List.isChain_singleton _
  | true => exact List.isChain_pair.2 (iff_of_true rfl ⟨ip, text, rfl⟩)

variable {targets : List Nat} {code : List Instruction} {ip : Nat} {row : String}

theorem not_marks_of_mem_head?_rows (first : row ∈ (rows targets ip code).head?) :
    ¬Marks row := by
  cases code with
  | nil =>
      rw [rows] at first
      split at first
      · exact not_marks_of_mem_head?_entry first
      · contradiction
  | cons instruction rest =>
      have shape : entry (targets.contains ip) ip (instruction.listed ip) ≠ [] := by
        cases targets.contains ip <;> exact List.cons_ne_nil _ _
      rw [rows, List.head?_append_of_ne_nil _ shape] at first
      exact not_marks_of_mem_head?_entry first

theorem ne_landingRule_of_mem_getLast?_rows (last : row ∈ (rows targets ip code).getLast?) :
    row ≠ Program.landingRule := by
  induction code generalizing ip with
  | nil =>
      rw [rows] at last
      split at last
      · exact ne_landingRule_of_mem_getLast?_entry last
      · contradiction
  | cons instruction rest induction =>
      rw [rows, List.getLast?_append, Option.mem_def, Option.or_eq_some_iff] at last
      rcases last with later | ⟨-, here⟩
      · exact induction later
      · exact ne_landingRule_of_mem_getLast?_entry here

/-- Rules stand above the marked lines and no others. -/
theorem isChain_rows : (rows targets ip code).IsChain Rules := by
  induction code generalizing ip with
  | nil =>
      rw [rows]
      split
      · exact isChain_entry _ _ _
      · exact List.isChain_nil
  | cons instruction rest induction =>
      rw [rows]
      refine (isChain_entry _ _ _).append induction fun above last row first => ?_
      exact iff_of_false (ne_landingRule_of_mem_getLast?_entry last)
        (not_marks_of_mem_head?_rows first)

/-! ## Destinations -/

/-- A jump among instructions goes to a place. -/
def LandsAt (code : List Instruction) (ip : Nat) : Prop :=
  ∃ (place : Nat) (instruction : Instruction) (offset : Int32), code[place]? = some instruction ∧
    instruction.offset? = some offset ∧ (place : Int) + offset.toInt = ip

/-- The cast to an unsigned word adds no destinations: a list in memory has fewer than `2 ^ 63`
items, and a place in front of the first instruction comes to stand behind them all. -/
theorem destination_eq_iff {place ip : Nat} {offset : Int32} (here : place < 2 ^ 63)
    (there : ip ≤ 2 ^ 63) : destination place offset = ip ↔ (place : Int) + offset.toInt = ip := by
  have low := offset.le_toInt
  have high := offset.toInt_lt
  unfold destination UInt64.size
  omega

theorem mem_destinations {code : List Instruction} {ip : Nat} (fits : code.length < 2 ^ 63)
    (inside : ip ≤ code.length) : ip ∈ destinations code ↔ LandsAt code ip := by
  rw [destinations, List.mem_filterMap]
  constructor
  · rintro ⟨⟨instruction, place⟩, member, goes⟩
    obtain ⟨offset, jumps, lands⟩ := Option.map_eq_some_iff.1 goes
    have at_place := List.mem_zipIdx_iff_getElem?.1 member
    have place_lt := (List.getElem?_eq_some_iff.1 at_place).1
    exact ⟨place, instruction, offset, at_place, jumps,
      (destination_eq_iff (by omega) (by omega)).1 lands⟩
  · rintro ⟨place, instruction, offset, at_place, jumps, lands⟩
    have place_lt := (List.getElem?_eq_some_iff.1 at_place).1
    exact ⟨(instruction, place), List.mem_zipIdx_iff_getElem?.2 at_place,
      Option.map_eq_some_iff.2 ⟨offset, jumps,
        (destination_eq_iff (by omega) (by omega)).2 lands⟩⟩

end Instruction

/-! ## Listings -/

namespace Program

/-- The lines of the head of a listing, in front of those of instructions. -/
def headRows (program : Program) : List String :=
  [headingRule, " cells (" ++ decimal program.cells.length ++ ")", headingRule]
    ++ (program.cells.zipIdx.map fun (cell, slot) => cellRow cell slot)
    ++ ["", headingRule, " main", " " ++ decimal program.code.length ++ " instructions",
      headingRule]

theorem listing_eq (program : Program) :
    program.listing = lines (program.headRows ++
      Instruction.rows (Instruction.destinations program.code) 0 program.code) := by
  simp only [listing, headRows, List.append_assoc]

theorem singleLine_headingRule : SingleLine headingRule :=
  singleLine_repeated (by decide)

theorem singleLine_cellRow (cell : Cell) (slot : Nat) : SingleLine (cellRow cell slot) := by
  simp +decide [cellRow, cell.singleLine_listed]

theorem singleLine_of_mem_headRows {program : Program} {row : String}
    (member : row ∈ program.headRows) : SingleLine row := by
  have single : ∀ row ∈ program.headRows, SingleLine row := by
    simp only [headRows, List.forall_mem_append, List.forall_mem_cons, List.forall_mem_map,
      singleLine_headingRule, singleLine_cellRow]
    simp +decide
  exact single row member

theorem splitLines_listing (program : Program) :
    splitLines program.listing = program.headRows ++
      Instruction.rows (Instruction.destinations program.code) 0 program.code ++ [""] := by
  rw [listing_eq, splitLines_lines]
  intro row member
  rcases List.mem_append.1 member with head | line
  · exact singleLine_of_mem_headRows head
  · exact Instruction.singleLine_of_mem_rows line

/-- As many cells are known from their lines. -/
theorem cellRows_injective {left right : List Cell} {start : Nat}
    (same : ((left.zipIdx start).map fun (cell, slot) => cellRow cell slot) =
      (right.zipIdx start).map fun (cell, slot) => cellRow cell slot) : left = right := by
  induction left generalizing right start with
  | nil => cases right <;> simp_all
  | cons cell left induction =>
      cases right with
      | nil => contradiction
      | cons cell' right =>
          simp only [List.zipIdx_cons, List.map_cons, List.cons.injEq] at same
          rw [cellRow, cellRow, String.append_right_inj] at same
          rw [Cell.listed_injective same.1, induction same.2]

/-- A program is known from the lines of its listing. -/
theorem rows_listing_injective {p q : Program} {targets targets' : List Nat}
    (same : p.headRows ++ Instruction.rows targets 0 p.code =
      q.headRows ++ Instruction.rows targets' 0 q.code) : p = q := by
  simp only [headRows, List.append_assoc, List.cons_append, List.nil_append, List.cons.injEq,
    true_and, String.append_left_inj, String.append_right_inj] at same
  obtain ⟨cellCounts, same⟩ := same
  have cells : p.cells.length = q.cells.length := Int.ofNat_inj.1 (decimal_injective cellCounts)
  obtain ⟨cellRows, same⟩ := List.append_inj same (by simp [cells])
  simp only [List.cons.injEq, true_and, String.append_left_inj, String.append_right_inj] at same
  obtain ⟨counts, same⟩ := same
  have code : p.code.length = q.code.length := Int.ofNat_inj.1 (decimal_injective counts)
  exact congrArg₂ Program.mk (Instruction.rows_injective code same) (cellRows_injective cellRows)

/-- No line of the head is taken for the line of an instruction. -/
theorem entryLine_notMem_headRows {program : Program} {marked : Bool} {ip : Nat} {text : String} :
    Instruction.entryLine marked ip text ∉ program.headRows := by
  have other : ∀ row ∈ program.headRows, ∀ c, row.toList.head? = some c → c.isDigit = false := by
    have rule : headingRule.toList.head? = some '═' := by
      rw [headingRule, repeated, String.toList_ofList, List.head?_replicate]
      rfl
    simp only [headRows, List.forall_mem_append, List.forall_mem_cons, List.forall_mem_map, rule]
    simp [cellRow]
  exact fun member => Instruction.entryLine_ne (other _ member) marked ip text rfl

theorem landingRule_notMem_headRows {program : Program} : landingRule ∉ program.headRows := by
  have other : ∀ row ∈ program.headRows, row.toList.take 3 ≠ landingRule.toList.take 3 := by
    have rule : landingRule.toList.take 3 = [' ', ' ', ' '] := by
      rw [landingRule, String.toList_append]
      rfl
    have heading : headingRule.toList.take 3 = ['═', '═', '═'] := by
      rw [headingRule, repeated, String.toList_ofList, List.take_replicate]
      rfl
    obtain ⟨c, first, written⟩ := head?_decimal program.code.length
    obtain ⟨rest, shape⟩ := List.head?_eq_some_iff.1 first
    have blank : c ≠ ' ' := by
      rintro rfl
      exact absurd written (by decide)
    simp only [headRows, List.forall_mem_append, List.forall_mem_cons, List.forall_mem_map, rule,
      heading]
    simp [cellRow, shape, blank]
  exact fun member => other _ member rfl

/-- In a listing, rules stand above the marked lines and no others. -/
theorem isChain_listing (program : Program) :
    (splitLines program.listing).IsChain Instruction.Rules := by
  have unmarked {row : String} (member : row ∈ program.headRows) : ¬Instruction.Marks row := by
    rintro ⟨ip, text, rfl⟩
    exact entryLine_notMem_headRows member
  have unruled {row : String} (member : row ∈ program.headRows) : row ≠ landingRule := by
    rintro rfl
    exact landingRule_notMem_headRows member
  have heads : program.headRows.IsChain Instruction.Rules :=
    (List.pairwise_of_forall_mem_list fun _ above _ below =>
      iff_of_false (unruled above) (unmarked below)).isChain
  rw [splitLines_listing]
  refine (heads.append Instruction.isChain_rows fun above last row first => ?_).append
    (List.isChain_singleton _) fun above last row first => ?_
  · exact iff_of_false (unruled (List.mem_of_getLast? last))
      (Instruction.not_marks_of_mem_head?_rows first)
  · have blank : ¬Instruction.Marks row := by
      obtain rfl : "" = row := Option.some.inj first
      rintro ⟨ip, text, same⟩
      exact Instruction.entryLine_ne (by simp) true ip text same.symm
    refine iff_of_false ?_ blank
    rw [List.getLast?_append, Option.mem_def, Option.or_eq_some_iff] at last
    rcases last with later | ⟨-, here⟩
    · exact Instruction.ne_landingRule_of_mem_getLast?_rows later
    · exact unruled (List.mem_of_getLast? here)

/-- The listing is faithful. A program is known from it; and the lines of a program in memory are
those of its instructions, each under its number, with one for the end if that is marked. The marked
ones are those that jumps go to, and rules stand above these and no others. -/
theorem listing_faithful :
    (∀ p q : Program, p.listing = q.listing → p = q) ∧
    (∀ program : Program, program.code.length < 2 ^ 63 →
      ∀ (marked : Bool) (ip : Nat) (text : String),
        Instruction.entryLine marked ip text ∈ splitLines program.listing ↔
          (marked = true ↔ Instruction.LandsAt program.code ip) ∧
            ((∃ instruction, program.code[ip]? = some instruction ∧
                text = instruction.listed ip) ∨
              marked = true ∧ ip = program.code.length ∧ text = "END")) ∧
    ∀ program : Program, (splitLines program.listing).IsChain Instruction.Rules := by
  refine ⟨fun p q same => ?_, fun program fits marked ip text => ?_, isChain_listing⟩
  · have rows := congrArg splitLines same
    rw [splitLines_listing, splitLines_listing] at rows
    exact rows_listing_injective (List.append_cancel_right rows)
  · have last : Instruction.entryLine marked ip text ≠ "" :=
      Instruction.entryLine_ne (by simp) marked ip text
    rw [splitLines_listing, List.mem_append, List.mem_append, Instruction.entryLine_mem_rows]
    simp only [entryLine_notMem_headRows, List.mem_singleton, last, false_or, or_false,
      Nat.zero_add, exists_eq_left']
    refine and_congr_left fun shown => ?_
    have inside : ip ≤ program.code.length := by
      rcases shown with ⟨_, here, -⟩ | ⟨-, rfl, -⟩
      · exact (List.getElem?_eq_some_iff.1 here).1.le
      · exact le_rfl
    rw [Instruction.mem_destinations fits inside]

/-- A program with a jump to the end, one back, and one to a place in front of the first
instruction. -/
def threeWays : Program :=
  ⟨[.jumpIfFalse 3, .jump (-1), .jump (-7)], [.string "1"]⟩

theorem listing_faithful_threeWays :
    threeWays.listing ≠ (⟨threeWays.code, [.integer 1]⟩ : Program).listing ∧
    Instruction.entryLine true 0 "JMPF        +3 (→ 0003)" ∈ splitLines threeWays.listing ∧
    Instruction.entryLine true 1 "JMP         -1 (→ 0000)" ∉ splitLines threeWays.listing ∧
    Instruction.entryLine true 3 "END" ∈ splitLines threeWays.listing := by
  have lines := listing_faithful.2.1 threeWays (by decide)
  refine ⟨fun same => absurd (listing_faithful.1 _ _ same) (by decide), (lines _ _ _).2 ?_,
    fun member => ?_, (lines _ _ _).2 ?_⟩
  · exact ⟨iff_of_true rfl ⟨1, _, _, rfl, rfl, by decide⟩, .inl ⟨_, rfl, by decide⟩⟩
  · obtain ⟨place, instruction, offset, here, jumps, lands⟩ := ((lines _ _ _).1 member).1.1 rfl
    match place with
    | 0 | 1 | 2 => cases here; cases jumps; exact absurd lands (by decide)
    | _ + 3 => simp [threeWays] at here
  · exact ⟨iff_of_true rfl ⟨0, _, _, rfl, rfl, by decide⟩, .inr ⟨rfl, rfl, rfl⟩⟩

end Program

end StackScript
