import Mathlib.Data.List.Basic
import StackScript.Proofs.Text.LeadingInteger
import StackScript.Proofs.Text.Quoted
import StackScript.Text.Column

/-!
# Lines of text

Lines without line feeds are found again in the text that they make up. What is written into a line
never holds a line feed: numbers are made of digits and signs, and quoted text is escaped. A number
ends where its digits do, so that it is known from a line that goes on with another character; and a
word ends at the next blank, so that words are found again in columns of any width.
-/

namespace StackScript.Text

/-- The parts of a text between its line feeds; the last one is behind the last line feed. -/
def splitLines (text : String) : List String :=
  (text.toList.splitOn '\n').map String.ofList

/-- A text without line feeds. -/
def SingleLine (text : String) : Prop :=
  '\n' ∉ text.toList

instance (text : String) : Decidable (SingleLine text) :=
  inferInstanceAs (Decidable (¬ _))

/-! ## Splitting -/

/-- Lines are found again in the text that they make up, with nothing behind the last one. -/
theorem splitLines_lines {rows : List String} (single : ∀ row ∈ rows, SingleLine row) :
    splitLines (lines rows) = rows ++ [""] := by
  induction rows with
  | nil => rfl
  | cons row rows induction =>
      have first : ∀ c ∈ row.toList, (c == '\n') = false := by
        intro c member
        rw [beq_eq_false_iff_ne]
        rintro rfl
        exact single row List.mem_cons_self member
      have text : (lines (row :: rows)).toList = row.toList ++ '\n' :: (lines rows).toList := by
        simp [lines, String.join_cons, String.toList_append]
      have others := induction fun other member => single other (List.mem_cons_of_mem _ member)
      rw [splitLines, List.splitOn] at others ⊢
      rw [text, List.splitOnP_append_cons_of_forall_mem first '\n' (beq_self_eq_true _),
        List.map_cons, others, String.ofList_toList, List.cons_append]

/-! ## Single lines -/

@[simp] theorem singleLine_append {left right : String} :
    SingleLine (left ++ right) ↔ SingleLine left ∧ SingleLine right := by
  simp [SingleLine]

theorem lineFeed_notMem_digits (n : Nat) : '\n' ∉ digits n :=
  fun member => absurd (isDigit_of_mem_digits member) (by decide)

theorem notMem_decimal {c : Char} (other : c.isDigit = false) (sign : c ≠ '-') (n : Int) :
    c ∉ (decimal n).toList := by
  have digit : c ∉ digits n.natAbs := fun member => by
    rw [isDigit_of_mem_digits member] at other
    contradiction
  unfold decimal
  split <;> simp [digit, sign]

@[simp] theorem singleLine_decimal (n : Int) : SingleLine (decimal n) :=
  notMem_decimal rfl (by decide) n

@[simp] theorem singleLine_signed (n : Int) : SingleLine (signed n) := by
  unfold SingleLine signed
  split <;> simp [lineFeed_notMem_digits]

@[simp] theorem singleLine_zeroPadded (width : Nat) (n : Int) :
    SingleLine (zeroPadded width n) := by
  unfold SingleLine zeroPadded
  split <;> simp [lineFeed_notMem_digits]

@[simp] theorem singleLine_repeated {count : Nat} {c : Char} (other : c ≠ '\n') :
    SingleLine (repeated count c) := by
  simp [SingleLine, repeated, other.symm]

@[simp] theorem singleLine_leftAligned {width : Nat} {text : String} :
    SingleLine (leftAligned width text) ↔ SingleLine text := by
  simp [SingleLine, leftAligned]

@[simp] theorem singleLine_rightAligned {width : Nat} {text : String} :
    SingleLine (rightAligned width text) ↔ SingleLine text := by
  simp [SingleLine, rightAligned]

theorem lineFeed_notMem_escape (c : Char) : '\n' ∉ escape c := by
  unfold escape
  split
  case h_7 _ _ lineFeed _ _ _ =>
    split
    · simpa using Ne.symm lineFeed
    · have code : '\n' ∉ hexDigits c.toNat := notMem_hexDigits (by decide) _
      simp [code]
  all_goals decide

@[simp] theorem singleLine_quoted (text : String) : SingleLine (quoted text) := by
  simp [SingleLine, quoted, lineFeed_notMem_escape]

/-! ## Numbers in a line -/

/-- Digits in front of other text end where the other text begins. -/
theorem digits_append_inj {front back rest rest' : List Char}
    (decimal : ∀ c ∈ front, c.isDigit = true) (decimal' : ∀ c ∈ back, c.isDigit = true)
    (other : ∀ c, rest.head? = some c → c.isDigit = false)
    (other' : ∀ c, rest'.head? = some c → c.isDigit = false)
    (same : front ++ rest = back ++ rest') : front = back ∧ rest = rest' := by
  have numbers : front = back := by
    rw [← takeWhile_isDigit_append decimal other, same, takeWhile_isDigit_append decimal' other']
  rw [numbers] at same
  exact ⟨numbers, List.append_cancel_left same⟩

/-- A number with its sign is known from a line that goes on behind it with a space. -/
theorem signed_append_inj {m n : Int} {rest rest' : String}
    (same : signed m ++ " " ++ rest = signed n ++ " " ++ rest') : m = n ∧ rest = rest' := by
  have texts := congrArg String.toList same
  simp only [signed, String.toList_append, String.toList_ofList, List.cons_append] at texts
  obtain ⟨signs, texts⟩ := List.cons.inj texts
  rw [List.append_assoc, List.append_assoc] at texts
  obtain ⟨magnitudes, rests⟩ := digits_append_inj (fun _ => isDigit_of_mem_digits)
    (fun _ => isDigit_of_mem_digits) (by simp) (by simp) texts
  have natAbs := digits_injective magnitudes
  refine ⟨?_, ?_⟩
  · split at signs <;> split at signs <;> first | omega | contradiction
  · simpa [String.toList_inj] using rests

/-- A natural number with zeros in front of it. -/
theorem zeroPadded_natCast (width n : Nat) :
    (zeroPadded width n).toList =
      List.replicate (width - (digits n).length) '0' ++ digits n := by
  have natural : ¬ (n : Int) < 0 := Int.not_lt.2 (Int.natCast_nonneg n)
  simp [zeroPadded, natural]

theorem isDigit_of_mem_zeroPadded {width n : Nat} {c : Char}
    (member : c ∈ (zeroPadded width n).toList) : c.isDigit = true := by
  rw [zeroPadded_natCast, List.mem_append, List.mem_replicate] at member
  rcases member with ⟨-, rfl⟩ | member
  · rfl
  · exact isDigit_of_mem_digits member

/-- A natural number with zeros in front of it is known from a line that goes on behind it with a
space. -/
theorem zeroPadded_append_inj {width m n : Nat} {rest rest' : String}
    (same : zeroPadded width m ++ " " ++ rest = zeroPadded width n ++ " " ++ rest') :
    m = n ∧ rest = rest' := by
  have texts := congrArg String.toList same
  simp only [String.toList_append, List.append_assoc] at texts
  obtain ⟨numbers, rests⟩ := digits_append_inj (fun _ => isDigit_of_mem_zeroPadded)
    (fun _ => isDigit_of_mem_zeroPadded) (by simp) (by simp) texts
  refine ⟨?_, by simpa [String.toList_inj] using rests⟩
  have read (k : Nat) : Nat.ofDigitChars 10 (zeroPadded width k).toList 0 = k := by
    rw [zeroPadded_natCast, Nat.ofDigitChars_append, Nat.ofDigitChars_replicate_zero, Nat.mul_zero,
      ofDigitChars_digits]
  rw [← read m, numbers, read n]

/-! ## Words in a line -/

/-- The words of a text, which blanks set apart. -/
def words (text : String) : List String :=
  ((text.toList.splitOn ' ').filter (· ≠ [])).map String.ofList

/-- Text that makes up one word: there is some, and no blank in it. -/
def Unbroken (text : String) : Prop :=
  text ≠ "" ∧ ' ' ∉ text.toList

instance (text : String) : Decidable (Unbroken text) :=
  inferInstanceAs (Decidable (_ ∧ _))

/-- Blanks in front of a text add no word. -/
theorem words_blanks (count : Nat) (rest : String) :
    words (repeated count ' ' ++ rest) = words rest := by
  induction count with
  | zero => simp [repeated]
  | succ count induction =>
      have split := List.splitOnP_append_cons_of_forall_mem (p := (· == ' '))
        (List.forall_mem_nil _) ' ' (beq_self_eq_true _)
        (List.replicate count ' ' ++ rest.toList)
      rw [← induction]
      simp only [words, repeated, List.splitOn, String.toList_append, String.toList_ofList,
        List.replicate_succ, List.cons_append, List.nil_append] at split ⊢
      rw [split]
      simp

/-- A word in front of a blank is the first one. -/
theorem words_cons {word : String} (unbroken : Unbroken word) (rest : String) :
    words (word ++ " " ++ rest) = word :: words rest := by
  have blankless : ∀ c ∈ word.toList, (c == ' ') = false := by
    intro c member
    rw [beq_eq_false_iff_ne]
    rintro rfl
    exact unbroken.2 member
  have split :=
    List.splitOnP_append_cons_of_forall_mem blankless ' ' (beq_self_eq_true _) rest.toList
  have text : (word ++ " " ++ rest).toList = word.toList ++ ' ' :: rest.toList := by
    simp [String.toList_append]
  have written : word.toList ≠ [] := fun nothing =>
    unbroken.1 (String.toList_eq_nil_iff.1 nothing)
  rw [words, List.splitOn, text, split, List.filter_cons_of_pos (by simpa using written),
    List.map_cons, String.ofList_toList]
  rfl

theorem repeated_append_blank (count : Nat) :
    repeated count ' ' ++ " " = " " ++ repeated count ' ' := by
  rw [← String.toList_inj]
  simp [repeated, ← List.replicate_succ, ← List.replicate_succ']

/-- A word at the left of a column is the first one of its line. -/
theorem words_leftAligned {word : String} (unbroken : Unbroken word) (width : Nat)
    (rest : String) : words (leftAligned width word ++ " " ++ rest) = word :: words rest := by
  have moved : leftAligned width word ++ " " =
      word ++ " " ++ repeated (width - word.length) ' ' :=
    calc
      leftAligned width word ++ " " = word ++ (repeated (width - word.length) ' ' ++ " ") :=
        String.append_assoc
      _ = word ++ " " ++ repeated (width - word.length) ' ' := by
        rw [repeated_append_blank, String.append_assoc]
  rw [moved, String.append_assoc, words_cons unbroken, words_blanks]

/-- A word at the right of a column is the first one of its line. -/
theorem words_rightAligned {word : String} (unbroken : Unbroken word) (width : Nat)
    (rest : String) : words (rightAligned width word ++ " " ++ rest) = word :: words rest := by
  have blanks := words_blanks (width - word.length) (word ++ " " ++ rest)
  rw [words_cons unbroken, repeated] at blanks
  simpa only [rightAligned, String.append_assoc] using blanks

theorem unbroken_decimal (n : Int) : Unbroken (decimal n) := by
  refine ⟨?_, notMem_decimal rfl (by decide) n⟩
  have digits : digits n.natAbs ≠ [] := Nat.toDigits_ne_nil
  unfold decimal
  split <;> simp [digits]

end StackScript.Text
