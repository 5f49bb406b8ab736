import Mathlib.Algebra.Group.Int.Defs
import Mathlib.Data.List.TakeWhile
import StackScript.Proofs.Token.Names
import StackScript.Text.LeadingInteger

/-!
# Numbers of any size at the start of a text

The digits that a text starts with denote a number of any size. What is read is that number, or the
end of the range on its side. Digit by digit a number only moves away from zero, so that keeping to
the range at each digit, twice even, comes to the same as doing it once behind the last one. The
decimal text of an integer in the range is read as that integer.
-/

namespace StackScript.Text

/-- The integer in the range of 64 bits that is nearest to an integer. -/
def clamped (n : Int) : Int :=
  max (-2 ^ 63) (min (2 ^ 63 - 1) n)

/-- A number with a sign. -/
def withSign (negative : Bool) (magnitude : Nat) : Int :=
  if negative then -magnitude else magnitude

/-- The number that a text starts with: behind white space and one sign, as many digits as there
are. -/
def leadingNumber (text : List Char) : Int :=
  let body := text.dropWhile isBlank
  let unsigned := if body.head? = some '-' ∨ body.head? = some '+' then body.tail else body
  withSign (body.head? = some '-') (Nat.ofDigitChars 10 (unsigned.takeWhile Char.isDigit) 0)

/-! ## The range -/

theorem toInt_nearestWord (n : Int) : (nearestWord n).toInt = clamped n := by
  have low : Int64.minValue.toInt = -2 ^ 63 := Int64.toInt_minValue
  have high : Int64.maxValue.toInt = 2 ^ 63 - 1 := Int64.toInt_maxValue
  unfold nearestWord clamped
  split
  next below =>
    rw [low] at below ⊢
    omega
  split
  next above =>
    rw [high] at above ⊢
    omega
  next notBelow notAbove =>
    rw [low] at notBelow
    rw [high] at notAbove
    rw [Int64.toInt_ofInt_of_le (by omega) (by omega)]
    omega

theorem clamped_toInt (value : Int64) : clamped value.toInt = value.toInt := by
  have low := value.le_toInt
  have high := value.toInt_lt
  unfold clamped
  omega

/-- The value of a digit. -/
theorem toNat_of_isDigit {digit : Char} (decimal : digit.isDigit = true) :
    48 ≤ digit.toNat ∧ digit.toNat ≤ 57 := by
  simp only [Char.isDigit, Bool.and_eq_true, decide_eq_true_eq, ge_iff_le,
    UInt32.le_iff_toNat_le] at decimal
  exact decimal

/-- A digit behind a number that has been kept to the range gives what it gives behind the number
itself, kept to the range. -/
theorem toInt_appendDigit {negative : Bool} {value : Int64} {magnitude : Nat} {digit : Char}
    (decimal : digit.isDigit = true) (kept : value.toInt = clamped (withSign negative magnitude)) :
    (appendDigit negative value digit).toInt =
      clamped (withSign negative (10 * magnitude + (digit.toNat - '0'.toNat))) := by
  obtain ⟨low, high⟩ := toNat_of_isDigit decimal
  have zero : '0'.toNat = 48 := rfl
  simp only [appendDigit, toInt_nearestWord, kept, zero]
  cases negative with
  | false =>
      simp only [withSign, clamped, Bool.false_eq_true, if_false]
      omega
  | true =>
      simp only [withSign, clamped, if_true]
      omega

/-- Digits behind a number that has been kept to the range give what they give behind the number
itself, kept to the range. -/
theorem toInt_foldl_appendDigit {negative : Bool} {value : Int64} {magnitude : Nat}
    {digits : List Char} (decimal : ∀ digit ∈ digits, digit.isDigit = true)
    (kept : value.toInt = clamped (withSign negative magnitude)) :
    (digits.foldl (appendDigit negative) value).toInt =
      clamped (withSign negative (Nat.ofDigitChars 10 digits magnitude)) := by
  induction digits generalizing value magnitude with
  | nil => exact kept
  | cons digit digits induction =>
      rw [List.foldl_cons, Nat.ofDigitChars_cons]
      exact induction (fun other member => decimal other (List.mem_cons_of_mem _ member))
        (toInt_appendDigit (decimal digit List.mem_cons_self) kept)

/-! ## Signs -/

/-- The sign in front of a number is its first character, if that is a sign. -/
theorem splitSign_eq (body : List Char) :
    splitSign body =
      (decide (body.head? = some '-'),
        if body.head? = some '-' ∨ body.head? = some '+' then body.tail else body) := by
  unfold splitSign
  split
  · rfl
  · rfl
  next minus plus =>
    cases body with
    | nil => rfl
    | cons c rest =>
        have notMinus : c ≠ '-' := fun same => minus rest (same ▸ rfl)
        have notPlus : c ≠ '+' := fun same => plus rest (same ▸ rfl)
        simp [notMinus, notPlus]

/-- What is read is the number that a text starts with, kept to the range. -/
theorem toInt_leadingInteger (text : String) :
    (leadingInteger text).toInt = clamped (leadingNumber text.toList) := by
  have nothing (negative : Bool) : Int64.toInt 0 = clamped (withSign negative 0) := by
    cases negative <;> rfl
  simp only [leadingInteger, leadingNumber, trimLeft, splitSign_eq]
  exact toInt_foldl_appendDigit (fun _ member => List.mem_takeWhile_imp member) (nothing _)

/-! ## Decimal texts -/

/-- White space is neither a digit nor a minus sign. -/
theorem isBlank_eq_false {c : Char} (written : c.toNat = 0x2D ∨ 0x30 ≤ c.toNat ∧ c.toNat ≤ 0x39) :
    isBlank c = false := by
  rw [Bool.eq_false_iff]
  intro blank
  obtain ⟨range, member, low, high⟩ := Ranges.contains_iff.1 blank
  have apart : ∀ range ∈ blankRanges, range.2 < 0x2D ∨ 0x39 < range.1 := by decide
  have := apart range member
  omega

/-- Digits are read up to where other text begins. -/
theorem takeWhile_isDigit_append {decimals suffix : List Char}
    (decimal : ∀ c ∈ decimals, c.isDigit = true)
    (other : ∀ c, suffix.head? = some c → c.isDigit = false) :
    (decimals ++ suffix).takeWhile Char.isDigit = decimals := by
  have none : suffix.takeWhile Char.isDigit = [] := by
    cases suffix with
    | nil => rfl
    | cons c rest => rw [List.takeWhile_cons_of_neg (by simp [other c rfl])]
  rw [List.takeWhile_append_of_pos decimal, none, List.append_nil]

/-- A text that starts with the decimal text of an integer and goes on without a digit starts with
that integer. -/
theorem leadingNumber_decimal_append (n : Int) {suffix : List Char}
    (other : ∀ c, suffix.head? = some c → c.isDigit = false) :
    leadingNumber ((decimal n).toList ++ suffix) = n := by
  obtain ⟨c, first, written⟩ := head?_decimal n
  have read : (digits n.natAbs ++ suffix).takeWhile Char.isDigit = digits n.natAbs :=
    takeWhile_isDigit_append (fun _ => isDigit_of_mem_digits) other
  have start : ((decimal n).toList ++ suffix).dropWhile isBlank = (decimal n).toList ++ suffix := by
    obtain ⟨rest, shape⟩ := List.head?_eq_some_iff.1 first
    rw [shape, List.cons_append, List.dropWhile_cons_of_neg (by simp [isBlank_eq_false written])]
  simp only [leadingNumber, start]
  unfold decimal at first ⊢
  split
  next negative =>
    simp only [String.toList_ofList, List.cons_append, List.head?_cons, true_or, if_true,
      List.tail_cons, read, ofDigitChars_digits, decide_true, withSign]
    omega
  next natural =>
    -- The first character is a digit, and so it is no sign.
    rw [if_neg natural, String.toList_ofList] at first
    have digit := toNat_of_isDigit (isDigit_of_mem_digits (List.mem_of_head? first))
    have notMinus : c ≠ '-' := by
      rintro rfl
      exact absurd digit.1 (by decide)
    have notPlus : c ≠ '+' := by
      rintro rfl
      exact absurd digit.1 (by decide)
    have head : (digits n.natAbs ++ suffix).head? = some c := by
      rw [List.head?_append, first, Option.some_or]
    simp only [String.toList_ofList, head, Option.some.injEq, notMinus, notPlus, or_self, if_false,
      read, ofDigitChars_digits, decide_false, withSign,
      Bool.false_eq_true]
    omega

/-- The decimal text of a word is read as that word, whatever follows but a digit. -/
theorem leadingInteger_decimal_append (value : Int64) {suffix : String}
    (other : ∀ c, suffix.toList.head? = some c → c.isDigit = false) :
    leadingInteger (decimal value.toInt ++ suffix) = value := by
  rw [← Int64.toInt_inj, toInt_leadingInteger, String.toList_append,
    leadingNumber_decimal_append _ other, clamped_toInt]

end StackScript.Text
