import Mathlib.Data.List.Basic
import StackScript.Text.Decimal
import StackScript.Text.Quoted

/-!
# Written forms read one way

Different integers have different decimal texts, and different texts have different quoted forms:
behind a backslash, the escapes of two characters differ in the second one, and those by code point
end at their closing brace.
-/

namespace StackScript.Text

theorem decimal_injective {m n : Int} (same : decimal m = decimal n) : m = n := by
  have unsigned {k : Nat} {rest : List Char} : digits k ≠ '-' :: rest := by
    intro signed
    have digit := isDigit_of_mem_digits (signed ▸ List.mem_cons_self : '-' ∈ digits k)
    contradiction
  unfold decimal at same
  split at same <;> split at same <;> rw [String.ofList_inj] at same
  · have magnitudes := digits_injective (List.tail_eq_of_cons_eq same)
    omega
  · exact absurd same.symm unsigned
  · exact absurd same unsigned
  · have magnitudes := digits_injective same
    omega

/-! ## Hexadecimal digits -/

theorem hexDigits_eq (n : Nat) :
    hexDigits n =
      if n < 16 then [n.digitChar] else hexDigits (n / 16) ++ [(n % 16).digitChar] :=
  Nat.toDigits_eq_if (by decide)

theorem hexDigits_ne_nil (n : Nat) : hexDigits n ≠ [] :=
  Nat.toDigits_ne_nil

theorem digitChar_injective {m n : Nat} (first : m < 16) (second : n < 16)
    (same : m.digitChar = n.digitChar) : m = n := by
  have all : ∀ m < 16, ∀ n < 16, m.digitChar = n.digitChar → m = n := by decide
  exact all m first n second same

/-- Different numbers have different hexadecimal digits. -/
theorem hexDigits_injective {m n : Nat} (same : hexDigits m = hexDigits n) : m = n := by
  induction m using Nat.strongRecOn generalizing n with
  | ind m induction =>
      rw [hexDigits_eq m, hexDigits_eq n] at same
      split at same <;> split at same
      next first second => exact digitChar_injective first second (List.head_eq_of_cons_eq same)
      next =>
        have lengths := List.length_pos_iff.2 (hexDigits_ne_nil (n / 16))
        have short := congrArg List.length same
        simp only [List.length_append, List.length_singleton] at short
        omega
      next =>
        have lengths := List.length_pos_iff.2 (hexDigits_ne_nil (m / 16))
        have short := congrArg List.length same
        simp only [List.length_append, List.length_singleton] at short
        omega
      next large _ =>
        obtain ⟨front, last⟩ := List.append_inj' same rfl
        have quotients := induction (m / 16) (by omega) front
        have remainders := digitChar_injective (Nat.mod_lt m (by decide)) (Nat.mod_lt n (by decide))
          (List.head_eq_of_cons_eq last)
        omega

/-- There are only hexadecimal digits among the hexadecimal digits of a number. -/
theorem notMem_hexDigits {c : Char} (other : ∀ d < 16, c ≠ d.digitChar) (n : Nat) :
    c ∉ hexDigits n := by
  induction n using Nat.strongRecOn with
  | ind n induction =>
      rw [hexDigits_eq]
      split
      next small => exact List.mem_singleton.not.2 (other n small)
      next large =>
        rw [List.mem_append, List.mem_singleton, not_or]
        exact ⟨induction (n / 16) (by omega), other _ (Nat.mod_lt n (by decide))⟩

theorem brace_notMem_hexDigits (n : Nat) : '\x7d' ∉ hexDigits n :=
  notMem_hexDigits (by decide) n

/-- The closing brace is where the digits end. -/
theorem hexDigits_append_inj {m n : Nat} {rest rest' : List Char}
    (same : hexDigits m ++ '\x7d' :: rest = hexDigits n ++ '\x7d' :: rest') :
    m = n ∧ rest = rest' := by
  rcases List.append_eq_append_iff.1 same with ⟨more, digits, behind⟩ | ⟨more, digits, behind⟩
  all_goals
    cases more with
    | nil =>
        rw [List.append_nil] at digits
        rw [List.nil_append, List.cons.injEq] at behind
        exact ⟨hexDigits_injective (by rw [digits]), by rw [behind.2]⟩
    | cons c more =>
        obtain ⟨rfl, -⟩ := List.cons.inj behind
        exact absurd (digits ▸ List.mem_append_right _ List.mem_cons_self)
          (brace_notMem_hexDigits _)

/-! ## Escapes -/

/-- What an escape of two characters stands for, by the second one. -/
def escapedBy : Char → Option Char
  | '"' => some '"'
  | '\\' => some '\\'
  | 'n' => some '\n'
  | 'r' => some '\r'
  | 't' => some '\t'
  | '0' => some '\x00'
  | _ => none

/-- A character is written as itself, by an escape of two characters, or by its code point. -/
inductive IsEscape (c : Char) : List Char → Prop
  | plain (other : c ≠ '\\') : IsEscape c [c]
  | short {d : Char} (stands : escapedBy d = some c) : IsEscape c ['\\', d]
  | codePoint : IsEscape c ('\\' :: 'u' :: '\x7b' :: (hexDigits c.toNat ++ ['\x7d']))

theorem isEscape_escape (c : Char) : IsEscape c (escape c) := by
  unfold escape
  split
  · exact .short rfl
  · exact .short rfl
  · exact .short rfl
  · exact .short rfl
  · exact .short rfl
  · exact .short rfl
  next _ other _ _ _ _ =>
    split
    · exact .plain other
    · exact .codePoint

namespace IsEscape

variable {c d : Char} {text other rest rest' : List Char}

theorem ne_nil (written : IsEscape c text) : text ≠ [] := by
  cases written <;> simp

/-- Where the escape of a character ends can be seen from the escape alone. -/
theorem unique (written : IsEscape c text) (written' : IsEscape d other)
    (same : text ++ rest = other ++ rest') : c = d ∧ rest = rest' := by
  cases written with
  | plain plain =>
      cases written' with
      | plain => exact List.cons.inj same
      | short | codePoint => exact absurd (List.cons.inj same).1 plain
  | short stands =>
      cases written' with
      | plain plain => exact absurd (List.cons.inj same).1.symm plain
      | short stands' =>
          obtain ⟨rfl, rest⟩ : _ ∧ _ := by simpa using same
          exact ⟨Option.some.inj (stands.symm.trans stands'), rest⟩
      | codePoint =>
          obtain ⟨rfl, -⟩ : _ ∧ _ := by simpa using same
          cases stands
  | codePoint =>
      cases written' with
      | plain plain => exact absurd (List.cons.inj same).1.symm plain
      | short stands =>
          obtain ⟨rfl, -⟩ : _ ∧ _ := by simpa using same
          cases stands
      | codePoint =>
          simp only [List.cons_append, List.append_assoc, List.cons.injEq, true_and,
            List.nil_append] at same
          obtain ⟨codes, rest⟩ := hexDigits_append_inj same
          exact ⟨Char.toNat_inj.1 codes, rest⟩

end IsEscape

theorem flatMap_escape_injective {text other : List Char}
    (same : text.flatMap escape = other.flatMap escape) : text = other := by
  induction text generalizing other with
  | nil =>
      cases other with
      | nil => rfl
      | cons d other =>
          have nothing := (List.append_eq_nil_iff.1 same.symm).1
          exact absurd nothing (isEscape_escape d).ne_nil
  | cons c text induction =>
      cases other with
      | nil => exact absurd (List.append_eq_nil_iff.1 same).1 (isEscape_escape c).ne_nil
      | cons d other =>
          obtain ⟨rfl, rest⟩ := (isEscape_escape c).unique (isEscape_escape d) same
          rw [induction rest]

/-- Different texts have different quoted forms. -/
theorem quoted_injective {text other : String} (same : quoted text = quoted other) :
    text = other := by
  rw [quoted, quoted, String.ofList_inj, List.cons_append, List.cons_append,
    List.cons.injEq] at same
  exact String.toList_inj.1 (flatMap_escape_injective (List.append_cancel_right same.2))

end StackScript.Text
