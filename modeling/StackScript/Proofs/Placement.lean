/-!
# Parts of lists

A list stands in another one at an offset if its entries are found there. Larger parts are taken to
smaller ones entry by entry, so parts of parts are parts.
-/

namespace StackScript

variable {α : Type}

/-- The entries of a part are those of the whole from an offset on. -/
def StandsAt (whole : List α) (offset : Nat) (part : List α) : Prop :=
  ∀ index < part.length, whole[offset + index]? = part[index]?

namespace StandsAt

variable {whole part first second : List α} {offset inner : Nat} {entry : α}

theorem self (whole : List α) : StandsAt whole 0 whole := by
  intro index _
  rw [Nat.zero_add]

theorem append_iff :
    StandsAt whole offset (first ++ second) ↔
      StandsAt whole offset first ∧ StandsAt whole (offset + first.length) second := by
  constructor
  · intro stands
    constructor
    · intro index inside
      rw [stands index (by rw [List.length_append]; omega), List.getElem?_append_left inside]
    · intro index inside
      rw [Nat.add_assoc, stands (first.length + index) (by rw [List.length_append]; omega),
        List.getElem?_append_right (Nat.le_add_right _ _), Nat.add_sub_cancel_left]
  · rintro ⟨front, back⟩ index inside
    rw [List.length_append] at inside
    rcases Nat.lt_or_ge index first.length with near | far
    · rw [front index near, List.getElem?_append_left near]
    · have there := back (index - first.length) (by omega)
      rw [show offset + first.length + (index - first.length) = offset + index by omega] at there
      rw [there, List.getElem?_append_right far]

theorem singleton_iff : StandsAt whole offset [entry] ↔ whole[offset]? = some entry := by
  constructor
  · intro stands
    exact stands 0 Nat.zero_lt_one
  · intro here index inside
    obtain rfl : index = 0 := Nat.lt_one_iff.1 inside
    exact here

theorem cons_iff :
    StandsAt whole offset (entry :: part) ↔
      whole[offset]? = some entry ∧ StandsAt whole (offset + 1) part := by
  rw [← singleton_iff, ← List.singleton_append]
  exact append_iff

theorem of_append {front back : List α} (fits : front.length = offset) :
    StandsAt (front ++ (part ++ back)) offset part := by
  intro index inside
  rw [← fits, List.getElem?_append_right (Nat.le_add_right _ _), Nat.add_sub_cancel_left,
    List.getElem?_append_left inside]

theorem trans (outer : StandsAt whole offset part) (stands : StandsAt part inner first) :
    StandsAt whole (offset + inner) first := by
  intro index inside
  have there : part[inner + index]? = some first[index] := by
    rw [stands index inside, List.getElem?_eq_getElem inside]
  rw [Nat.add_assoc, outer (inner + index) (List.getElem?_eq_some_iff.1 there).1,
    stands index inside]

theorem add_length_le (stands : StandsAt whole offset part) (nonempty : 0 < part.length) :
    offset + part.length ≤ whole.length := by
  have last : part.length - 1 < part.length := Nat.sub_one_lt (Nat.ne_of_gt nonempty)
  have there : whole[offset + (part.length - 1)]? = some part[part.length - 1] := by
    rw [stands _ last, List.getElem?_eq_getElem last]
  have inside := (List.getElem?_eq_some_iff.1 there).1
  omega

end StandsAt

/-- What is left of a list from an offset on begins with the entry there and goes on behind it. -/
theorem drop_eq_cons {whole rest : List α} {offset : Nat} {entry : α}
    (behind : whole.drop offset = entry :: rest) :
    whole[offset]? = some entry ∧ whole.drop (offset + 1) = rest := by
  constructor
  · rw [← List.head?_drop, behind, List.head?_cons]
  · rw [← List.tail_drop, behind, List.tail_cons]

end StackScript
