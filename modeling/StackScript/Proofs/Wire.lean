import Mathlib.Algebra.Group.Int.Defs
import StackScript.Wire
import StackScript.Proofs.Result
import StackScript.Proofs.Text.Utf8

/-!
# What the wire format keeps

A value is read back from its bytes whatever follows them, and from no part of them that is cut
short. In the other direction a reader takes other bytes too, for a number may have needless high
zeros, but never fewer of them than the value is written with.
-/

namespace StackScript.Wire

variable {α β : Type}

theorem run_bind (first : Reader α) (second : α → Reader β) (bytes : List UInt8) :
    (first >>= second) bytes = first bytes >>= fun pair => second pair.1 pair.2 :=
  rfl

/-! ## Reading back what was written -/

/-- A reader finds a value in its bytes, but only if it has them all. -/
structure Reads (read : Reader α) (bytes : List UInt8) (value : α) : Prop where
  /-- The value is read, and what follows its bytes is left. -/
  whole : ∀ rest, read (bytes ++ rest) = .ok (value, rest)
  /-- Reading fewer bytes comes to their end. -/
  cut : ∀ count < bytes.length, read (bytes.take count) = .error .endOfBytes

theorem Reads.pure (value : α) : Reads (pure value) [] value where
  whole _ := rfl
  cut _ impossible := absurd impossible (Nat.not_lt_zero _)

theorem Reads.bind {first : Reader α} {second : α → Reader β} {left right : List UInt8}
    {middle : α} {value : β} (begins : Reads first left middle)
    (ends : Reads (second middle) right value) :
    Reads (first >>= second) (left ++ right) value where
  whole rest := by
    rw [run_bind, List.append_assoc, begins.whole]
    exact ends.whole rest
  cut count short := by
    rw [List.length_append] at short
    by_cases inFirst : count < left.length
    · rw [run_bind, List.take_append_of_le_length (Nat.le_of_lt inFirst), begins.cut count inFirst]
      rfl
    · rw [run_bind, List.take_append, List.take_of_length_le (Nat.le_of_not_lt inFirst),
        begins.whole]
      exact ends.cut (count - left.length) (by omega)

/-- What is done with a value that was read may read nothing more. -/
theorem Reads.andThen {first : Reader α} {second : α → Reader β} {bytes : List UInt8} {middle : α}
    {value : β} (begins : Reads first bytes middle) (ends : Reads (second middle) [] value) :
    Reads (first >>= second) bytes value := by
  have reads := begins.bind ends
  rwa [List.append_nil] at reads

theorem Reads.map {read : Reader α} {bytes : List UInt8} {value : α}
    (reads : Reads read bytes value) (change : α → β) :
    Reads (read >>= fun value => Pure.pure (change value)) bytes (change value) :=
  reads.andThen (.pure _)

theorem reads_byte (byte : UInt8) : Reads readByte [byte] byte where
  whole _ := rfl
  cut count short := by
    obtain rfl : count = 0 := by simpa using short
    rfl

theorem reads_bytes (bytes : List UInt8) : Reads (readBytes bytes.length) bytes bytes where
  whole rest := by
    rw [readBytes, if_neg (by rw [List.length_append]; omega), List.take_left, List.drop_left]
  cut count short := by
    rw [readBytes, if_pos (by rw [List.length_take]; omega)]

theorem reads_digits {bound : Nat} (single : bound < 128) {more n : Nat}
    (fits : n < (bound + 1) * 128 ^ more) : Reads (readDigits bound more) (natural n) n := by
  induction more generalizing n with
  | zero =>
      rw [natural, if_pos (by omega), readDigits]
      refine (reads_byte _).andThen ?_
      rw [UInt8.toNat_ofNat', Nat.mod_eq_of_lt (by omega), if_pos (by omega)]
      exact .pure n
  | succ more induction =>
      rw [natural, readDigits]
      split
      next small =>
        refine (reads_byte _).andThen ?_
        rw [UInt8.toNat_ofNat', Nat.mod_eq_of_lt (by omega), if_pos small]
        exact .pure n
      next large =>
        refine (reads_byte _).bind ?_
        have shown : (UInt8.ofNat (n % 128 + 128)).toNat = n % 128 + 128 := by
          rw [UInt8.toNat_ofNat']
          omega
        rw [shown, if_neg (by omega), Nat.add_sub_cancel]
        have smaller : n / 128 < (bound + 1) * 128 ^ more := by
          rw [Nat.div_lt_iff_lt_mul (by decide), Nat.mul_assoc, ← Nat.pow_succ]
          exact fits
        have reads := (induction smaller).map (n % 128 + 128 * ·)
        rwa [Nat.mod_add_div] at reads

/-- The numbers below the bound for the last byte that may follow are those of the width. -/
theorem digits_bound {width : Nat} (uneven : width % 7 ≠ 0) :
    (2 ^ (width % 7) - 1 + 1) * 128 ^ ((width - 1) / 7) = 2 ^ width := by
  rw [Nat.sub_add_cancel Nat.one_le_two_pow, show 128 = 2 ^ 7 from rfl, ← Nat.pow_mul,
    ← Nat.pow_add]
  congr 1
  omega

theorem last_lt (width : Nat) : 2 ^ (width % 7) - 1 < 128 := by
  have bounded : 2 ^ (width % 7) < 2 ^ 7 :=
    Nat.pow_lt_pow_right (by decide) (Nat.mod_lt _ (by decide))
  omega

theorem reads_natural {width n : Nat} (uneven : width % 7 ≠ 0) (fits : n < 2 ^ width) :
    Reads (readNatural width) (natural n) n :=
  reads_digits (last_lt width) (by rwa [digits_bound uneven])

theorem reads_signed {width : Nat} {n : Int} (uneven : width % 7 ≠ 0)
    (fits : zigzag n < 2 ^ width) : Reads (readSigned width) (signed n) n := by
  have reads := (reads_natural uneven fits).map unzigzag
  rwa [unzigzag_zigzag] at reads

theorem reads_text {value : String} (fits : (Text.Utf8.encode value).length < 2 ^ 64) :
    Reads readText (text value) value := by
  refine (reads_natural (by decide) fits).bind ?_
  refine (reads_bytes _).andThen ?_
  rw [Text.Utf8.decode?_eq_some_iff.2 rfl]
  exact .pure value

theorem reads_many {read : Reader α} {write : α → List UInt8} {values : List α}
    (each : ∀ value ∈ values, Reads read (write value) value) :
    Reads (readMany read values.length) (values.flatMap write) values := by
  induction values with
  | nil => exact .pure []
  | cons value values induction =>
      rw [List.forall_mem_cons] at each
      rw [List.flatMap_cons]
      exact each.1.bind ((induction each.2).map (value :: ·))

theorem reads_list {read : Reader α} {write : α → List UInt8} {values : List α}
    (fits : values.length < 2 ^ 64) (each : ∀ value ∈ values, Reads read (write value) value) :
    Reads (readList read) (list write values) values :=
  (reads_natural (by decide) fits).bind (reads_many each)

/-! ## What reading takes -/

/-- All that a reader reads, and how many bytes it takes for it, has a property. -/
def Spends (read : Reader α) (property : α → Nat → Prop) : Prop :=
  ∀ bytes value rest, read bytes = .ok (value, rest) →
    ∃ spent, bytes.length = spent + rest.length ∧ property value spent

theorem Spends.pure {property : α → Nat → Prop} {value : α} (holds : property value 0) :
    Spends (pure value) property := by
  intro bytes found rest read
  cases read
  exact ⟨0, (Nat.zero_add _).symm, holds⟩

theorem Spends.throw {property : α → Nat → Prop} (fault : Fault) :
    Spends (throw fault : Reader α) property := by
  intro bytes found rest read
  cases read

theorem Spends.bind {first : Reader α} {second : α → Reader β} {between : α → Nat → Prop}
    {property : β → Nat → Prop} (begins : Spends first between)
    (ends : ∀ middle spent, between middle spent →
      Spends (second middle) fun value more => property value (spent + more)) :
    Spends (first >>= second) property := by
  intro bytes value rest read
  obtain ⟨⟨middle, others⟩, readFirst, readSecond⟩ := Result.bind_eq_ok_iff.1 read
  obtain ⟨spent, count, holds⟩ := begins bytes middle others readFirst
  obtain ⟨more, further, kept⟩ := ends middle spent holds others value rest readSecond
  exact ⟨spent + more, by omega, kept⟩

theorem Spends.map {read : Reader α} {property : α → Nat → Prop} {result : β → Nat → Prop}
    {change : α → β} (spends : Spends read property)
    (kept : ∀ value spent, property value spent → result (change value) spent) :
    Spends (read >>= fun value => Pure.pure (change value)) result :=
  spends.bind fun value spent holds => .pure (kept value spent holds)

theorem spends_byte : Spends readByte fun _ spent => spent = 1 := by
  intro bytes value rest read
  cases bytes with
  | nil => cases read
  | cons byte bytes =>
      cases read
      exact ⟨1, Nat.add_comm _ _, rfl⟩

theorem spends_bytes (count : Nat) :
    Spends (readBytes count) fun bytes spent => bytes.length = count ∧ spent = count := by
  intro bytes value rest read
  rw [readBytes] at read
  split at read
  · cases read
  · cases read
    refine ⟨count, ?_, ?_, rfl⟩
    · rw [List.length_drop]
      omega
    · rw [List.length_take]
      omega

/-- A number has one byte and those of its sevenfold halves. -/
theorem length_natural (digit high : Nat) (small : digit < 128) :
    (natural (digit + 128 * high)).length ≤ (natural high).length + 1 := by
  rw [natural]
  split
  · exact Nat.succ_le_succ (Nat.zero_le _)
  · rw [Nat.add_mul_div_left _ _ (by decide), Nat.div_eq_of_lt small, Nat.zero_add]
    exact Nat.le_refl _

theorem length_natural_of_lt {n : Nat} (small : n < 128) : (natural n).length = 1 := by
  rw [natural, if_pos small]
  rfl

theorem spends_digits {bound : Nat} (single : bound < 128) (more : Nat) :
    Spends (readDigits bound more) fun n spent =>
      n < (bound + 1) * 128 ^ more ∧ (natural n).length ≤ spent := by
  induction more with
  | zero =>
      refine spends_byte.bind fun byte spent last => ?_
      split
      next small =>
        exact .pure ⟨by omega, by rw [length_natural_of_lt (by omega)]; omega⟩
      next => exact .throw _
  | succ more induction =>
      have grows : (bound + 1) * 128 ^ (more + 1) = 128 * ((bound + 1) * 128 ^ more) := by
        rw [Nat.pow_succ, ← Nat.mul_assoc, Nat.mul_comm]
      have positive : 0 < (bound + 1) * 128 ^ more :=
        Nat.mul_pos (by omega) (Nat.pow_pos (by decide))
      refine spends_byte.bind fun byte spent one => ?_
      split
      next small =>
        exact .pure ⟨by omega, by rw [length_natural_of_lt small]; omega⟩
      next large =>
        refine induction.map fun high taken ⟨bounded, short⟩ => ?_
        have digit : byte.toNat - 128 < 128 := by
          have := byte.toNat_lt
          omega
        have longer := length_natural _ high digit
        exact ⟨by omega, by omega⟩

theorem spends_natural {width : Nat} (uneven : width % 7 ≠ 0) :
    Spends (readNatural width) fun n spent => n < 2 ^ width ∧ (natural n).length ≤ spent := by
  have spends := spends_digits (last_lt width) ((width - 1) / 7)
  rwa [digits_bound uneven] at spends

theorem zigzag_unzigzag (n : Nat) : zigzag (unzigzag n) = n := by
  unfold unzigzag zigzag
  split <;> split <;> omega

/-- The signed numbers of a width. -/
theorem zigzag_lt_iff {n : Int} {width : Nat} :
    zigzag n < 2 ^ (width + 1) ↔ -2 ^ width ≤ n ∧ n < 2 ^ width := by
  have cast : ((2 ^ width : Nat) : Int) = 2 ^ width := Int.natCast_pow 2 width
  rw [← cast, zigzag, Nat.pow_succ]
  split <;> omega

theorem spends_signed {width : Nat} (uneven : width % 7 ≠ 0) :
    Spends (readSigned width) fun n spent =>
      zigzag n < 2 ^ width ∧ (signed n).length ≤ spent :=
  (spends_natural uneven).map fun n spent holds => by rwa [signed, zigzag_unzigzag]

theorem spends_text : Spends readText fun value spent =>
    (Text.Utf8.encode value).length < 2 ^ 64 ∧ (text value).length ≤ spent := by
  refine (spends_natural (by decide)).bind fun length spent ⟨bounded, short⟩ => ?_
  refine (spends_bytes length).bind fun bytes more ⟨counted, all⟩ => ?_
  split
  next value read =>
    obtain rfl := Text.Utf8.decode?_eq_some_iff.1 read
    refine .pure ⟨by omega, ?_⟩
    rw [text, List.length_append, counted]
    omega
  next => exact .throw _

theorem spends_many {read : Reader α} {write : α → List UInt8} {good : α → Prop}
    (each : Spends read fun value spent => good value ∧ (write value).length ≤ spent)
    (count : Nat) :
    Spends (readMany read count) fun values spent =>
      values.length = count ∧ (∀ value ∈ values, good value) ∧
        (values.flatMap write).length ≤ spent := by
  induction count with
  | zero => exact .pure ⟨rfl, by simp, Nat.le_refl 0⟩
  | succ count induction =>
      refine each.bind fun value spent ⟨fine, short⟩ => ?_
      refine induction.map fun values more ⟨counted, others, shorter⟩ => ⟨?_, ?_, ?_⟩
      · rw [List.length_cons, counted]
      · rw [List.forall_mem_cons]
        exact ⟨fine, others⟩
      · rw [List.flatMap_cons, List.length_append]
        omega

theorem spends_list {read : Reader α} {write : α → List UInt8} {good : α → Prop}
    (each : Spends read fun value spent => good value ∧ (write value).length ≤ spent) :
    Spends (readList read) fun values spent =>
      values.length < 2 ^ 64 ∧ (∀ value ∈ values, good value) ∧
        (list write values).length ≤ spent := by
  refine (spends_natural (by decide)).bind fun count spent ⟨bounded, short⟩ => ?_
  intro bytes values rest read
  obtain ⟨more, lengths, counted, others, shorter⟩ := spends_many each count bytes values rest read
  refine ⟨more, lengths, by omega, others, ?_⟩
  rw [list, List.length_append, counted]
  omega

end StackScript.Wire
