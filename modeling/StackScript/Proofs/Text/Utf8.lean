import Mathlib.Algebra.Group.Nat.Defs
import StackScript.Text.Utf8

/-!
# Texts and their bytes

Bytes are read as a text exactly if they are the bytes of that text. What a first byte asks for is
a number of continuation bytes and bounds for the first of them; these are just those that the
shortest form of a character has.
-/

namespace StackScript.Text.Utf8

/-- The last continuation bytes of a code point, six bits each. -/
def trail : (count value : Nat) → List UInt8
  | 0, _ => []
  | count + 1, value => UInt8.ofNat (value / 64 ^ count % 64 + 128) :: trail count value

theorem toNat_continuation (n : Nat) : (UInt8.ofNat (n % 64 + 128)).toNat = n % 64 + 128 := by
  rw [UInt8.toNat_ofNat']
  omega

/-- Six more bits of a code point. -/
theorem div_pow_succ (value count : Nat) :
    value / 64 ^ (count + 1) * 64 + value / 64 ^ count % 64 = value / 64 ^ count := by
  rw [Nat.pow_succ, ← Nat.div_div_eq_div_mul, Nat.mul_comm, Nat.div_add_mod]

/-- Continuation bytes are read as the code point that they complete, if the first of them is within
its bounds, and nothing else is read as a character. -/
theorem continued_eq_scalar_iff {count low high value length : Nat} {bytes rest : List UInt8}
    {c : Char} (above : 0x80 ≤ low) (below : high ≤ 0xBF) :
    continued count low high value length bytes = (.scalar c, rest) ↔
      ∃ point, c = Char.ofNat point ∧ point / 64 ^ count = value ∧
        bytes = trail count point ++ rest ∧ ∀ before, count = before + 1 →
          low ≤ point / 64 ^ before % 64 + 128 ∧ point / 64 ^ before % 64 + 128 ≤ high := by
  induction count generalizing low high value length bytes with
  | zero =>
      rw [continued, Prod.mk.injEq, Piece.scalar.injEq]
      constructor
      · rintro ⟨rfl, rfl⟩
        exact ⟨value, rfl, Nat.div_one value, rfl, fun _ impossible => by contradiction⟩
      · rintro ⟨point, rfl, rfl, rfl, -⟩
        exact ⟨by rw [Nat.pow_zero, Nat.div_one], rfl⟩
  | succ count induction =>
      cases bytes with
      | nil =>
          simp only [continued, Prod.mk.injEq, reduceCtorEq, false_and, trail, List.cons_append,
            and_false, exists_false]
      | cons byte bytes =>
          simp only [continued]
          split
          next within =>
            rw [induction (Nat.le_refl _) (Nat.le_refl _)]
            constructor
            · rintro ⟨point, rfl, same, rfl, -⟩
              have digit := div_pow_succ point count
              have size := Nat.mod_lt (point / 64 ^ count) (show 0 < 64 by decide)
              have shown : byte.toNat = point / 64 ^ count % 64 + 128 := by omega
              refine ⟨point, rfl, by omega, ?_, fun before last => ?_⟩
              · rw [trail, ← shown, UInt8.ofNat_toNat, List.cons_append]
              · cases last
                rwa [← shown]
            · rintro ⟨point, rfl, same, shape, -⟩
              rw [trail, List.cons_append, List.cons.injEq] at shape
              obtain ⟨rfl, rfl⟩ := shape
              refine ⟨point, rfl, ?_, rfl, fun before last => ?_⟩
              · rw [toNat_continuation, ← same, Nat.add_sub_cancel, div_pow_succ]
              · omega
          next outside =>
            refine ⟨fun impossible => by simp at impossible, ?_⟩
            rintro ⟨point, rfl, same, shape, bounds⟩
            rw [trail, List.cons_append, List.cons.injEq] at shape
            refine absurd ?_ outside
            rw [shape.1, toNat_continuation]
            exact bounds count rfl

/-- The code point of a character is read back from its number. -/
theorem toNat_ofNat {n : Nat} (valid : n.isValidChar) : (Char.ofNat n).val.toNat = n := by
  rw [Char.ofNat, dif_pos valid]
  rfl

/-- The number of continuation bytes in the shortest form of a code point. -/
def width (point : Nat) : Nat :=
  if point < 0x80 then 0 else if point < 0x800 then 1 else if point < 0x10000 then 2 else 3

/-- What a first byte is marked with in front of a number of continuation bytes. -/
def mark : Nat → Nat
  | 0 => 0
  | 1 => 0xC0
  | 2 => 0xE0
  | _ => 0xF0

theorem width_cases (point : Nat) :
    width point = 0 ∧ point < 0x80 ∨ width point = 1 ∧ 0x80 ≤ point ∧ point < 0x800 ∨
      width point = 2 ∧ 0x800 ≤ point ∧ point < 0x10000 ∨ width point = 3 ∧ 0x10000 ≤ point := by
  unfold width
  split
  · exact .inl ⟨rfl, by omega⟩
  split
  · exact .inr (.inl ⟨rfl, by omega, by omega⟩)
  split
  · exact .inr (.inr (.inl ⟨rfl, by omega, by omega⟩))
  · exact .inr (.inr (.inr ⟨rfl, by omega⟩))

/-- A first byte is that of a code point. -/
def Begins (byte : UInt8) (point : Nat) : Prop :=
  point.isValidChar ∧ byte.toNat = mark (width point) + point / 64 ^ width point

/-- The bytes of a character are a marked one and continuation bytes. -/
theorem utf8EncodeChar_eq (c : Char) :
    ∃ byte, Begins byte c.val.toNat ∧
      String.utf8EncodeChar c = byte :: trail (width c.val.toNat) c.val.toNat := by
  have valid : c.val.toNat.isValidChar := c.valid
  have bounds := valid
  simp only [Nat.isValidChar] at bounds
  unfold String.utf8EncodeChar Begins
  generalize c.val.toNat = point at valid bounds
  rcases width_cases point with ⟨same, _⟩ | ⟨same, _, _⟩ | ⟨same, _, _⟩ | ⟨same, _⟩
  · rw [same, if_pos (by omega)]
    refine ⟨UInt8.ofNat point, ⟨valid, ?_⟩, rfl⟩
    rw [UInt8.toNat_ofNat', mark, Nat.pow_zero]
    omega
  · rw [same, if_neg (by omega), if_pos (by omega)]
    refine ⟨UInt8.ofNat (point / 64 % 32 + 192), ⟨valid, ?_⟩, ?_⟩
    · simp only [UInt8.toNat_ofNat', mark, pow_one]
      omega
    · simp only [trail, pow_zero, Nat.div_one]
  · rw [same, if_neg (by omega), if_neg (by omega), if_pos (by omega)]
    refine ⟨UInt8.ofNat (point / 4096 % 16 + 224), ⟨valid, ?_⟩, ?_⟩
    · simp only [UInt8.toNat_ofNat', mark, Nat.reducePow]
      omega
    · simp only [trail, pow_zero, pow_one, Nat.div_one]
  · rw [same, if_neg (by omega), if_neg (by omega), if_neg (by omega)]
    refine ⟨UInt8.ofNat (point / 262144 % 8 + 240), ⟨valid, ?_⟩, ?_⟩
    · simp only [UInt8.toNat_ofNat', mark, Nat.reducePow]
      omega
    · simp only [trail, pow_zero, Nat.div_one, Nat.reducePow]

/-- Where the bounds for the first continuation byte leave just the code points that a first byte
begins, reading on behind it gives the characters of these. -/
theorem continued_eq_scalar_iff_begins {count low high value : Nat} {byte : UInt8}
    {bytes rest : List UInt8} {c : Char} (above : 0x80 ≤ low) (below : high ≤ 0xBF)
    (fits : ∀ point, Begins byte point ↔ point / 64 ^ (count + 1) = value ∧
      low ≤ point / 64 ^ count % 64 + 128 ∧ point / 64 ^ count % 64 + 128 ≤ high)
    (counted : ∀ point, Begins byte point → width point = count + 1) :
    continued (count + 1) low high value 1 bytes = (.scalar c, rest) ↔
      ∃ point, c = Char.ofNat point ∧ Begins byte point ∧
        bytes = trail (width point) point ++ rest := by
  rw [continued_eq_scalar_iff above below]
  constructor
  · rintro ⟨point, rfl, same, rfl, bounds⟩
    have begins := (fits point).2 ⟨same, bounds count rfl⟩
    exact ⟨point, rfl, begins, by rw [counted point begins]⟩
  · rintro ⟨point, rfl, begins, rfl⟩
    obtain ⟨same, bounds⟩ := (fits point).1 begins
    refine ⟨point, rfl, same, by rw [counted point begins], fun before last => ?_⟩
    cases last
    exact bounds

/-- The code points that a first byte begins. -/
theorem begins_iff (byte : UInt8) (point : Nat) :
    Begins byte point ↔
      point < 0x80 ∧ byte.toNat = point ∨
      0x80 ≤ point ∧ point < 0x800 ∧ byte.toNat = 0xC0 + point / 64 ∨
      0x800 ≤ point ∧ point < 0x10000 ∧ ¬ (0xD800 ≤ point ∧ point < 0xE000) ∧
        byte.toNat = 0xE0 + point / 4096 ∨
      0x10000 ≤ point ∧ point < 0x110000 ∧ byte.toNat = 0xF0 + point / 262144 := by
  simp only [Begins, Nat.isValidChar]
  rcases width_cases point with ⟨same, _⟩ | ⟨same, _, _⟩ | ⟨same, _, _⟩ | ⟨same, _⟩ <;>
  · simp only [same, mark, Nat.reducePow, Nat.div_one]
    omega

/-- No character is read where the first byte begins none. -/
theorem fault_eq_scalar_iff_begins {byte : UInt8} {bytes rest : List UInt8} {c : Char}
    {length : Nat} {atEnd : Bool} (none : ∀ point, ¬ Begins byte point) :
    ((.fault length atEnd, bytes) : Piece × List UInt8) = (.scalar c, rest) ↔
      ∃ point, c = Char.ofNat point ∧ Begins byte point ∧
        bytes = trail (width point) point ++ rest := by
  refine ⟨fun impossible => by simp at impossible, ?_⟩
  rintro ⟨point, -, begins, -⟩
  exact absurd begins (none point)

/-- A character is read from bytes if it is the one that they begin with. -/
theorem next_eq_scalar_iff_begins {byte : UInt8} {bytes rest : List UInt8} {c : Char} :
    next byte bytes = (.scalar c, rest) ↔
      ∃ point, c = Char.ofNat point ∧ Begins byte point ∧
        bytes = trail (width point) point ++ rest := by
  -- What the bounds of each branch leave is a matter of intervals: `begins_iff` turns the code
  -- points that the byte begins into one, and `width_cases` gives their number of bytes.
  simp only [next]
  split
  next single =>
    constructor
    · intro read
      rw [Prod.mk.injEq, Piece.scalar.injEq] at read
      obtain ⟨rfl, rfl⟩ := read
      have counted : width byte.toNat = 0 := if_pos single
      refine ⟨byte.toNat, rfl, (begins_iff _ _).2 (.inl ⟨single, rfl⟩), ?_⟩
      rw [counted]
      rfl
    · rintro ⟨point, rfl, begins, rfl⟩
      rw [begins_iff] at begins
      have same : byte.toNat = point := by omega
      have counted : width point = 0 := if_pos (by omega)
      rw [counted, same]
      rfl
  repeat' split
  all_goals first
    | refine continued_eq_scalar_iff_begins (by omega) (by omega) (fun point => ?_) fun point => ?_
    | refine fault_eq_scalar_iff_begins fun point => ?_
  all_goals
    have sized := width_cases point
    simp only [begins_iff, Nat.reducePow, Nat.reduceAdd]
    omega

/-- A character is read from bytes if they begin with its bytes. -/
theorem next_eq_scalar_iff {byte : UInt8} {bytes rest : List UInt8} {c : Char} :
    next byte bytes = (.scalar c, rest) ↔ byte :: bytes = String.utf8EncodeChar c ++ rest := by
  obtain ⟨first, begins, shape⟩ := utf8EncodeChar_eq c
  rw [next_eq_scalar_iff_begins, shape, List.cons_append, List.cons.injEq]
  constructor
  · rintro ⟨point, rfl, here, rfl⟩
    rw [toNat_ofNat here.1] at begins ⊢
    exact ⟨UInt8.toNat_inj.1 (here.2.trans begins.2.symm), rfl⟩
  · rintro ⟨rfl, rfl⟩
    exact ⟨c.val.toNat, (Char.ofNat_toNat c).symm, begins, rfl⟩

theorem scalars?_cons_eq_some_iff {piece : Piece} {rest : List Piece} {cs : List Char} :
    scalars? (piece :: rest) = some cs ↔
      ∃ c others, piece = .scalar c ∧ scalars? rest = some others ∧ cs = c :: others := by
  cases piece with
  | scalar c =>
      rw [scalars?, Option.map_eq_some_iff]
      constructor
      · rintro ⟨others, read, rfl⟩
        exact ⟨c, others, rfl, read, rfl⟩
      · rintro ⟨_, others, same, read, rfl⟩
        cases same
        exact ⟨others, read, rfl⟩
  | fault length atEnd =>
      exact ⟨fun impossible => by simp [scalars?] at impossible,
        fun ⟨_, _, impossible, _⟩ => by cases impossible⟩

/-- Bytes are read as some characters exactly if they are the bytes of these. -/
theorem scalars?_pieces_eq_some_iff {bytes : List UInt8} {cs : List Char} :
    scalars? (pieces bytes) = some cs ↔ bytes = cs.flatMap String.utf8EncodeChar := by
  induction bytes using pieces.induct generalizing cs with
  | case1 =>
      cases cs with
      | nil => simp [pieces, scalars?]
      | cons c cs =>
          obtain ⟨first, -, shape⟩ := utf8EncodeChar_eq c
          simp [pieces, scalars?, shape]
  | case2 byte bytes induction =>
      rw [pieces, scalars?_cons_eq_some_iff]
      constructor
      · rintro ⟨c, others, first, read, rfl⟩
        rw [induction] at read
        rw [List.flatMap_cons, ← read, ← next_eq_scalar_iff, ← first]
      · intro shape
        cases cs with
        | nil => exact absurd shape (by simp)
        | cons c others =>
            rw [List.flatMap_cons, ← next_eq_scalar_iff] at shape
            exact ⟨c, others, by rw [shape], induction.2 (by rw [shape]), rfl⟩

/-- Bytes are the bytes of a text exactly if they are read as it. -/
theorem decode?_eq_some_iff {bytes : List UInt8} {text : String} :
    decode? bytes = some text ↔ bytes = encode text := by
  rw [decode?, Option.map_eq_some_iff, encode, ← scalars?_pieces_eq_some_iff]
  constructor
  · rintro ⟨cs, read, rfl⟩
    rw [read, String.toList_ofList]
  · intro read
    exact ⟨text.toList, read, String.ofList_toList⟩

end StackScript.Text.Utf8
