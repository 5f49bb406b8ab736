/-!
# UTF-8

Bytes are read as a sequence of pieces: each is a character or an ill-formed stretch that is as long
as a well-formed character could still have begun with. Bytes are text when every piece is a
character; otherwise a replacement character can stand for each ill-formed stretch.
-/

namespace StackScript.Text.Utf8

/-- A piece of a byte sequence. -/
inductive Piece where
  /-- A well-formed character. -/
  | scalar (c : Char)
  /-- An ill-formed stretch of so many bytes, and whether only the end of the bytes makes it so. -/
  | fault (length : Nat) (atEnd : Bool)
deriving DecidableEq, Repr

/-- The bytes of a text. -/
def encode (text : String) : List UInt8 :=
  text.toList.flatMap String.utf8EncodeChar

/-- Read the given number of continuation bytes, the first of them within the given bounds. -/
def continued : Nat → (low high : Nat) → (value length : Nat) → List UInt8 → Piece × List UInt8
  | 0, _, _, value, _, bytes => (.scalar (Char.ofNat value), bytes)
  | _ + 1, _, _, _, length, [] => (.fault length true, [])
  | count + 1, low, high, value, length, byte :: bytes =>
      if low ≤ byte.toNat ∧ byte.toNat ≤ high then
        continued count 0x80 0xBF (value * 64 + (byte.toNat - 0x80)) (length + 1) bytes
      else (.fault length false, byte :: bytes)

/-- The piece that a byte begins, and the bytes after it. -/
def next (byte : UInt8) (bytes : List UInt8) : Piece × List UInt8 :=
  let value := byte.toNat
  if value < 0x80 then (.scalar (Char.ofNat value), bytes)
  else if value < 0xC2 then (.fault 1 false, bytes)
  else if value < 0xE0 then continued 1 0x80 0xBF (value - 0xC0) 1 bytes
  else if value = 0xE0 then continued 2 0xA0 0xBF (value - 0xE0) 1 bytes
  else if value = 0xED then continued 2 0x80 0x9F (value - 0xE0) 1 bytes
  else if value < 0xF0 then continued 2 0x80 0xBF (value - 0xE0) 1 bytes
  else if value = 0xF0 then continued 3 0x90 0xBF (value - 0xF0) 1 bytes
  else if value < 0xF4 then continued 3 0x80 0xBF (value - 0xF0) 1 bytes
  else if value = 0xF4 then continued 3 0x80 0x8F (value - 0xF0) 1 bytes
  else (.fault 1 false, bytes)

/-- Reading continuation bytes leaves no more bytes than there were. -/
theorem length_continued_le (count low high value length : Nat) (bytes : List UInt8) :
    (continued count low high value length bytes).2.length ≤ bytes.length := by
  induction count generalizing low high value length bytes with
  | zero => simp [continued]
  | succ count induction =>
      cases bytes with
      | nil => simp [continued]
      | cons byte bytes =>
          simp only [continued]
          split
          · exact Nat.le_succ_of_le (induction _ _ _ _ _)
          · exact Nat.le_refl _

/-- Reading a piece leaves no more bytes than follow its first one. -/
theorem length_next_le (byte : UInt8) (bytes : List UInt8) :
    (next byte bytes).2.length ≤ bytes.length := by
  simp only [next]
  repeat' split
  all_goals first | exact length_continued_le _ _ _ _ _ _ | exact Nat.le_refl _

/-- The pieces that bytes consist of. -/
def pieces : List UInt8 → List Piece
  | [] => []
  | byte :: bytes => (next byte bytes).1 :: pieces (next byte bytes).2
termination_by bytes => bytes.length
decreasing_by exact Nat.lt_succ_of_le (length_next_le byte bytes)

/-- The characters of pieces among which there is no fault. -/
def scalars? : List Piece → Option (List Char)
  | [] => some []
  | .scalar c :: rest => (scalars? rest).map (c :: ·)
  | .fault _ _ :: _ => none

/-- The text that bytes encode, if every piece of them is a character. -/
def decode? (bytes : List UInt8) : Option String :=
  (scalars? (pieces bytes)).map String.ofList

/-- The character that stands for an ill-formed stretch. -/
def replacement : Char :=
  '\uFFFD'

/-- The character that is shown for a piece. -/
def Piece.shown : Piece → Char
  | .scalar c => c
  | .fault _ _ => replacement

/-- The text of bytes, with a replacement character for each ill-formed stretch. -/
def decodeLossy (bytes : List UInt8) : String :=
  String.ofList ((pieces bytes).map Piece.shown)

/-- An ill-formed stretch in a sequence of bytes. -/
structure Fault where
  /-- The number of bytes in front of it. -/
  index : Nat
  /-- The number of its bytes. -/
  length : Nat
  /-- Whether more bytes could have completed it. -/
  atEnd : Bool
deriving DecidableEq, Repr

/-- The first fault among pieces that begin at an index. -/
def firstFaultFrom? : Nat → List Piece → Option Fault
  | _, [] => none
  | index, .scalar c :: rest => firstFaultFrom? (index + (String.utf8EncodeChar c).length) rest
  | index, .fault length atEnd :: _ => some ⟨index, length, atEnd⟩

/-- The first ill-formed stretch of bytes. -/
def firstFault? (bytes : List UInt8) : Option Fault :=
  firstFaultFrom? 0 (pieces bytes)

/-- What is wrong with the bytes, in words. -/
def Fault.message (fault : Fault) : String :=
  let place := "from index " ++ toString fault.index
  if fault.atEnd then "incomplete utf-8 byte sequence " ++ place
  else "invalid utf-8 sequence of " ++ toString fault.length ++ " bytes " ++ place

end StackScript.Text.Utf8
