import StackScript.Text.Utf8

/-!
# Wire format

Numbers are written seven bits to a byte, the lowest first, and every byte but the last has its high
bit set. Signed numbers are written as natural numbers, the sign in the lowest bit. Text and lists
have their length in front of them. A reader accepts numbers with needless high zeros as long as
they take no more bytes than the largest number of their width.
-/

namespace StackScript.Wire

/-- Why bytes cannot be read. -/
inductive Fault where
  /-- The bytes end too early. -/
  | endOfBytes
  /-- A number has too many bytes or bits. -/
  | badNumber
  /-- The bytes of a text are not UTF-8. -/
  | badText
  /-- A tag stands for nothing. -/
  | badTag
deriving DecidableEq, Repr

/-- The wording of a fault. -/
def Fault.message : Fault → String
  | endOfBytes => "Hit the end of buffer, expected more data"
  | badNumber => "Found a varint that didn't terminate. Is the usize too big for this platform?"
  | badText => "Tried to parse invalid utf-8"
  | badTag => "Serde Deserialization Error"

/-- A reader of values from the front of some bytes. -/
abbrev Reader := StateT (List UInt8) (Except Fault)

/-! ## Writing -/

/-- The bytes of a natural number. -/
def natural (n : Nat) : List UInt8 :=
  if n < 128 then [UInt8.ofNat n] else UInt8.ofNat (n % 128 + 128) :: natural (n / 128)
termination_by n

/-- The natural number that a signed number is written as. -/
def zigzag (n : Int) : Nat :=
  if n < 0 then 2 * n.natAbs - 1 else 2 * n.natAbs

/-- The bytes of a signed number. -/
def signed (n : Int) : List UInt8 :=
  natural (zigzag n)

/-- The bytes of a text. -/
def text (value : String) : List UInt8 :=
  let bytes := Text.Utf8.encode value
  natural bytes.length ++ bytes

/-- The bytes of a list. -/
def list {α : Type} (write : α → List UInt8) (values : List α) : List UInt8 :=
  natural values.length ++ values.flatMap write

/-! ## Reading -/

/-- Read a byte. -/
def readByte : Reader UInt8 := fun
  | [] => .error .endOfBytes
  | byte :: rest => .ok (byte, rest)

/-- Read a number of bytes. -/
def readBytes (count : Nat) : Reader (List UInt8) := fun bytes =>
  if bytes.length < count then .error .endOfBytes
  else .ok (bytes.take count, bytes.drop count)

/-- Read a natural number that may have some more bytes behind its first one, and whose last byte is
bounded if it is the last one allowed. -/
def readDigits (bound : Nat) : (more : Nat) → Reader Nat
  | 0 => do
      let byte ← readByte
      if byte.toNat ≤ bound then return byte.toNat else throw .badNumber
  | more + 1 => do
      let byte ← readByte
      if byte.toNat < 128 then return byte.toNat
      else
        let high ← readDigits bound more
        return (byte.toNat - 128) + 128 * high

/-- Read a natural number of a width in bits. -/
def readNatural (width : Nat) : Reader Nat :=
  readDigits (Nat.pow 2 (width % 7) - 1) ((width - 1) / 7)

/-- The signed number that is written as a natural number. -/
def unzigzag (n : Nat) : Int :=
  if n % 2 = 0 then n / 2 else -(n / 2) - 1

/-- Read a signed number of a width in bits. -/
def readSigned (width : Nat) : Reader Int := do
  return unzigzag (← readNatural width)

/-- Read a text. -/
def readText : Reader String := do
  let length ← readNatural 64
  match Text.Utf8.decode? (← readBytes length) with
  | some value => return value
  | none => throw .badText

/-- Read a number of values. -/
def readMany {α : Type} (read : Reader α) : Nat → Reader (List α)
  | 0 => return []
  | count + 1 => do
      let first ← read
      let others ← readMany read count
      return first :: others

/-- Read a list. -/
def readList {α : Type} (read : Reader α) : Reader (List α) := do
  readMany read (← readNatural 64)

/-- A signed number reads back from the natural number that it is written as. -/
theorem unzigzag_zigzag (n : Int) : unzigzag (zigzag n) = n := by
  unfold unzigzag zigzag
  split <;> split <;> omega

end StackScript.Wire
