import StackScript.Program
import StackScript.Wire

/-!
# Program images

The image of a program begins with four letters and a version; the instructions and the cells follow
in the wire format, each as a tag and its operand. Bytes behind them are ignored.
-/

namespace StackScript

/-- Why bytes are not the image of a program. -/
inductive ImageFault where
  /-- The bytes do not begin like an image. -/
  | badMagic
  /-- The image is of another version. -/
  | unsupportedVersion (found : UInt8)
  /-- What follows the version cannot be read. -/
  | unreadable (fault : Wire.Fault)
deriving DecidableEq, Repr

namespace Image

/-- The bytes that every image begins with: the letters `MYCB`. -/
def magic : List UInt8 := [0x4D, 0x59, 0x43, 0x42]

/-- The version of the format. -/
def version : UInt8 := 1

/-- Whether bytes begin like an image. -/
def isImage (bytes : List UInt8) : Bool :=
  magic.isPrefixOf bytes

/-- The bytes of an instruction. -/
def writeInstruction : Instruction → List UInt8
  | .nop => Wire.natural 0
  | .push slot => Wire.natural 1 ++ Wire.natural slot
  | .getTop slot => Wire.natural 2 ++ Wire.natural slot
  | .discard => Wire.natural 3
  | .print => Wire.natural 4
  | .input slot => Wire.natural 5 ++ Wire.natural slot
  | .jump offset => Wire.natural 6 ++ Wire.signed offset.toInt
  | .jumpIfFalse offset => Wire.natural 7 ++ Wire.signed offset.toInt
  | .equal => Wire.natural 8
  | .boolEqual => Wire.natural 9
  | .add => Wire.natural 10
  | .boolToString => Wire.natural 11
  | .integerToString => Wire.natural 12
  | .stringToInteger => Wire.natural 13

/-- Read an instruction. -/
def readInstruction : Wire.Reader Instruction := do
  match ← Wire.readNatural 32 with
  | 0 => return .nop
  | 1 => return .push (← Wire.readNatural 64)
  | 2 => return .getTop (← Wire.readNatural 64)
  | 3 => return .discard
  | 4 => return .print
  | 5 => return .input (← Wire.readNatural 64)
  | 6 => return .jump (Int32.ofInt (← Wire.readSigned 32))
  | 7 => return .jumpIfFalse (Int32.ofInt (← Wire.readSigned 32))
  | 8 => return .equal
  | 9 => return .boolEqual
  | 10 => return .add
  | 11 => return .boolToString
  | 12 => return .integerToString
  | 13 => return .stringToInteger
  | _ => throw .badTag

/-- The bytes of a cell. -/
def writeCell : Cell → List UInt8
  | .free => Wire.natural 0
  | .unknown => Wire.natural 1
  | .string text => Wire.natural 2 ++ Wire.text text
  | .integer value => Wire.natural 3 ++ Wire.signed value.toInt

/-- Read a cell. -/
def readCell : Wire.Reader Cell := do
  match ← Wire.readNatural 32 with
  | 0 => return .free
  | 1 => return .unknown
  | 2 => return .string (← Wire.readText)
  | 3 => return .integer (Int64.ofInt (← Wire.readSigned 64))
  | _ => throw .badTag

/-- Read a program behind the version of its image. -/
def readProgram : Wire.Reader Program := do
  let code ← Wire.readList readInstruction
  let cells ← Wire.readList readCell
  return ⟨code, cells⟩

end Image

/-- The wording of a fault. -/
def ImageFault.message : ImageFault → String
  | badMagic => "image error: not a bytecode image (bad magic)"
  | unsupportedVersion found =>
      "image error: unsupported format version " ++ Text.decimal found.toNat ++ " (expected "
        ++ Text.decimal Image.version.toNat ++ ")"
  | unreadable fault => "image error: decoding failed: " ++ fault.message

namespace Program

/-- The image of a program. -/
def image (program : Program) : List UInt8 :=
  Image.magic ++ [Image.version] ++ Wire.list Image.writeInstruction program.code
    ++ Wire.list Image.writeCell program.cells

/-- The program of an image. -/
def ofImage? (bytes : List UInt8) : Except ImageFault Program :=
  if Image.isImage bytes then
    match bytes.drop Image.magic.length with
    | [] => .error .badMagic
    | found :: body =>
        if found = Image.version then
          match Image.readProgram body with
          | .ok (program, _) => .ok program
          | .error fault => .error (.unreadable fault)
        else .error (.unsupportedVersion found)
  else .error .badMagic

end Program

end StackScript
