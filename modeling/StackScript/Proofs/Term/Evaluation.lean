import StackScript.Machine.Stream
import StackScript.Proofs.Datum
import StackScript.Proofs.Symbol
import StackScript.Tree.Term

/-!
# What a script means

A term is evaluated directly, from left to right, over what the variables hold, the bytes that have
not been read and those that have been written. No code, stack or memory is involved.
-/

namespace StackScript

/-- What a script works on. -/
structure World where
  /-- What each variable holds. -/
  values : SymbolId → Cell
  /-- The bytes that have not been read. -/
  input : List UInt8
  /-- The bytes that have been written. -/
  output : Array UInt8

namespace World

/-- The world on two streams in which nothing has been stored. -/
def initial (input : InputStream) (output : OutputStream) : World :=
  ⟨fun _ => .unknown, input.bytes, output.written⟩

/-- The world with something stored in a variable. -/
def store (world : World) (target : SymbolId) (content : Cell) : World :=
  { world with values := fun symbol => if symbol = target then content else world.values symbol }

/-- The world with a line of text written. -/
def writeLine (world : World) (text : String) : World :=
  { world with output := world.output ++ Text.Utf8.encode (text ++ "\n") }

/-- The world with the next line stored in a variable. A line ends with a line feed or with the
input; a carriage return at its end is no part of its text. -/
def readLine (world : World) (target : SymbolId) : World :=
  let line := world.input.takeWhile (· ≠ 10)
  let text := Text.Utf8.decodeLossy (InputStream.dropReturn line)
  { world.store target (.string text) with input := (world.input.dropWhile (· ≠ 10)).tail }

end World

/-- The constant that a symbol stands for. -/
def SymbolTable.constant (table : SymbolTable) (symbol : SymbolId) : Cell :=
  match table.content? symbol with
  | some (.string text) => .string text
  | some (.integer value) => .integer value
  | _ => .unknown

namespace Term

/-- The value of an expression, and the world that its evaluation leaves. An assignment has the
value that it stores, and a boolean is stored as its text. Statements have no value. -/
def value (table : SymbolTable) : Term → World → Datum × World
  | identifier symbol, world => (.cell (world.values symbol), world)
  | stringConstant symbol, world => (.cell (table.constant symbol), world)
  | integerConstant symbol, world => (.cell (table.constant symbol), world)
  | assign target stored, world =>
      let (datum, world) := stored.value table world
      (datum, world.store target datum.stored)
  | equals left right, world =>
      let (first, world) := left.value table world
      let (second, world) := right.value table world
      (.bool (first.agrees second), world)
  | add left right, world =>
      let (first, world) := left.value table world
      let (second, world) := right.value table world
      (first.add second, world)
  | coerceToString operand, world =>
      let (datum, world) := operand.value table world
      (.cell (.string datum.toText), world)
  | coerceToInteger operand, world =>
      let (datum, world) := operand.value table world
      (.cell (.integer datum.toInteger), world)
  | _, world => (.cell .unknown, world)

/-- The world that a statement leaves. A value that nothing is stored in is not written. -/
def perform (table : SymbolTable) : Term → World → World
  | sequence first second, world => second.perform table (first.perform table world)
  | evaluate value, world => (value.value table world).2
  | print value, world =>
      let (datum, world) := value.value table world
      match datum.text? with
      | some text => world.writeLine text
      | none => world
  | input target, world => world.readLine target
  | ifThen condition body, world =>
      let (datum, world) := condition.value table world
      if datum = .bool true then body.perform table world else world
  | ifElse condition body otherwise, world =>
      let (datum, world) := condition.value table world
      if datum = .bool true then body.perform table world else otherwise.perform table world
  | _, world => world

end Term

end StackScript
