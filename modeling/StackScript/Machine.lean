import StackScript.Machine.Pool
import StackScript.Machine.Stream
import StackScript.Program.Heights

/-!
# The stack machine

The machine runs the instructions of a program over a stack of values and a pool of cells. The first
cells of the pool are the program's own; values on the stack are booleans or name cells of their
own, which are freed when the value is taken off.
-/

namespace StackScript.Machine

/-- A value of the operand stack. -/
inductive Value where
  /-- What a cell holds. -/
  | cell (index : Nat)
  /-- A boolean. -/
  | bool (value : Bool)
deriving DecidableEq, Repr

/-- The two kinds of values. -/
inductive ValueKind where
  | cell
  | bool
deriving DecidableEq, Repr

/-- The name of a kind of values. -/
def ValueKind.name : ValueKind → String
  | cell => "cell index"
  | bool => "bool"

/-- The kind of a value. -/
def Value.kind : Value → ValueKind
  | cell _ => .cell
  | bool _ => .bool

/-- The text of a boolean. -/
def boolText (value : Bool) : String :=
  if value then "true" else "false"

/-- Why a run ends early. -/
inductive Fault where
  /-- An instruction finds no value on the stack. -/
  | stackUnderflow (ip : Nat) (instruction : Instruction)
  /-- An instruction finds a value of the wrong kind. -/
  | typeMismatch (ip : Nat) (instruction : Instruction) (expected found : ValueKind)
  /-- An instruction needs a cell that is not in use. -/
  | badCell (ip index : Nat)
  /-- A jump does not go forward. -/
  | jumpOutOfBounds (ip : Nat)
  /-- The stack holds too many values. -/
  | stackLimit (limit : Nat)
  /-- The pool has too many cells. -/
  | cellLimit (limit : Nat)
  /-- A stream is closed. -/
  | stream (fault : StreamFault)
  /-- The program is refused before it runs. -/
  | refused (fault : HeightFault)
deriving DecidableEq, Repr

/-- The wording of a fault. -/
def Fault.message : Fault → String
  | stackUnderflow ip instruction =>
      "runtime error: stack underflow at ip=" ++ Text.decimal ip ++ " (" ++ instruction.name ++ ")"
  | typeMismatch ip instruction expected found =>
      "runtime error: type error at ip=" ++ Text.decimal ip ++ " (" ++ instruction.name
        ++ "): expected " ++ expected.name ++ ", got " ++ found.name
  | badCell ip index =>
      "runtime error: cell " ++ Text.decimal index ++ " at ip=" ++ Text.decimal ip
        ++ " is free or out of range"
  | jumpOutOfBounds ip => "runtime error: jump at ip=" ++ Text.decimal ip ++ " leaves the program"
  | stackLimit limit => "runtime error: stack size limit exceeded (" ++ Text.decimal limit ++ ")"
  | cellLimit limit => "runtime error: cell pool limit exceeded (" ++ Text.decimal limit ++ ")"
  | stream fault => "runtime error: i/o failed: " ++ fault.message
  | refused fault => fault.message

/-- The bounds of a run. -/
structure Limits where
  /-- The largest number of values on the stack. -/
  stack : Nat
  /-- The largest number of cells in the pool. -/
  cells : Nat
deriving DecidableEq, Repr

/-- The bounds of a run that asks for none. -/
def Limits.standard : Limits := ⟨10000, 100000⟩

/-- The state of the machine between two instructions. -/
structure State where
  /-- The operand stack, its top first. -/
  stack : List Value
  /-- The memory. -/
  pool : Pool
  /-- The number of instructions that have been begun. -/
  steps : Nat
  /-- Where the program reads. -/
  input : InputStream
  /-- Where the program writes. -/
  output : OutputStream
deriving DecidableEq, Repr

/-- The state before anything is loaded. -/
def State.initial (input : InputStream) (output : OutputStream) : State :=
  ⟨[], .empty, 0, input, output⟩

/-- Something that the machine does, and that may end the run. -/
abbrev Action := EStateM Fault State

/-! ## Parts of instructions -/

/-- Put a value on the stack. -/
def push (value : Value) : Action Unit :=
  modify fun state => { state with stack := value :: state.stack }

/-- Take a value off the stack. -/
def pop (ip : Nat) (instruction : Instruction) : Action Value := do
  let state ← get
  match state.stack with
  | [] => throw (.stackUnderflow ip instruction)
  | value :: rest =>
      set { state with stack := rest }
      return value

/-- The value on top of the stack, which stays there. -/
def top (ip : Nat) (instruction : Instruction) : Action Value := do
  match (← get).stack with
  | [] => throw (.stackUnderflow ip instruction)
  | value :: _ => return value

/-- Take a value off the stack that names a cell. -/
def popCell (ip : Nat) (instruction : Instruction) : Action Nat := do
  match ← pop ip instruction with
  | .cell index => return index
  | .bool _ => throw (.typeMismatch ip instruction .cell .bool)

/-- Take a boolean off the stack. -/
def popBool (ip : Nat) (instruction : Instruction) : Action Bool := do
  match ← pop ip instruction with
  | .bool value => return value
  | .cell _ => throw (.typeMismatch ip instruction .bool .cell)

/-- What a cell in use holds. -/
def cell (ip index : Nat) : Action Cell := do
  match (← get).pool.get? index with
  | some cell => return cell
  | none => throw (.badCell ip index)

/-- Replace what a cell in use holds. -/
def store (ip slot : Nat) (content : Cell) : Action Unit := do
  let _ ← cell ip slot
  modify fun state => { state with pool := state.pool.set slot content }

/-- Put a new value in a cell of its own on the stack, once some cells are freed. The new cell is
taken before. -/
def replace (content : Cell) (freed : List Nat) : Action Unit :=
  modify fun state =>
    let (pool, index) := state.pool.allocate content
    { state with
      pool := freed.foldl Pool.release pool
      stack := .cell index :: state.stack }

/-- Free the cells of values that have been taken off. -/
def release (indices : List Nat) : Action Unit :=
  modify fun state => { state with pool := indices.foldl Pool.release state.pool }

/-- The cells that a value names. -/
def Value.cells : Value → List Nat
  | cell index => [index]
  | bool _ => []

/-- Use the output stream. -/
def withOutput (use : OutputStream → Except StreamFault Unit × OutputStream) : Action Unit := do
  let state ← get
  let (result, output) := use state.output
  set { state with output := output }
  match result with
  | .ok () => return
  | .error fault => throw (.stream fault)

/-- Write a line of text. -/
def writeLine (text : String) : Action Unit :=
  withOutput (·.write (Text.Utf8.encode (text ++ "\n")))

/-- Hand on what has been written. -/
def flush : Action Unit :=
  withOutput OutputStream.flush

/-- Read a line of text. -/
def readLine : Action String := do
  let state ← get
  let (result, input) := state.input.readLine
  set { state with input := input }
  match result with
  | .ok text => return text
  | .error fault => throw (.stream fault)

/-! ## Instructions -/

/-- Copy the value on top of the stack to a cell; a boolean is stored as its text. -/
def executeGetTop (ip slot : Nat) : Action Unit := do
  match ← top ip (.getTop slot) with
  | .cell index => store ip slot (← cell ip index)
  | .bool value => store ip slot (.string (boolText value))

/-- Take a value off the stack and write it; a cell that nothing is stored in is not written. -/
def executePrint (ip : Nat) : Action Unit := do
  let value ← pop ip .print
  match value with
  | .bool value => writeLine (boolText value)
  | .cell index =>
      match (← cell ip index).text? with
      | some text => writeLine text
      | none => pure ()
  release value.cells

/-- Read a line to a cell, after what has been written so far is handed on. -/
def executeInput (ip slot : Nat) : Action Unit := do
  flush
  store ip slot (.string (← readLine))

/-- Compare the contents of two cells; nothing equals what was never stored. -/
def executeEqual (ip : Nat) : Action Unit := do
  let right ← popCell ip .equal
  let left ← popCell ip .equal
  let rightContent ← cell ip right
  let leftContent ← cell ip left
  release [right, left]
  push (.bool (rightContent.agrees leftContent))

/-- Compare two values of the stack. -/
def executeBoolEqual (ip : Nat) : Action Unit := do
  let right ← pop ip .boolEqual
  let left ← pop ip .boolEqual
  push (.bool (right = left))

/-- Add the contents of two cells. -/
def executeAdd (ip : Nat) : Action Unit := do
  let right ← popCell ip .add
  let left ← popCell ip .add
  let leftContent ← cell ip left
  let rightContent ← cell ip right
  replace (leftContent.add rightContent) [right, left]

/-- Replace a boolean by its text. -/
def executeBoolToString (ip : Nat) : Action Unit := do
  let value ← popBool ip .boolToString
  replace (.string (boolText value)) []

/-- Replace what a cell holds by its text, which is empty if nothing was stored. -/
def executeIntegerToString (ip : Nat) : Action Unit := do
  let index ← popCell ip .integerToString
  let content ← cell ip index
  replace (.string (content.text?.getD "")) [index]

/-- Replace a value by its integer. -/
def executeStringToInteger (ip : Nat) : Action Unit := do
  let value ← pop ip .stringToInteger
  match value with
  | .bool value => replace (.integer (if value then 1 else 0)) []
  | .cell index => replace (.integer (← cell ip index).toInteger) [index]

/-- Do an instruction, and answer how far off the next one is. -/
def execute (ip : Nat) : Instruction → Action Int
  | .nop => return 1
  | .push slot => do
      replace (← cell ip slot) []
      return 1
  | .getTop slot => do
      executeGetTop ip slot
      return 1
  | .discard => do
      release (← pop ip .discard).cells
      return 1
  | .print => do
      executePrint ip
      return 1
  | .input slot => do
      executeInput ip slot
      return 1
  | .jump offset => return offset.toInt
  | .jumpIfFalse offset => do
      if ← popBool ip (.jumpIfFalse offset) then return 1 else return offset.toInt
  | .equal => do
      executeEqual ip
      return 1
  | .boolEqual => do
      executeBoolEqual ip
      return 1
  | .add => do
      executeAdd ip
      return 1
  | .boolToString => do
      executeBoolToString ip
      return 1
  | .integerToString => do
      executeIntegerToString ip
      return 1
  | .stringToInteger => do
      executeStringToInteger ip
      return 1

/-! ## Runs -/

/-- Begin an instruction: it counts as a step, and the bounds have to hold. -/
def begin (limits : Limits) : Action Unit := do
  modify fun state => { state with steps := state.steps + 1 }
  let state ← get
  if limits.stack < state.stack.length then throw (.stackLimit limits.stack)
  if limits.cells < state.pool.size then throw (.cellLimit limits.cells)

/-- Do an instruction within bounds, and answer how many of those behind it are passed over. -/
def step (limits : Limits) (ip : Nat) (instruction : Instruction) : Action Nat := do
  begin limits
  let distance ← execute ip instruction
  if 0 < distance then return distance.toNat - 1 else throw (.jumpOutOfBounds ip)

/-- Run instructions from a number on, passing over some of them first. -/
def runFrom (limits : Limits) : (ip skipped : Nat) → List Instruction → Action Unit
  | _, _, [] => return
  | ip, skipped + 1, _ :: rest => runFrom limits (ip + 1) skipped rest
  | ip, 0, instruction :: rest => do
      let skipped ← step limits ip instruction
      runFrom limits (ip + 1) skipped rest

/-- How a run ended. -/
structure Outcome where
  /-- The fault that ended the run, if one did. -/
  result : Except Fault Unit
  /-- The state at its end. -/
  state : State

/-- What an action comes to in a state. -/
def Outcome.of (action : Action Unit) (state : State) : Outcome :=
  match action.run state with
  | .ok () state => ⟨.ok (), state⟩
  | .error fault state => ⟨.error fault, state⟩

/-- The state in which a program's cells are loaded. -/
def State.loaded (program : Program) (input : InputStream) (output : OutputStream) : State :=
  { State.initial input output with pool := ⟨program.cells⟩ }

/-- Run a program that has been checked, before the last flush. -/
def runChecked (limits : Limits) (program : Program) (input : InputStream)
    (output : OutputStream) : Outcome :=
  .of (runFrom limits 0 0 program.code) (.loaded program input output)

/-- Check and run a program. What has been written is handed on at the end of the run, however it
ended; if that fails, the run fails with it. -/
def run (limits : Limits) (program : Program) (input : InputStream) (output : OutputStream) :
    Outcome :=
  match program.check with
  | .error fault => ⟨.error (.refused fault), .initial input output⟩
  | .ok () =>
      let ended := runChecked limits program input output
      let flushed := Outcome.of flush ended.state
      match flushed.result with
      | .ok () => ⟨ended.result, flushed.state⟩
      | .error fault => ⟨.error fault, flushed.state⟩

end StackScript.Machine
