import StackScript.Compilation
import StackScript.Machine.Trace

/-!
# Logs

What the parts of the compiler and the machine have to say about their work, as entries of a log.
Entries follow from the results of the work and change nothing about it.
-/

namespace StackScript

/-- The weight of a log entry. -/
inductive LogLevel where
  | trace
  | debug
  | info
  | warn
deriving DecidableEq, Repr

namespace LogLevel

/-- The name of a level. -/
def name : LogLevel → String
  | trace => "TRACE"
  | debug => "DEBUG"
  | info => "INFO"
  | warn => "WARN"

/-- Levels are ordered by their weight. -/
def weight : LogLevel → Nat
  | trace => 0
  | debug => 1
  | info => 2
  | warn => 3

end LogLevel

/-- An entry of a log. -/
structure LogEntry where
  /-- How important the entry is. -/
  level : LogLevel
  /-- The part that the entry comes from. -/
  source : String
  /-- What the entry says. -/
  message : String
deriving DecidableEq, Repr

namespace LogEntry

/-- The entry of a diagnostic. -/
def diagnostic (diagnostic : Diagnostic) : LogEntry :=
  ⟨.debug, "myc::lang::diagnostics",
    "line " ++ Text.decimal diagnostic.line ++ ": " ++ diagnostic.problem.message⟩

/-- The entry of a syntax tree. -/
def parsed (draft : Draft) : LogEntry :=
  ⟨.debug, "myc::frontend::parser",
    "parsed " ++ Text.decimal draft.tree.size ++ " nodes, " ++ Text.decimal draft.symbols.size
      ++ " symbols, " ++ Text.decimal draft.diagnostics.size ++ " diagnostics"⟩

/-- The entry of linked code. -/
def generated (code : LinkedCode) : LogEntry :=
  ⟨.debug, "myc::bytecode::intcode",
    "generated " ++ Text.decimal code.length ++ " intermediate instructions"⟩

/-- The entry of a program that was compiled. -/
def assembled (program : Program) : LogEntry :=
  ⟨.debug, "myc::bytecode::compile",
    "compiled " ++ Text.decimal program.code.length ++ " instructions over "
      ++ Text.decimal program.cells.length ++ " cells"⟩

/-- The entry of a program that was read from its image. -/
def decoded (program : Program) : LogEntry :=
  ⟨.debug, "myc::bytecode::image",
    "decoded image: " ++ Text.decimal program.code.length ++ " instructions, "
      ++ Text.decimal program.cells.length ++ " cells"⟩

/-- The entry of an instruction that was done. -/
def visited (visit : Machine.Visit) : LogEntry :=
  ⟨.trace, "myc::runtime::vm_bc", visit.message⟩

/-- The entry of a run. -/
def executed (state : Machine.State) : LogEntry :=
  ⟨.debug, "myc::runtime::vm_bc",
    "executed " ++ Text.decimal state.steps ++ " instructions, "
      ++ Text.decimal state.pool.active ++ " of " ++ Text.decimal state.pool.size
      ++ " cells active"⟩

end LogEntry

/-- The log of reading a script. -/
def Compilation.log (compilation : Compilation) : List LogEntry :=
  compilation.draft.diagnostics.toList.map .diagnostic ++ [.parsed compilation.draft]

/-- The log of compiling a script that has been read. -/
def Compilation.assemblyLog (compilation : Compilation) : List LogEntry :=
  match compilation.linked? with
  | .error _ => []
  | .ok code =>
      LogEntry.generated code ::
        match compilation.assemble code with
        | .error _ => []
        | .ok program => [.assembled program]

/-- The log of reading and compiling a text. -/
def Compilation.logOfText (text : String) : List LogEntry :=
  match Compilation.ofText? text with
  | .error _ => []
  | .ok compilation => compilation.log ++ compilation.assemblyLog

/-- The log of running a program, with its trace if wanted. A run that is refused, or that fails in
its last flush, has no entry of its own. -/
def Machine.log (traced : Bool) (limits : Limits) (program : Program) (input : InputStream)
    (output : OutputStream) : List LogEntry :=
  match program.check with
  | .error _ => []
  | .ok () =>
      let trace := if traced then visits limits program input output else []
      let ended := runChecked limits program input output
      let summary :=
        match (Outcome.of flush ended.state).result with
        | .ok () => [LogEntry.executed ended.state]
        | .error _ => []
      trace.map .visited ++ summary

end StackScript
