import StackScript.LinkedCode.Generate
import StackScript.Machine
import StackScript.Program.OfLinked
import StackScript.Token.Lexer
import StackScript.Tree.OfPhrase

/-!
# From script to program

A script is read into a syntax tree with its symbols and diagnostics. Unless there are diagnostics,
the tree becomes numbered linked code and that becomes a program.
-/

namespace StackScript

/-- Why a script has no result. -/
inductive ScriptFault where
  /-- Its text is not made of tokens. -/
  | lexical (error : LexicalError)
  /-- It has diagnostics. -/
  | diagnosed (count : Nat)
  /-- Its linked code does not become a program. -/
  | assembly (fault : AssemblyFault)
  /-- Its program ended early. -/
  | runtime (fault : Machine.Fault)
deriving DecidableEq, Repr

/-- The wording of a fault. -/
def ScriptFault.message : ScriptFault → String
  | lexical error => "lexer error: " ++ error.message
  | diagnosed count => Diagnostic.summary count
  | assembly fault => fault.message
  | runtime fault => fault.message

/-- A script that has been read. -/
structure Compilation where
  /-- The syntax tree with its symbols and diagnostics. -/
  draft : Draft
  /-- The topmost node. -/
  root : NodeId
deriving DecidableEq, Repr

namespace Compilation

/-- What tokens read as. Comments and line ends are no part of a statement. -/
def ofTokens (tokens : List PlacedToken) : Compilation :=
  let (draft, root) := (Script.ofTokens tokens).draft
  ⟨draft, root⟩

/-- What a text reads as, if it is made of tokens. -/
def ofText? (text : String) : Except LexicalError Compilation :=
  (Token.ofScript text).map fun tokens => ofTokens (Token.significant tokens)

/-- The number of diagnostics, in words. -/
def summary (compilation : Compilation) : String :=
  Diagnostic.summary compilation.draft.diagnostics.size

/-- The term of the whole script. -/
def term (compilation : Compilation) : Term :=
  compilation.draft.tree.term compilation.root

/-- The symbols with their memory slots. -/
def symbols (compilation : Compilation) : SymbolTable :=
  compilation.draft.symbols.assignSlots

/-- The linked code of the script, numbered from one, if there are no diagnostics. -/
def linked? (compilation : Compilation) : Except ScriptFault LinkedCode :=
  if compilation.draft.diagnostics.size = 0 then .ok ((LinkedCode.ofTerm compilation.term).number 1)
  else .error (.diagnosed compilation.draft.diagnostics.size)

/-- The program of linked code over the symbols of the script. -/
def assemble (compilation : Compilation) (code : LinkedCode) : Except ScriptFault Program :=
  (Program.ofLinked? compilation.symbols code).mapError .assembly

/-- The program of the script. -/
def program? (compilation : Compilation) : Except ScriptFault Program :=
  compilation.linked? >>= compilation.assemble

end Compilation

/-- The program of a script. -/
def Program.ofText? (text : String) : Except ScriptFault Program :=
  (Compilation.ofText? text).mapError .lexical >>= Compilation.program?

/-- Compile and run a script. -/
def runText (limits : Machine.Limits) (text : String) (input : InputStream)
    (output : OutputStream) : Except ScriptFault Unit × OutputStream :=
  match Program.ofText? text with
  | .error fault => (.error fault, output)
  | .ok program =>
      let outcome := Machine.run limits program input output
      (outcome.result.mapError .runtime, outcome.state.output)

end StackScript
