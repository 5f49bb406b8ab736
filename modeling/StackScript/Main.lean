import StackScript.CommandLine

/-!
# The program

Carries out the call that the arguments of the process stand for.
-/

open StackScript StackScript.CommandLine

/-- The wording of a failed use of a file. -/
def StackScript.CommandLine.fileFault (error : IO.Error) : String :=
  match error with
  | .noFileOrDirectory _ _ _ => "No such file or directory (os error 2)"
  | .permissionDenied _ _ _ => "Permission denied (os error 13)"
  | .inappropriateType _ _ _ => "Is a directory (os error 21)"
  | error => error.toString

/-- Carry out a use of a file. -/
def StackScript.CommandLine.attempt {α : Type} (use : IO α) : IO (Except String α) := do
  try return .ok (← use) catch error => return .error (fileFault error)

/-- Write what a call has written. -/
def StackScript.CommandLine.Page.print (page : Page) : IO Unit := do
  IO.print page.shown
  (← IO.getStdout).flush
  IO.eprint page.reported

/-- Do what a call still has to do, and answer whether it succeeded. -/
def StackScript.CommandLine.perform (options : Options) (page : Page) (task : Task) : IO Bool := do
  match task with
  | .finish success =>
      page.print
      return success
  | .emit path image =>
      let written ← attempt (IO.FS.writeBinFile path (ByteArray.mk image.toArray))
      let (page, ended) := afterEmit options page path written
      page.print
      return ended = .finish true
  | .run program =>
      page.print
      let input ← if program.readsInput then (← IO.getStdin).readBinToEnd else pure .empty
      let (page, ended) := afterRun options .blank program input.toList
      page.print
      return ended = .finish true

def main (arguments : List String) : IO UInt32 := do
  match Options.ofArguments? arguments with
  | none =>
      IO.eprintln "usage: myc [options] <file>"
      return 2
  | some options =>
      let content ← attempt (IO.FS.readBinFile options.file)
      let (page, task) := withFile options (content.map ByteArray.toList)
      return if ← perform options page task then 0 else 1
