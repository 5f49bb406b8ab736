import StackScript.CommandLine.Options
import StackScript.LinkedCode.Listing
import StackScript.Program.Image
import StackScript.Program.Listing
import StackScript.Program.Statistics
import StackScript.Token.Listing
import StackScript.Tree.Listing

/-!
# The command line

A call reads a file, which is a script or the image of a program, shows what it is asked to show,
and then writes the program's image or runs it. What is left to do to the world at the end of a call
is a task; the text of both output streams goes along with it.
-/

namespace StackScript.CommandLine

/-- What a call has written so far. -/
structure Page where
  /-- The text on the output stream. -/
  shown : String
  /-- The text on the error stream. -/
  reported : String
deriving DecidableEq, Repr

/-- What a call still has to do. -/
inductive Task where
  /-- End with success or failure. -/
  | finish (success : Bool)
  /-- Write an image to a file. -/
  | emit (path : String) (image : List UInt8)
  /-- Run a program. -/
  | run (program : Program)
deriving DecidableEq, Repr

/-- A log entry on the error stream. Lines after the first one are set in. -/
def logLine (entry : LogEntry) : String :=
  let message := "\n    ".intercalate (entry.message.splitOn "\n")
  "[" ++ Text.leftAligned 5 entry.level.name ++ " " ++ entry.source ++ "] " ++ message

namespace Page

/-- The page before anything is written. -/
def blank : Page := ⟨"", ""⟩

/-- Write a text to the output stream. -/
def display (page : Page) (text : String) : Page :=
  { page with shown := page.shown ++ text }

/-- Write a text to the output stream if it is wanted. -/
def displayIf (page : Page) (wanted : Bool) (text : Unit → String) : Page :=
  if wanted then page.display (text ()) else page

/-- Write lines to the error stream. -/
def report (page : Page) (content : List String) : Page :=
  { page with reported := page.reported ++ Text.lines content }

/-- Write those of some log entries to the error stream that are shown. -/
def log (options : Options) (page : Page) (entries : List LogEntry) : Page :=
  let shown := entries.filter fun entry => options.threshold.weight ≤ entry.level.weight
  page.report (shown.map logLine)

/-- Report what a call fails of. -/
def fail (page : Page) (activity message : String) : Page × Task :=
  (page.report ["Error: " ++ activity ++ message], .finish false)

end Page

/-- A log entry of the call itself. -/
def announcement (message : String) : LogEntry :=
  ⟨.info, "myc", message⟩

/-- Show a program that has been loaded or compiled, and go on with it. -/
def withProgram (options : Options) (page : Page) (program : Program) : Page × Task :=
  let page := page.displayIf options.listing fun () => program.listing
  let page := page.displayIf options.statistics fun () => program.statistics
  match options.emit with
  | some path => (page, .emit path program.image)
  | none => (page, if options.noRun then .finish true else .run program)

/-- Show the tokens of a script. -/
def withTokens (options : Options) (text : String) : Page × Task :=
  match Token.ofScript text with
  | .error error => Page.blank.fail "Lexing source: " error.message
  | .ok tokens =>
      (Page.blank.display (Token.listing ⟨!options.noColour, false⟩ tokens), .finish true)

/-- Compile a script that has been read, and go on with its program. -/
def withCompilation (options : Options) (compilation : Compilation) : Page × Task :=
  let page := Page.blank.log options compilation.log
  let page := page.displayIf options.tree fun () =>
    compilation.term.listing compilation.draft.symbols
  match compilation.linked? with
  | .error _ =>
      let diagnostics := compilation.draft.diagnostics.toList.map Diagnostic.message
      (page.report (diagnostics ++ [compilation.summary]), .finish false)
  | .ok code =>
      let page := page.log options (announcement compilation.summary :: compilation.assemblyLog)
      match compilation.assemble code with
      | .error fault => page.fail "Compiling to bytecode: " fault.message
      | .ok program =>
          let page := page.displayIf options.symbols fun () => compilation.symbols.listing
          let page := page.displayIf options.linked fun () => code.listing compilation.symbols
          withProgram options page program

/-- Go on with a file that holds a script. -/
def withScript (options : Options) (bytes : List UInt8) : Page × Task :=
  match Text.Utf8.decode? bytes with
  | none =>
      let fault := (Text.Utf8.firstFault? bytes).map Text.Utf8.Fault.message
      Page.blank.fail ("Reading " ++ options.file ++ ": ") (fault.getD "")
  | some text =>
      if options.tokens then withTokens options text
      else
        match Compilation.ofText? text with
        | .error error => Page.blank.fail ("Lexing " ++ options.file ++ ": ") error.message
        | .ok compilation => withCompilation options compilation

/-- Go on with a file that does not hold a script by its name. -/
def withImage (options : Options) (bytes : List UInt8) : Page × Task :=
  if Image.isImage bytes then
    match Program.ofImage? bytes with
    | .error fault => Page.blank.fail ("Loading " ++ options.file ++ ": ") fault.message
    | .ok program => withProgram options (Page.blank.log options [.decoded program]) program
  else
    Page.blank.fail options.file " is neither a .myc source file nor a bytecode image"

/-- Go on with the content of the file, or with what kept it from being read. -/
def withFile (options : Options) (content : Except String (List UInt8)) : Page × Task :=
  match content with
  | .error message => Page.blank.fail ("Reading " ++ options.file ++ ": ") message
  | .ok bytes => if options.isScript then withScript options bytes else withImage options bytes

/-- End a call that has written an image, or was kept from it. -/
def afterEmit (options : Options) (page : Page) (path : String) (written : Except String Unit) :
    Page × Task :=
  match written with
  | .error message => page.fail ("Writing " ++ path ++ ": ") message
  | .ok () => (page.log options [announcement ("wrote " ++ path)], .finish true)

/-- Run a program on an input, and end the call. The program's output is all text. -/
def afterRun (options : Options) (page : Page) (program : Program) (input : List UInt8) :
    Page × Task :=
  let source := InputStream.ofBytes input
  let outcome := Machine.run .standard program source .unbounded
  let entries := Machine.log options.trace .standard program source .unbounded
  let page := page.display (Text.Utf8.decodeLossy outcome.state.output.written.toList)
  let page := page.log options entries
  match outcome.result with
  | .error fault => page.fail "Running program: " fault.message
  | .ok () => (page, .finish true)

end StackScript.CommandLine
