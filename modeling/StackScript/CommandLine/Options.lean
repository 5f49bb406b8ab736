import StackScript.Log

/-!
# Command-line options

The options of a call: what to show, how much to log, and what to do with the program.
-/

namespace StackScript.CommandLine

/-- The options of a call. -/
structure Options where
  /-- The file to read. -/
  file : String
  /-- Show the tokens and nothing else. -/
  tokens : Bool
  /-- Show the tokens without colours. -/
  noColour : Bool
  /-- Show the syntax tree. -/
  tree : Bool
  /-- Show the symbols. -/
  symbols : Bool
  /-- Show the linked code. -/
  linked : Bool
  /-- Show the program. -/
  listing : Bool
  /-- Show the statistics of the program. -/
  statistics : Bool
  /-- Write the image of the program to a file. -/
  emit : Option String
  /-- Do not run the program. -/
  noRun : Bool
  /-- Log every instruction. -/
  trace : Bool
  /-- How often more log entries were asked for. -/
  verbosity : Nat
deriving DecidableEq, Repr

namespace Options

/-- The options of a call that only names a file. -/
def ofFile (file : String) : Options :=
  ⟨file, false, false, false, false, false, false, false, none, false, false, 0⟩

/-- The number of letters of an argument such as `-vv`. -/
def verbosity? (argument : String) : Option Nat :=
  match argument.toList with
  | '-' :: letters => if letters ≠ [] ∧ letters.all (· = 'v') then some letters.length else none
  | _ => none

/-- The options with one more switch, if an argument is one. -/
def switch? (options : Options) (argument : String) : Option Options :=
  match argument with
  | "--tokens" => some { options with tokens := true }
  | "--no-color" => some { options with noColour := true }
  | "--ast" => some { options with tree := true }
  | "--symbols" => some { options with symbols := true }
  | "--ir" => some { options with linked := true }
  | "--bc" => some { options with listing := true }
  | "--stats" => some { options with statistics := true }
  | "--no-run" => some { options with noRun := true }
  | "--trace" => some { options with trace := true }
  | "--verbose" => some { options with verbosity := options.verbosity + 1 }
  | argument =>
      (verbosity? argument).map fun count =>
        { options with verbosity := options.verbosity + count }

/-- The path of an argument such as `--emit=path`. -/
def emitPath? (argument : String) : Option String :=
  let key := "--emit=".toList
  if key.isPrefixOf argument.toList then
    some (String.ofList (argument.toList.drop key.length))
  else none

/-- Options and files read so far, with more arguments behind them. -/
def addAll (options : Options) (files : List String) : List String → Option (Options × List String)
  | [] => some (options, files)
  | "--emit" :: path :: rest => addAll { options with emit := some path } files rest
  | argument :: rest =>
      match options.switch? argument, emitPath? argument with
      | some options, _ => addAll options files rest
      | none, some path => addAll { options with emit := some path } files rest
      | none, none =>
          if argument.startsWith "-" then none else addAll options (files ++ [argument]) rest

/-- The options that arguments stand for, if they name exactly one file. -/
def ofArguments? (arguments : List String) : Option Options :=
  match addAll (ofFile "") [] arguments with
  | some (options, [file]) => some { options with file := file }
  | _ => none

/-- The least weight of the log entries that are shown. -/
def threshold (options : Options) : LogLevel :=
  if options.trace || 2 ≤ options.verbosity then .trace
  else if options.verbosity = 1 then .debug
  else .warn

/-- The name of a file without the folders it is in. -/
def fileName (path : String) : List Char :=
  (path.toList.reverse.takeWhile (· ≠ '/')).reverse

/-- The part of a file's name behind its last dot, unless there is nothing in front of the dot. -/
def extension? (path : String) : Option (List Char) :=
  let reversed := (fileName path).reverse
  match reversed.dropWhile (· ≠ '.') with
  | _ :: _ :: _ => some (reversed.takeWhile (· ≠ '.')).reverse
  | _ => none

/-- Whether the file is a script, by its name. -/
def isScript (options : Options) : Bool :=
  extension? options.file = some "myc".toList

end Options

end StackScript.CommandLine
