import StackScript.CommandLine

/-!
# Calls in a folder

A call can be carried out in a folder that holds files and no folders. What the call did is then
known from its input and the files alone.
-/

namespace StackScript.CommandLine

/-- Files by their names. -/
structure Folder where
  /-- The files, the latest version of each first. -/
  files : List (String × List UInt8)
deriving DecidableEq, Repr

namespace Folder

/-- The wording for a path that leads to no file. -/
def noSuchFile : String := "No such file or directory (os error 2)"

/-- A path without the dots by which it names the folder that it starts from. -/
def plainPath : List Char → List Char
  | '.' :: '/' :: rest => plainPath rest
  | path => path

/-- The name of the file in the folder that a path leads to, if it leads to one. -/
def name? (path : String) : Option String :=
  let plain := plainPath path.toList
  if plain = [] ∨ '/' ∈ plain then none else some (String.ofList plain)

/-- The content of a file. -/
def read (folder : Folder) (path : String) : Except String (List UInt8) :=
  match (name? path).bind (folder.files.lookup ·) with
  | some content => .ok content
  | none => .error noSuchFile

/-- The folder with a file written, and whether it could be. -/
def write (folder : Folder) (path : String) (content : List UInt8) :
    Except String Unit × Folder :=
  match name? path with
  | some name => (.ok (), ⟨(name, content) :: folder.files⟩)
  | none => (.error noSuchFile, folder)

end Folder

/-- What a call did. -/
structure Result where
  /-- What it wrote. -/
  page : Page
  /-- Whether it succeeded. -/
  success : Bool
  /-- The files that it left. -/
  folder : Folder
deriving DecidableEq, Repr

/-- The end of a call of which nothing is left to do but to tell success from failure. -/
def Result.of (folder : Folder) : Page × Task → Result
  | (page, .finish success) => ⟨page, success, folder⟩
  | (page, _) => ⟨page, false, folder⟩

/-- Carry out a call. -/
def call (options : Options) (input : List UInt8) (folder : Folder) : Result :=
  match withFile options (folder.read options.file) with
  | (page, .emit path image) =>
      let (written, folder) := folder.write path image
      .of folder (afterEmit options page path written)
  | (page, .run program) => .of folder (afterRun options page program input)
  | ended => .of folder ended

end StackScript.CommandLine
