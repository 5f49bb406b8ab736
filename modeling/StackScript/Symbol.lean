import StackScript.Text.Column
import StackScript.Text.Decimal
import StackScript.Text.Quoted

/-!
# Symbols

Every variable, string constant and integer constant that a script mentions has one symbol. A table
keeps symbols in the order in which they were first met and never holds two of one name.
-/

namespace StackScript

/-- What a symbol stands for. -/
inductive Content where
  /-- A variable, known by its name alone. -/
  | identifier
  /-- A string constant. -/
  | string (text : String)
  /-- An integer constant. -/
  | integer (value : Int64)
deriving DecidableEq, Repr

namespace Content

/-- The text of a string constant; other symbols have none. -/
def text : Content → String
  | string text => text
  | _ => ""

/-- The value of an integer constant; other symbols have none. -/
def value : Content → Int64
  | integer value => value
  | _ => 0

end Content

/-- A variable or constant that a script mentions. -/
structure Symbol where
  /-- The name, by which the table tells symbols apart. -/
  name : String
  /-- What the symbol stands for. -/
  content : Content
  /-- The line of the script that the symbol is entered for. -/
  line : Nat
  /-- The memory slot of the symbol, once it has one. -/
  slot : Option Nat
deriving DecidableEq, Repr

/-- The number of a symbol in its table. -/
abbrev SymbolId := Nat

namespace Symbol

/-- The symbol of a variable. -/
def identifier (name : String) (line : Nat) : Symbol :=
  ⟨name, .identifier, line, none⟩

/-- The symbol of a string constant, named by its quoted form. -/
def string (text : String) (line : Nat) : Symbol :=
  ⟨Text.quoted text, .string text, line, none⟩

/-- The symbol of an integer constant, named by its decimal form. -/
def integer (value : Int64) (line : Nat) : Symbol :=
  ⟨Text.decimal value.toInt, .integer value, line, none⟩

end Symbol

/-- Symbols in the order of their first mention. -/
structure SymbolTable where
  /-- The symbols. -/
  symbols : List Symbol
deriving DecidableEq, Repr

namespace SymbolTable

/-- The table without symbols. -/
def empty : SymbolTable := ⟨[]⟩

/-- The number of symbols. -/
def size (table : SymbolTable) : Nat :=
  table.symbols.length

/-- The symbol of a number. -/
def get? (table : SymbolTable) (id : SymbolId) : Option Symbol :=
  table.symbols[id]?

/-- The symbol of a name. -/
def find? (table : SymbolTable) (name : String) : Option Symbol :=
  table.symbols.find? (·.name = name)

/-- The number of the symbol of a name. -/
def indexOf? (table : SymbolTable) (name : String) : Option SymbolId :=
  table.symbols.findIdx? (·.name = name)

/-- The table with a symbol in it, at its end unless there is one of that name, and the number of
the symbol of that name. -/
def intern (table : SymbolTable) (symbol : Symbol) : SymbolTable × SymbolId :=
  match table.indexOf? symbol.name with
  | some id => (table, id)
  | none => (⟨table.symbols ++ [symbol]⟩, table.size)

/-- The table with a symbol in it. -/
def add (table : SymbolTable) (symbol : Symbol) : SymbolTable :=
  (table.intern symbol).1

/-- The table with a memory slot recorded for the symbol of a number. -/
def setSlot (table : SymbolTable) (id : SymbolId) (slot : Nat) : SymbolTable :=
  ⟨table.symbols.modify id ({ · with slot := some slot })⟩

/-- The table in which the memory slot of every symbol is its number. -/
def assignSlots (table : SymbolTable) : SymbolTable :=
  ⟨table.symbols.mapIdx fun id symbol => { symbol with slot := some id }⟩

/-- The number that interning answers is the number of the name in the new table. -/
theorem indexOf?_intern (table : SymbolTable) (symbol : Symbol) :
    (table.intern symbol).1.indexOf? symbol.name = some (table.intern symbol).2 := by
  cases known : table.indexOf? symbol.name with
  | some id => simp [intern, known]
  | none =>
      have unknown := known
      simp only [indexOf?] at unknown
      simp [intern, indexOf?, unknown, List.findIdx?_append, size, List.findIdx?_cons]

/-- A table has as many symbols after its slots are assigned as before. -/
@[simp] theorem size_assignSlots (table : SymbolTable) : table.assignSlots.size = table.size := by
  simp [assignSlots, size]

/-- What the listing says of a symbol's content. -/
def contentText (symbol : Symbol) : String :=
  match symbol.content with
  | .identifier => "<identifier>"
  | .string text => "= " ++ Text.quoted text
  | .integer value => "= " ++ Text.decimal value.toInt

/-- The line of a symbol in the listing. -/
def row (symbol : Symbol) : String :=
  "| " ++ Text.leftAligned 20 symbol.name ++ " | "
    ++ Text.rightAligned 4 (Text.decimal symbol.line) ++ " | " ++ contentText symbol

/-- The listing of a table: names, lines and contents, in order. -/
def listing (table : SymbolTable) : String :=
  let rule := "+----------------------+------+"
  Text.lines ([rule, "| Name                 | Line |", rule] ++ table.symbols.map row ++ [rule])

end SymbolTable

end StackScript
