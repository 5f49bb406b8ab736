/-!
# Columns

Text set into columns of a fixed width. A width counts characters, and text wider than its column
is left whole.
-/

namespace StackScript.Text

/-- Text at the left of a column. -/
def leftAligned (width : Nat) (text : String) : String :=
  text ++ String.ofList (List.replicate (width - text.length) ' ')

/-- Text at the right of a column. -/
def rightAligned (width : Nat) (text : String) : String :=
  String.ofList (List.replicate (width - text.length) ' ') ++ text

/-- A character repeated. -/
def repeated (count : Nat) (c : Char) : String :=
  String.ofList (List.replicate count c)

/-- Lines of text, each ended by a line feed. -/
def lines (content : List String) : String :=
  String.join (content.map (· ++ "\n"))

end StackScript.Text
