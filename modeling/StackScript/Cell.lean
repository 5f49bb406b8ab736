import StackScript.Text.LeadingInteger
import StackScript.Text.Decimal

/-!
# Memory cells

A cell holds a string or an integer, or nothing yet, or it is free for reuse. Booleans are never
kept in cells.
-/

namespace StackScript

/-- A cell of the machine's memory. -/
inductive Cell where
  /-- A cell that is not in use. -/
  | free
  /-- A cell in use that nothing has been stored in. -/
  | unknown
  | string (text : String)
  | integer (value : Int64)
deriving DecidableEq, Repr

namespace Cell

/-- Whether a cell is not in use. -/
def isFree : Cell → Bool
  | free => true
  | _ => false

/-- The sum of two cells, of the kind of the left one unless nothing is stored there: strings are
put in a row, integers are added modulo the word size, and the right operand is read as the left
kind asks. What was never stored adds nothing. -/
def add : Cell → Cell → Cell
  | string left, string right => string (left ++ right)
  | integer left, integer right => integer (left + right)
  | unknown, string right => string right
  | unknown, integer right => integer right
  | integer left, string right => integer (left + Text.leadingInteger right)
  | string left, integer right => string (left ++ Text.decimal right.toInt)
  | left, _ => left

/-- Whether two cells hold the same string or the same integer. -/
def agrees : Cell → Cell → Bool
  | string left, string right => left = right
  | integer left, integer right => left = right
  | _, _ => false

/-- The text that is written for a cell, if anything is stored in it. -/
def text? : Cell → Option String
  | string text => some text
  | integer value => some (Text.decimal value.toInt)
  | _ => none

/-- A cell as an integer; zero if nothing is stored in it. -/
def toInteger : Cell → Int64
  | string text => Text.leadingInteger text
  | integer value => value
  | _ => 0

end Cell

end StackScript
