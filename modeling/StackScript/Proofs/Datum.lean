import StackScript.Cell

/-!
# Data

What an expression yields: the content of a cell, or a boolean. Booleans have a text and an integer
of their own wherever a cell would be asked for its own.
-/

namespace StackScript

/-- What an expression yields. -/
inductive Datum where
  /-- What a cell holds. -/
  | cell (content : Cell)
  | bool (value : Bool)
deriving DecidableEq, Repr

namespace Datum

/-- The text of a datum, if anything is stored in it. -/
def text? : Datum → Option String
  | cell content => content.text?
  | bool value => some (if value then "true" else "false")

/-- What a cell holds after a datum is stored in it: booleans are stored as their text. -/
def stored : Datum → Cell
  | cell content => content
  | bool value => .string (if value then "true" else "false")

/-- The text of a datum, which is empty if nothing is stored in it. -/
def toText (datum : Datum) : String :=
  datum.text?.getD ""

/-- A datum as an integer. -/
def toInteger : Datum → Int64
  | cell content => content.toInteger
  | bool value => if value then 1 else 0

/-- Whether two data are the same boolean. -/
def sameBool : Datum → Datum → Bool
  | bool left, bool right => left = right
  | _, _ => false

/-- Whether two data are the same boolean, the same string or the same integer. -/
def agrees : Datum → Datum → Bool
  | cell left, cell right => left.agrees right
  | bool left, bool right => left = right
  | _, _ => false

theorem agrees_bool (left right : Bool) :
    (bool left).agrees (bool right) = (bool right).sameBool (bool left) := by
  simp [agrees, sameBool, eq_comm]

/-- The sum of two data; booleans are not added. -/
def add : Datum → Datum → Datum
  | cell left, cell right => cell (left.add right)
  | left, _ => left

end Datum

namespace Cell

/-- The sum of two cells in use is no free cell. -/
theorem isFree_add {left : Cell} (kept : left.isFree = false) (right : Cell) :
    (left.add right).isFree = false := by
  cases left <;> cases right <;> simp_all [add, isFree]

/-- Whether two cells hold the same does not depend on their order. -/
theorem agrees_comm (left right : Cell) : left.agrees right = right.agrees left := by
  cases left <;> cases right <;> simp [agrees, eq_comm]

end Cell

end StackScript
