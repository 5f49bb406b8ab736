/-!
# Static types

The types that are known before a script runs. Only the kinds of phrases and constants decide them:
what a variable holds at run time is not among them.
-/

namespace StackScript

/-- The static type of a phrase. -/
inductive Ty where
  /-- The type of statements. -/
  | void
  | string
  | integer
  | bool
  /-- The type of an addition whose left operand cannot be added to. -/
  | unknown
deriving DecidableEq, Repr

/-- The name of a type. -/
def Ty.name : Ty → String
  | void => "void"
  | string => "string"
  | integer => "integer"
  | bool => "bool"
  | unknown => "unknown"

/-- The type of an addition, by that of its left operand. -/
def Ty.ofSum : (left : Ty) → Ty
  | string => string
  | integer => integer
  | _ => unknown

end StackScript
