import StackScript.Text.Decimal
import StackScript.Ty

/-!
# Diagnostics

What is wrong with a script, by line. A script with a diagnostic is not compiled.
-/

namespace StackScript

/-- A fault of a script. -/
inductive Problem where
  /-- Tokens that are not in the grammar. -/
  | malformed (message : String)
  /-- A condition that is not a comparison. -/
  | conditionNotBoolean (found : Ty)
  /-- A comparison of values of different types. -/
  | typesDiffer (left right : Ty)
  /-- A value added to a string that has no string form. -/
  | notCoercibleToString (found : Ty)
  /-- A value added to an integer that has no integer form. -/
  | notCoercibleToInteger (found : Ty)
  /-- A left operand that nothing can be added to. -/
  | badAddend (found : Ty)
deriving DecidableEq, Repr

/-- The wording of a fault. -/
def Problem.message : Problem → String
  | malformed message => "syntax error: " ++ message
  | conditionNotBoolean found => "if: condition should be boolean, found " ++ found.name
  | typesDiffer left right =>
      "==: different types (" ++ left.name ++ " and " ++ right.name ++ ")"
  | notCoercibleToString found =>
      "+: could not coerce second argument to string (found " ++ found.name ++ ")"
  | notCoercibleToInteger found =>
      "+: could not coerce second argument to integer (found " ++ found.name ++ ")"
  | badAddend found => "+: first argument must be a string or an integer, found " ++ found.name

/-- A fault and the line it is reported for. -/
structure Diagnostic where
  /-- The line of the script. -/
  line : Nat
  /-- The fault. -/
  problem : Problem
deriving DecidableEq, Repr

/-- The line and wording of a diagnostic. -/
def Diagnostic.message (diagnostic : Diagnostic) : String :=
  "Line " ++ Text.decimal diagnostic.line ++ ": " ++ diagnostic.problem.message

/-- The number of faults, in words. -/
def Diagnostic.summary (count : Nat) : String :=
  Text.decimal count ++ " error(s) were found."

end StackScript
