import Mathlib.Algebra.Group.Nat.Defs
import StackScript.Instruction
import StackScript.Tree.Term

/-!
# The code of a term

What a term is compiled to, said directly: the instructions of its parts in the order in which they
run, with the offsets that lead over the parts that do not. The slot of a symbol is its number. Each
landing is an instruction that does nothing, and a jump goes on behind it.
-/

namespace StackScript.Term

/-- The instruction that compares with the value of a term. -/
def comparisonInstruction (left : Term) : Instruction :=
  if left.type = .bool then .boolEqual else .equal

/-- The instruction that makes a string of the value of a term. -/
def conversionInstruction (operand : Term) : Instruction :=
  if operand.type = .bool then .boolToString else .integerToString

/-- The instructions of a term. -/
def code : Term → List Instruction
  | sequence first second => first.code ++ second.code
  | empty | error => [.nop]
  | evaluate value => value.code ++ [.discard]
  | print value => value.code ++ [.print]
  | input target => [.input target]
  | ifThen condition body =>
      condition.code ++ .jumpIfFalse (Int32.ofInt (body.code.length + 2)) :: (body.code ++ [.nop])
  | ifElse condition body otherwise =>
      condition.code ++ .jumpIfFalse (Int32.ofInt (body.code.length + 3)) ::
        (body.code ++ .jump (Int32.ofInt (otherwise.code.length + 3)) :: .nop ::
          (otherwise.code ++ [.nop]))
  | equals left right => left.code ++ right.code ++ [left.comparisonInstruction]
  | assign target value => value.code ++ [.getTop target]
  | add left right => left.code ++ right.code ++ [.add]
  | identifier symbol | stringConstant symbol | integerConstant symbol => [.push symbol]
  | coerceToString operand => operand.code ++ [operand.conversionInstruction]
  | coerceToInteger operand => operand.code ++ [.stringToInteger]

/-- Every offset of a term's code can be written. -/
def Fits : Term → Prop
  | sequence first second | equals first second | add first second => first.Fits ∧ second.Fits
  | evaluate value | print value | assign _ value | coerceToString value | coerceToInteger value =>
      value.Fits
  | ifThen condition body => condition.Fits ∧ body.Fits ∧ body.code.length + 2 < 2 ^ 31
  | ifElse condition body otherwise =>
      condition.Fits ∧ body.Fits ∧ otherwise.Fits ∧
        body.code.length + 3 < 2 ^ 31 ∧ otherwise.code.length + 3 < 2 ^ 31
  | empty | input _ | error | identifier _ | stringConstant _ | integerConstant _ => True

/-- Every symbol of a term has a number below a bound. -/
def Within (bound : Nat) : Term → Prop
  | sequence first second | ifThen first second | equals first second | add first second =>
      first.Within bound ∧ second.Within bound
  | evaluate value | print value | coerceToString value | coerceToInteger value =>
      value.Within bound
  | ifElse condition body otherwise =>
      condition.Within bound ∧ body.Within bound ∧ otherwise.Within bound
  | assign target value => target < bound ∧ value.Within bound
  | input symbol | identifier symbol | stringConstant symbol | integerConstant symbol =>
      symbol < bound
  | empty | error => True

/-- No term is without code. -/
theorem length_code_pos (term : Term) : 0 < term.code.length := by
  induction term with
  | sequence first second induction _ =>
      rw [code, List.length_append]
      exact Nat.add_pos_left induction _
  | _ =>
      simp only [code, List.length_append, List.length_cons]
      omega

/-- Code of fewer than `2 ^ 31` instructions has no offset that cannot be written. -/
theorem fits_of_length {term : Term} (short : term.code.length < 2 ^ 31) : term.Fits := by
  induction term with
  | empty | input _ | error | identifier _ | stringConstant _ | integerConstant _ => exact trivial
  | evaluate value induction | print value induction | assign target value induction
  | coerceToString value induction | coerceToInteger value induction =>
      rw [code, List.length_append] at short
      exact induction (Nat.lt_of_le_of_lt (Nat.le_add_right _ _) short)
  | sequence first second inductionFirst inductionSecond =>
      rw [code, List.length_append] at short
      exact ⟨inductionFirst (by omega), inductionSecond (by omega)⟩
  | equals first second inductionFirst inductionSecond
  | add first second inductionFirst inductionSecond =>
      simp only [code, List.length_append] at short
      exact ⟨inductionFirst (by omega), inductionSecond (by omega)⟩
  | ifThen condition body inductionCondition inductionBody =>
      have nonempty := condition.length_code_pos
      simp only [code, List.length_append, List.length_cons, List.length_nil] at short
      exact ⟨inductionCondition (by omega), inductionBody (by omega), by omega⟩
  | ifElse condition body otherwise inductionCondition inductionBody inductionOtherwise =>
      have nonempty := condition.length_code_pos
      simp only [code, List.length_append, List.length_cons, List.length_nil] at short
      exact ⟨inductionCondition (by omega), inductionBody (by omega),
        inductionOtherwise (by omega), by omega, by omega⟩

end StackScript.Term
