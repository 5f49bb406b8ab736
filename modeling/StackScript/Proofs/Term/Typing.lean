import StackScript.Proofs.Symbol
import StackScript.Proofs.Term.Code

/-!
# Well-typed terms

What the checks of the syntax tree come to: an expression has one of three types and its operands
have the types that it asks for, and a statement is made of expressions and statements in their
places. A variable has the type of a string whatever it holds when the script runs, and only
variables are assigned to.
-/

namespace StackScript

namespace Term

/-- A term is an expression of a type, over the symbols of a table. -/
inductive HasType (table : SymbolTable) : Term → Ty → Prop
  | identifier {symbol : SymbolId} (named : table.content? symbol = some .identifier) :
      HasType table (.identifier symbol) .string
  | stringConstant {symbol : SymbolId} {text : String}
      (constant : table.content? symbol = some (.string text)) :
      HasType table (.stringConstant symbol) .string
  | integerConstant {symbol : SymbolId} {value : Int64}
      (constant : table.content? symbol = some (.integer value)) :
      HasType table (.integerConstant symbol) .integer
  | assign {target : SymbolId} {value : Term} {type : Ty}
      (named : table.content? target = some .identifier) (stored : HasType table value type) :
      HasType table (.assign target value) type
  | equals {left right : Term} {type : Ty} (first : HasType table left type)
      (second : HasType table right type) : HasType table (.equals left right) .bool
  | add {left right : Term} {type : Ty} (first : HasType table left type)
      (second : HasType table right type) (adds : type ≠ .bool) :
      HasType table (.add left right) type
  | coerceToString {operand : Term} {type : Ty} (converted : HasType table operand type)
      (other : type ≠ .string) : HasType table (.coerceToString operand) .string
  | coerceToInteger {operand : Term} {type : Ty} (converted : HasType table operand type)
      (other : type ≠ .integer) : HasType table (.coerceToInteger operand) .integer

/-- A term is a statement whose expressions have the types that it asks for. -/
inductive WellTyped (table : SymbolTable) : Term → Prop
  | sequence {first second : Term} (front : WellTyped table first)
      (back : WellTyped table second) : WellTyped table (.sequence first second)
  | empty : WellTyped table .empty
  | evaluate {value : Term} {type : Ty} (evaluated : HasType table value type) :
      WellTyped table (.evaluate value)
  | print {value : Term} {type : Ty} (printed : HasType table value type) :
      WellTyped table (.print value)
  | input {target : SymbolId} (named : table.content? target = some .identifier) :
      WellTyped table (.input target)
  | ifThen {condition body : Term} (decided : HasType table condition .bool)
      (runs : WellTyped table body) : WellTyped table (.ifThen condition body)
  | ifElse {condition body otherwise : Term} (decided : HasType table condition .bool)
      (runs : WellTyped table body) (elses : WellTyped table otherwise) :
      WellTyped table (.ifElse condition body otherwise)

section Typed

variable {table later : SymbolTable} {term : Term} {type : Ty}

/-- An expression has a type that values have. -/
theorem HasType.cases_type (typed : HasType table term type) :
    type = .string ∨ type = .integer ∨ type = .bool := by
  induction typed with
  | identifier | stringConstant | coerceToString => exact .inl rfl
  | integerConstant | coerceToInteger => exact .inr (.inl rfl)
  | equals => exact .inr (.inr rfl)
  | assign _ _ induction => exact induction
  | add _ _ _ induction => exact induction

/-- An expression has no other type than that of its topmost node. -/
theorem HasType.type_eq (typed : HasType table term type) : term.type = type := by
  induction typed with
  | assign _ _ induction => exact induction
  | @add left right type first second adds induction _ =>
      rw [Term.type, induction]
      rcases first.cases_type with rfl | rfl | rfl
      · rfl
      · rfl
      · exact absurd rfl adds
  | _ => rfl

/-- More symbols do not take a type away. -/
theorem HasType.of_prefix (grown : table.symbols <+: later.symbols)
    (typed : HasType table term type) : HasType later term type := by
  induction typed with
  | identifier named => exact .identifier (SymbolTable.content?_of_prefix grown named)
  | stringConstant constant => exact .stringConstant (SymbolTable.content?_of_prefix grown constant)
  | integerConstant constant =>
      exact .integerConstant (SymbolTable.content?_of_prefix grown constant)
  | assign named _ induction =>
      exact .assign (SymbolTable.content?_of_prefix grown named) induction
  | equals _ _ first second => exact .equals first second
  | add _ _ adds first second => exact .add first second adds
  | coerceToString _ other induction => exact .coerceToString induction other
  | coerceToInteger _ other induction => exact .coerceToInteger induction other

theorem WellTyped.of_prefix (grown : table.symbols <+: later.symbols)
    (typed : WellTyped table term) : WellTyped later term := by
  induction typed with
  | sequence _ _ front back => exact .sequence front back
  | empty => exact .empty
  | evaluate evaluated => exact .evaluate (evaluated.of_prefix grown)
  | print printed => exact .print (printed.of_prefix grown)
  | input named => exact .input (SymbolTable.content?_of_prefix grown named)
  | ifThen decided _ body => exact .ifThen (decided.of_prefix grown) body
  | ifElse decided _ _ body otherwise => exact .ifElse (decided.of_prefix grown) body otherwise

/-- A well-typed term mentions symbols of its table only. -/
theorem HasType.within (typed : HasType table term type) : term.Within table.size := by
  induction typed with
  | identifier known | stringConstant known | integerConstant known =>
      exact SymbolTable.lt_size_of_content? known
  | assign named _ induction => exact ⟨SymbolTable.lt_size_of_content? named, induction⟩
  | equals _ _ first second => exact ⟨first, second⟩
  | add _ _ _ first second => exact ⟨first, second⟩
  | coerceToString _ _ induction => exact induction
  | coerceToInteger _ _ induction => exact induction

theorem WellTyped.within (typed : WellTyped table term) : term.Within table.size := by
  induction typed with
  | sequence _ _ front back => exact ⟨front, back⟩
  | empty => exact trivial
  | evaluate evaluated => exact evaluated.within
  | print printed => exact printed.within
  | input named => exact SymbolTable.lt_size_of_content? named
  | ifThen decided _ body => exact ⟨decided.within, body⟩
  | ifElse decided _ _ body otherwise => exact ⟨decided.within, body, otherwise⟩

end Typed

end Term

end StackScript
