import StackScript.Symbol
import StackScript.Token

/-!
# Phrases

The statements and expressions of a script as they are read from its tokens, faults included. A
statement that cannot be read keeps the fragments that were complete before the fault, so that what
they mention and how they are typed is still accounted for. Every phrase carries the line that its
node in the syntax tree is recorded for.
-/

namespace StackScript

/-- What the grammar asks for at a place. -/
inductive Expectation where
  | statement
  | expression
  | nameAfterInput
  | parenAfterIf
  | parenAfterCondition
  | closingParen
  | closingBrace
  | semicolonAfterPrint
  | semicolonAfterInput
  | semicolonAfterExpression
deriving DecidableEq, Repr

/-- The wording of an expectation. -/
def Expectation.describe : Expectation → String
  | statement => "a statement"
  | expression => "an expression"
  | nameAfterInput => "an identifier after 'input'"
  | parenAfterIf => "'(' after 'if'"
  | parenAfterCondition => "')' after the condition"
  | closingParen => "')'"
  | closingBrace => "'\x7d' to close the block"
  | semicolonAfterPrint => "';' after print"
  | semicolonAfterInput => "';' after input"
  | semicolonAfterExpression => "';' after expression"

/-- Why tokens are not a statement. -/
inductive GrammarFault where
  /-- Another token, or none, stands where the grammar asks for something. -/
  | unexpected (wanted : Expectation) (found : Option Token)
  /-- An `else` that follows no `if`. -/
  | strayElse
deriving DecidableEq, Repr

/-- The wording of a fault. The end of the tokens reads like the end of the script. -/
def GrammarFault.message : GrammarFault → String
  | unexpected wanted found =>
      "expected " ++ wanted.describe ++ ", found " ++ (found.getD .endOfFile).describe
  | strayElse => "'else' without a matching 'if'"

/-- A fault and the line it is reported for. -/
structure GrammarError where
  /-- What is wrong. -/
  fault : GrammarFault
  /-- The line of the script. -/
  line : Nat
deriving DecidableEq, Repr

/-- An expression of a script. -/
inductive Expression where
  /-- The mention of a variable or constant. -/
  | atom (symbol : Symbol) (line : Nat)
  | assign (target : Symbol) (value : Expression) (line : Nat)
  | equals (left right : Expression) (line : Nat)
  | add (left right : Expression) (line : Nat)
deriving DecidableEq, Repr

/-- What is left of an expression or statement that could not be read to its end. -/
inductive Fragment where
  /-- The target of an assignment or input. -/
  | target (symbol : Symbol)
  /-- A complete expression. -/
  | expression (value : Expression)
deriving DecidableEq, Repr

/-- A statement of a script. -/
inductive Statement where
  | empty (line : Nat)
  | evaluate (value : Expression) (line : Nat)
  | print (value : Expression) (line : Nat)
  | input (target : Symbol) (line : Nat)
  | ifThen (condition : Expression) (body : Statement) (line : Nat)
  | ifElse (condition : Expression) (body otherwise : Statement) (line : Nat)
  | block (statements : List Statement) (line : Nat)
  /-- A statement given up at a fault. -/
  | broken (fragments : List Fragment) (error : GrammarError) (line : Nat)
  /-- A block given up because the script ends inside it. -/
  | unclosed (statements : List Statement) (error : GrammarError) (line : Nat)
deriving Repr

/-- A whole script. -/
structure Script where
  /-- The statements at the top level. -/
  statements : List Statement
  /-- The line that the list of the statements is recorded for. -/
  line : Nat
deriving Repr

end StackScript
