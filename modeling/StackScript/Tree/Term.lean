import StackScript.Tree

/-!
# Terms

The part of a syntax tree under one of its nodes, as a tree in its own right: nodes that are used
several times stand at each of their places. Children have smaller numbers than their parents, so
the part under a node is finite; whatever is no such child reads as an error statement.
-/

namespace StackScript

/-- A tree of statements and expressions. -/
inductive Term where
  | sequence (first second : Term)
  | empty
  | evaluate (value : Term)
  | print (value : Term)
  | input (target : SymbolId)
  | ifThen (condition body : Term)
  | ifElse (condition body otherwise : Term)
  | error
  | equals (left right : Term)
  | assign (target : SymbolId) (value : Term)
  | add (left right : Term)
  | identifier (symbol : SymbolId)
  | stringConstant (symbol : SymbolId)
  | integerConstant (symbol : SymbolId)
  | coerceToString (operand : Term)
  | coerceToInteger (operand : Term)
deriving DecidableEq, Repr

namespace Term

/-- The kind of a term's topmost node. -/
def kind : Term → Kind
  | sequence _ _ => .sequence
  | empty => .empty
  | evaluate _ => .evaluate
  | print _ => .print
  | input _ => .input
  | ifThen _ _ => .ifThen
  | ifElse _ _ _ => .ifElse
  | error => .error
  | equals _ _ => .equals
  | assign _ _ => .assign
  | add _ _ => .add
  | identifier _ => .identifier
  | stringConstant _ => .stringConstant
  | integerConstant _ => .integerConstant
  | coerceToString _ => .coerceToString
  | coerceToInteger _ => .coerceToInteger

/-- The symbol of a term's topmost node. -/
def symbol? : Term → Option SymbolId
  | input symbol | assign symbol _ | identifier symbol | stringConstant symbol
  | integerConstant symbol => some symbol
  | _ => none

/-- The static type of a term. -/
def type : Term → Ty
  | equals _ _ => .bool
  | assign _ value => value.type
  | add left _ => left.type.ofSum
  | identifier _ | stringConstant _ | coerceToString _ => .string
  | integerConstant _ | coerceToInteger _ => .integer
  | _ => .void

end Term

/-- The term under a node of a tree. -/
def Tree.term (tree : Tree) (id : NodeId) : Term :=
  let child (child : NodeId) : Term := if child < id then tree.term child else .error
  match (tree.get? id).map Node.form with
  | none => .error
  | some (.sequence first second) => .sequence (child first) (child second)
  | some .empty => .empty
  | some (.evaluate value) => .evaluate (child value)
  | some (.print value) => .print (child value)
  | some (.input target) => .input target
  | some (.ifThen condition body) => .ifThen (child condition) (child body)
  | some (.ifElse condition body otherwise) =>
      .ifElse (child condition) (child body) (child otherwise)
  | some .error => .error
  | some (.equals left right) => .equals (child left) (child right)
  | some (.assign target value) => .assign target (child value)
  | some (.add left right) => .add (child left) (child right)
  | some (.identifier symbol) => .identifier symbol
  | some (.stringConstant symbol) => .stringConstant symbol
  | some (.integerConstant symbol) => .integerConstant symbol
  | some (.coerceToString operand) => .coerceToString (child operand)
  | some (.coerceToInteger operand) => .coerceToInteger (child operand)
termination_by id

end StackScript
