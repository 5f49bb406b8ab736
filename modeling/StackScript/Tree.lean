import StackScript.Diagnostic
import StackScript.Symbol

/-!
# Syntax trees

The nodes of a syntax tree are kept in one array in the order of their creation and refer to each
other by number, always to nodes created before. A node is typed when it is made: statements are
void, comparisons are booleans, names are strings whatever they hold when the script runs, an
assignment has the type of its value, and an addition has that of its left operand.
-/

namespace StackScript

/-- The number of a node in its tree. -/
abbrev NodeId := Nat

/-- The kind of a node. -/
inductive Kind where
  | sequence
  | empty
  | evaluate
  | print
  | input
  | ifThen
  | ifElse
  /-- A statement that could not be read. -/
  | error
  | equals
  | assign
  | add
  | identifier
  | stringConstant
  | integerConstant
  | coerceToString
  | coerceToInteger
deriving DecidableEq, Repr

namespace Kind

/-- The name of a kind in listings. -/
def name : Kind → String
  | sequence => "statement_list"
  | empty => "empty_statement"
  | evaluate => "expression_statement"
  | print => "print_statement"
  | input => "input_statement"
  | ifThen => "if_then_statement"
  | ifElse => "if_then_else_statement"
  | error => "error_statement"
  | equals => "equals"
  | assign => "assign"
  | add => "add"
  | identifier => "identifier"
  | stringConstant => "string_constant"
  | integerConstant => "integer_value"
  | coerceToString => "coercion_to_string"
  | coerceToInteger => "coercion_to_integer"

/-- All kinds. -/
def all : List Kind :=
  [sequence, empty, evaluate, print, input, ifThen, ifElse, error, equals, assign, add, identifier,
    stringConstant, integerConstant, coerceToString, coerceToInteger]

/-- The number of children of a kind. -/
def arity : Kind → Nat
  | empty | input | error | identifier | stringConstant | integerConstant => 0
  | evaluate | print | assign | coerceToString | coerceToInteger => 1
  | sequence | ifThen | equals | add => 2
  | ifElse => 3

/-- Whether nodes of a kind are statements. -/
def isStatement : Kind → Bool
  | sequence | empty | evaluate | print | input | ifThen | ifElse | error => true
  | _ => false

end Kind

/-- A node's kind together with the children and the symbol that its kind asks for. -/
inductive Form where
  | sequence (first second : NodeId)
  | empty
  | evaluate (value : NodeId)
  | print (value : NodeId)
  | input (target : SymbolId)
  | ifThen (condition body : NodeId)
  | ifElse (condition body otherwise : NodeId)
  | error
  | equals (left right : NodeId)
  | assign (target : SymbolId) (value : NodeId)
  | add (left right : NodeId)
  | identifier (symbol : SymbolId)
  | stringConstant (symbol : SymbolId)
  | integerConstant (symbol : SymbolId)
  | coerceToString (operand : NodeId)
  | coerceToInteger (operand : NodeId)
deriving DecidableEq, Repr

namespace Form

/-- The kind of a form. -/
def kind : Form → Kind
  | sequence _ _ => .sequence
  | empty => .empty
  | evaluate _ => .evaluate
  | print _ => .print
  | input _ => .input
  | ifThen _ _ => .ifThen
  | ifElse _ _ _ => .ifElse
  | error => .error
  | equals _ _ => .equals
  | assign _ _ => .assign
  | add _ _ => .add
  | identifier _ => .identifier
  | stringConstant _ => .stringConstant
  | integerConstant _ => .integerConstant
  | coerceToString _ => .coerceToString
  | coerceToInteger _ => .coerceToInteger

/-- The children of a form, in order. -/
def children : Form → List NodeId
  | sequence first second => [first, second]
  | evaluate value | print value | assign _ value => [value]
  | ifThen condition body => [condition, body]
  | ifElse condition body otherwise => [condition, body, otherwise]
  | equals left right | add left right => [left, right]
  | coerceToString operand | coerceToInteger operand => [operand]
  | empty | input _ | error | identifier _ | stringConstant _ | integerConstant _ => []

/-- The symbol of a form, if its kind has one. -/
def symbol? : Form → Option SymbolId
  | input symbol | assign symbol _ | identifier symbol | stringConstant symbol
  | integerConstant symbol => some symbol
  | _ => none

/-- A form has as many children as its kind asks for. -/
theorem length_children (form : Form) : form.children.length = form.kind.arity := by
  cases form <;> rfl

end Form

/-- A node of a syntax tree. -/
structure Node where
  /-- The kind, children and symbol of the node. -/
  form : Form
  /-- The static type of the node. -/
  type : Ty
  /-- The line of the script that the node is recorded for. -/
  line : Nat
deriving DecidableEq, Repr

/-- The nodes of a script in the order of their creation. -/
structure Tree where
  /-- The nodes. -/
  nodes : Array Node
deriving DecidableEq, Repr

namespace Tree

/-- The tree without nodes. -/
def empty : Tree := ⟨#[]⟩

/-- The number of nodes. -/
def size (tree : Tree) : Nat :=
  tree.nodes.size

/-- The node of a number. -/
def get? (tree : Tree) (id : NodeId) : Option Node :=
  tree.nodes[id]?

/-- The type of the node of a number. -/
def typeOf (tree : Tree) (id : NodeId) : Ty :=
  ((tree.get? id).map Node.type).getD .unknown

/-- The tree with one more node, whose number is the number of nodes before it. -/
def push (tree : Tree) (node : Node) : Tree :=
  ⟨tree.nodes.push node⟩

@[simp] theorem size_push (tree : Tree) (node : Node) : (tree.push node).size = tree.size + 1 := by
  simp [push, size]

/-- A new node is found under the number of nodes before it, the others where they were. -/
theorem get?_push (tree : Tree) (node : Node) (id : NodeId) :
    (tree.push node).get? id = if id = tree.size then some node else tree.get? id :=
  Array.getElem?_push

end Tree

end StackScript
