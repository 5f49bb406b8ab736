import StackScript.Tree

/-!
# Drafts

A draft is a syntax tree in the making, with the symbols it refers to and the diagnostics recorded
so far. Each constructor types its node and checks its operands on the spot. A check that fails is
recorded under the node's line; the node is made all the same.
-/

namespace StackScript

/-- A conversion of the right operand of an addition. -/
inductive Coercion where
  | toString
  | toInteger
deriving DecidableEq, Repr

/-- The conversion that brings a right operand to the type of the left one, if it needs one. -/
def Coercion.forAddend : (left right : Ty) → Except Problem (Option Coercion)
  | .string, .string => .ok none
  | .string, .integer => .ok (some .toString)
  | .string, .bool => .ok (some .toString)
  | .string, right => .error (.notCoercibleToString right)
  | .integer, .integer => .ok none
  | .integer, .string => .ok (some .toInteger)
  | .integer, .bool => .ok (some .toInteger)
  | .integer, right => .error (.notCoercibleToInteger right)
  | left, _ => .error (.badAddend left)

/-- A syntax tree in the making. -/
structure Draft where
  /-- The symbols mentioned so far. -/
  symbols : SymbolTable
  /-- The nodes made so far. -/
  tree : Tree
  /-- The faults found so far. -/
  diagnostics : Array Diagnostic
deriving DecidableEq, Repr

namespace Draft

/-- The draft in which nothing has been made. -/
def empty : Draft := ⟨.empty, .empty, #[]⟩

/-- The draft with a symbol in its table, and the number of that symbol. -/
def intern (draft : Draft) (symbol : Symbol) : Draft × SymbolId :=
  ({ draft with symbols := (draft.symbols.intern symbol).1 }, (draft.symbols.intern symbol).2)

/-- The draft with a fault recorded. -/
def report (draft : Draft) (line : Nat) (problem : Problem) : Draft :=
  { draft with diagnostics := draft.diagnostics.push ⟨line, problem⟩ }

/-- The draft with one more node, and the number of that node. -/
def push (draft : Draft) (form : Form) (type : Ty) (line : Nat) : Draft × NodeId :=
  ({ draft with tree := draft.tree.push ⟨form, type, line⟩ }, draft.tree.size)

/-- The draft with one more statement, and its number. -/
def statement (draft : Draft) (line : Nat) (form : Form) : Draft × NodeId :=
  draft.push form .void line

/-- Record a condition that is not a boolean. -/
def checkCondition (draft : Draft) (line : Nat) (condition : NodeId) : Draft :=
  let found := draft.tree.typeOf condition
  if found = .bool then draft else draft.report line (.conditionNotBoolean found)

/-- Make a statement that runs another if a condition holds. -/
def ifThen (draft : Draft) (line : Nat) (condition body : NodeId) : Draft × NodeId :=
  (draft.checkCondition line condition).statement line (.ifThen condition body)

/-- Make a statement that runs one of two others. -/
def ifElse (draft : Draft) (line : Nat) (condition body otherwise : NodeId) : Draft × NodeId :=
  (draft.checkCondition line condition).statement line (.ifElse condition body otherwise)

/-- Make a statement that runs two others in turn. -/
def sequence (draft : Draft) (line : Nat) (first second : NodeId) : Draft × NodeId :=
  draft.statement line (.sequence first second)

/-- Make one statement of a list: the empty statement of none, and nested sequences of several. -/
def block (draft : Draft) (line : Nat) : List NodeId → Draft × NodeId
  | [] => draft.statement line .empty
  | first :: rest =>
      rest.foldl (fun (draft, folded) next => draft.sequence line folded next) (draft, first)

/-- Make a comparison; its operands have to be of one type. -/
def equals (draft : Draft) (line : Nat) (left right : NodeId) : Draft × NodeId :=
  let leftType := draft.tree.typeOf left
  let rightType := draft.tree.typeOf right
  let checked :=
    if leftType = rightType then draft else draft.report line (.typesDiffer leftType rightType)
  checked.push (.equals left right) .bool line

/-- Make an assignment, which has the type of its value. -/
def assign (draft : Draft) (line : Nat) (target : SymbolId) (value : NodeId) : Draft × NodeId :=
  draft.push (.assign target value) (draft.tree.typeOf value) line

/-- Make the conversion of an operand. -/
def coerce (draft : Draft) (line : Nat) (operand : NodeId) : Coercion → Draft × NodeId
  | .toString => draft.push (.coerceToString operand) .string line
  | .toInteger => draft.push (.coerceToInteger operand) .integer line

/-- Make an addition; the right operand is converted to the type of the left one. -/
def add (draft : Draft) (line : Nat) (left right : NodeId) : Draft × NodeId :=
  let type := draft.tree.typeOf left
  let (prepared, addend) :=
    match Coercion.forAddend type (draft.tree.typeOf right) with
    | .ok none => (draft, right)
    | .ok (some coercion) => draft.coerce line right coercion
    | .error problem => (draft.report line problem, right)
  prepared.push (.add left addend) type.ofSum line

/-- Make the mention of a variable. -/
def identifier (draft : Draft) (line : Nat) (symbol : SymbolId) : Draft × NodeId :=
  draft.push (.identifier symbol) .string line

/-- Make the mention of a string constant. -/
def stringConstant (draft : Draft) (line : Nat) (symbol : SymbolId) : Draft × NodeId :=
  draft.push (.stringConstant symbol) .string line

/-- Make the mention of an integer constant. -/
def integerConstant (draft : Draft) (line : Nat) (symbol : SymbolId) : Draft × NodeId :=
  draft.push (.integerConstant symbol) .integer line

end Draft

end StackScript
