import StackScript.Tree.Term

/-!
# Tree listings

One line for each node under its parent, with the symbol of a node in parentheses. Sequences have no
line of their own: their statements stand at the level of the sequence.
-/

namespace StackScript.Term

/-- The symbol of a term in parentheses, in the form that suits the term's kind. -/
def mention (symbols : SymbolTable) (term : Term) : String :=
  match term.symbol?.bind symbols.get? with
  | none => ""
  | some symbol =>
      let text :=
        match term with
        | stringConstant _ => Text.quoted symbol.content.text
        | integerConstant _ => Text.decimal symbol.content.value.toInt
        | _ => symbol.name
      " (" ++ text ++ ")"

/-- The line of a term's topmost node, at a level of nesting. -/
def heading (symbols : SymbolTable) (level : Nat) (term : Term) : String :=
  Text.repeated (3 * level) ' ' ++ term.kind.name ++ term.mention symbols

/-- The lines of a term at a level of nesting. -/
def rows (symbols : SymbolTable) (level : Nat) : Term → List String
  | sequence first second => first.rows symbols level ++ second.rows symbols level
  | evaluate value => (evaluate value).heading symbols level :: value.rows symbols (level + 1)
  | print value => (print value).heading symbols level :: value.rows symbols (level + 1)
  | ifThen condition body =>
      (ifThen condition body).heading symbols level ::
        (condition.rows symbols (level + 1) ++ body.rows symbols (level + 1))
  | ifElse condition body otherwise =>
      (ifElse condition body otherwise).heading symbols level ::
        (condition.rows symbols (level + 1) ++ body.rows symbols (level + 1)
          ++ otherwise.rows symbols (level + 1))
  | equals left right =>
      (equals left right).heading symbols level ::
        (left.rows symbols (level + 1) ++ right.rows symbols (level + 1))
  | assign target value =>
      (assign target value).heading symbols level :: value.rows symbols (level + 1)
  | add left right =>
      (add left right).heading symbols level ::
        (left.rows symbols (level + 1) ++ right.rows symbols (level + 1))
  | coerceToString operand =>
      (coerceToString operand).heading symbols level :: operand.rows symbols (level + 1)
  | coerceToInteger operand =>
      (coerceToInteger operand).heading symbols level :: operand.rows symbols (level + 1)
  | leaf => [leaf.heading symbols level]

/-- The listing of a term. -/
def listing (symbols : SymbolTable) (term : Term) : String :=
  Text.lines (term.rows symbols 0)

end StackScript.Term
