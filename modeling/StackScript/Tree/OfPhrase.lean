import StackScript.Phrase.Parser
import StackScript.Tree.Draft

/-!
# The syntax tree of a script

A script is drafted phrase by phrase, operands before the phrase that holds them. The fragments of
a statement that was given up are drafted too, then its fault is reported and an error statement
takes its place.
-/

namespace StackScript

namespace Expression

/-- The mention of a symbol, by what the symbol stands for. -/
def draftAtom (draft : Draft) (symbol : Symbol) (line : Nat) : Draft × NodeId :=
  let (draft, id) := draft.intern symbol
  match symbol.content with
  | .identifier => draft.identifier line id
  | .string _ => draft.stringConstant line id
  | .integer _ => draft.integerConstant line id

/-- The draft with the nodes of an expression, and the number of its topmost node. -/
def draft (draft : Draft) : Expression → Draft × NodeId
  | atom symbol line => draftAtom draft symbol line
  | assign target value line =>
      let (draft, symbol) := draft.intern target
      let (draft, value) := value.draft draft
      draft.assign line symbol value
  | equals left right line =>
      let (draft, left) := left.draft draft
      let (draft, right) := right.draft draft
      draft.equals line left right
  | add left right line =>
      let (draft, left) := left.draft draft
      let (draft, right) := right.draft draft
      draft.add line left right

end Expression

/-- The draft with the symbols and nodes of a fragment. -/
def Fragment.draft (draft : Draft) : Fragment → Draft
  | target symbol => (draft.intern symbol).1
  | expression value => (value.draft draft).1

/-- The draft with a fault of the grammar reported and an error statement made for it. -/
def Draft.giveUp (draft : Draft) (error : GrammarError) (line : Nat) : Draft × NodeId :=
  (draft.report error.line (.malformed error.fault.message)).statement line .error

namespace Statement

mutual

/-- The draft with the nodes of a statement, and the number of its topmost node. -/
def draft (draft : Draft) : Statement → Draft × NodeId
  | empty line => draft.statement line .empty
  | evaluate value line =>
      let (draft, value) := value.draft draft
      draft.statement line (.evaluate value)
  | print value line =>
      let (draft, value) := value.draft draft
      draft.statement line (.print value)
  | input target line =>
      let (draft, symbol) := draft.intern target
      draft.statement line (.input symbol)
  | ifThen condition body line =>
      let (draft, condition) := condition.draft draft
      let (draft, body) := body.draft draft
      draft.ifThen line condition body
  | ifElse condition body otherwise line =>
      let (draft, condition) := condition.draft draft
      let (draft, body) := body.draft draft
      let (draft, otherwise) := otherwise.draft draft
      draft.ifElse line condition body otherwise
  | block statements line =>
      let (draft, ids) := draftAll draft statements
      draft.block line ids
  | broken fragments error line =>
      (fragments.foldl Fragment.draft draft).giveUp error line
  | unclosed statements error line =>
      (draftAll draft statements).1.giveUp error line

/-- The draft with the nodes of statements in turn, and the numbers of their topmost nodes. -/
def draftAll (draft : Draft) : List Statement → Draft × List NodeId
  | [] => (draft, [])
  | first :: rest =>
      let (draft, id) := first.draft draft
      let (draft, ids) := draftAll draft rest
      (draft, id :: ids)

end

end Statement

/-- The draft of a whole script, and the number of its topmost node. -/
def Script.draft (script : Script) : Draft × NodeId :=
  let (draft, ids) := Statement.draftAll .empty script.statements
  draft.block script.line ids

end StackScript
