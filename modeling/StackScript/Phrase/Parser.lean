import StackScript.Phrase.Cursor

/-!
# Reading phrases

Phrases are read by recursive descent. Additions bind tighter than comparisons and both group to
the left; assignments group to the right; an `else` belongs to the nearest `if`. A fault never ends
the reading: the statement is given up, and reading goes on behind its semicolon.

Expressions nest in parentheses and assignments, statements in conditionals and blocks. Each level
of nesting takes a token of its own, so a depth of nesting beyond the number of tokens is never
reached, and the number of tokens also bounds the length of chains and lists.
-/

namespace StackScript

/-- What comes of reading something that may have to be given up. -/
inductive Outcome (α : Type) where
  /-- It was read, up to a place. -/
  | parsed (value : α) (next : Cursor)
  /-- It was given up at a place, with the complete fragments in front of it. -/
  | failed (fragments : List Fragment) (error : GrammarError) (next : Cursor)
deriving Repr

namespace Outcome

/-- Read on where something has been read. -/
def bind {α β : Type} (outcome : Outcome α) (continuation : α → Cursor → Outcome β) : Outcome β :=
  match outcome with
  | parsed value next => continuation value next
  | failed fragments error next => failed fragments error next

/-- Put a fragment in front of those left by a fault. -/
def after {α : Type} (fragment : Fragment) : Outcome α → Outcome α
  | parsed value next => parsed value next
  | failed fragments error next => failed (fragment :: fragments) error next

end Outcome

namespace Expression

/-- Read a mention or an expression in parentheses, given how to read what the parentheses hold. -/
def readPrimary (inner : Cursor → Outcome Expression) (cursor : Cursor) : Outcome Expression :=
  let next := cursor.advance
  match cursor.peek? with
  | some (.identifier name) => .parsed (.atom (.identifier name next.line) next.nodeLine) next
  | some (.string text) => .parsed (.atom (.string text next.line) next.nodeLine) next
  | some (.integer value) => .parsed (.atom (.integer value next.line) next.nodeLine) next
  | some .leftParen =>
      (inner next).bind fun value next =>
        if next.peek? = some .rightParen then .parsed value next.advance
        else .failed [.expression value] (next.unexpected .closingParen) next
  | _ => .failed [] (cursor.unexpected .expression) cursor

/-- Read the operators and operands that go on from a left operand, up to a number of them. -/
def readChain (operator : Token) (join : Expression → Expression → Nat → Expression)
    (operand : Cursor → Outcome Expression) : Nat → Expression → Cursor → Outcome Expression
  | 0, left, cursor => .parsed left cursor
  | count + 1, left, cursor =>
      if cursor.peek? = some operator then
        ((operand cursor.advance).after (.expression left)).bind fun right next =>
          readChain operator join operand count (join left right next.nodeLine) next
      else .parsed left cursor

/-- Read operands between operators that group to the left. -/
def readOperands (operator : Token) (join : Expression → Expression → Nat → Expression)
    (operand : Cursor → Outcome Expression) (cursor : Cursor) : Outcome Expression :=
  (operand cursor).bind fun left next =>
    readChain operator join operand next.rest.length left next

/-- Read a comparison, given how to read what parentheses hold. -/
def readComparison (inner : Cursor → Outcome Expression) : Cursor → Outcome Expression :=
  readOperands .equal .equals (readOperands .plus .add (readPrimary inner))

/-- The target of an assignment, if one is next. -/
def target? (cursor : Cursor) : Option Symbol :=
  match cursor.peek?, cursor.peekSecond? with
  | some (.identifier name), some .assign => some (.identifier name cursor.advance.advance.line)
  | _, _ => none

/-- Read an expression in which assignments and parentheses nest up to a depth. -/
def readNested : Nat → Cursor → Outcome Expression
  | 0, cursor => .failed [] (cursor.unexpected .expression) cursor
  | depth + 1, cursor =>
      match target? cursor with
      | some symbol =>
          ((readNested depth cursor.advance.advance).after (.target symbol)).bind fun value next =>
            .parsed (.assign symbol value next.nodeLine) next
      | none => readComparison (readNested depth) cursor

/-- Read an expression. -/
def read (cursor : Cursor) : Outcome Expression :=
  readNested (cursor.rest.length + 1) cursor

end Expression

namespace Statement

/-- Give up a statement and read on behind it. -/
def giveUp (fragments : List Fragment) (error : GrammarError) (cursor : Cursor) :
    Statement × Cursor :=
  let next := cursor.recover
  (broken fragments error next.nodeLine, next)

/-- The statement that has been read, or what is left of it. -/
def complete : Outcome Statement → Statement × Cursor
  | .parsed statement next => (statement, next)
  | .failed fragments error next => giveUp fragments error next

/-- Read the semicolon behind a statement. -/
def readSemicolon (wanted : Expectation) (fragment : Fragment) (make : Nat → Statement)
    (cursor : Cursor) : Outcome Statement :=
  if cursor.peek? = some .semicolon then .parsed (make cursor.advance.nodeLine) cursor.advance
  else .failed [fragment] (cursor.unexpected wanted) cursor

/-- Read an expression that makes a statement together with a semicolon. -/
def readValue (wanted : Expectation) (make : Expression → Nat → Statement) (cursor : Cursor) :
    Outcome Statement :=
  (Expression.read cursor).bind fun value next =>
    readSemicolon wanted (.expression value) (make value) next

/-- Read the variable and the semicolon behind `input`. -/
def readInput (cursor : Cursor) : Outcome Statement :=
  match cursor.peek? with
  | some (.identifier name) =>
      let symbol := Symbol.identifier name cursor.advance.line
      readSemicolon .semicolonAfterInput (.target symbol) (.input symbol) cursor.advance
  | _ => .failed [] (cursor.unexpected .nameAfterInput) cursor

/-- Read the condition behind `if`. -/
def readCondition (cursor : Cursor) : Outcome Expression :=
  if cursor.peek? = some .leftParen then
    (Expression.read cursor.advance).bind fun condition next =>
      if next.peek? = some .rightParen then .parsed condition next.advance
      else .failed [.expression condition] (next.unexpected .parenAfterCondition) next
  else .failed [] (cursor.unexpected .parenAfterIf) cursor

/-- Read what an `if` runs, given the line of the `if` and how to read a statement. -/
def readBranches (inner : Cursor → Statement × Cursor) (line : Nat) (condition : Expression)
    (cursor : Cursor) : Statement × Cursor :=
  let (body, next) := inner cursor
  if next.peek? = some .elseKeyword then
    let (otherwise, last) := inner next.advance
    (ifElse condition body otherwise line, last.withNodeLine line)
  else (ifThen condition body line, next.withNodeLine line)

/-- Read statements up to a closing brace or the end, and no more than a number of them. -/
def readMany (inner : Cursor → Statement × Cursor) : Nat → Cursor → List Statement × Cursor
  | 0, cursor => ([], cursor)
  | count + 1, cursor =>
      if cursor.atEnd || cursor.peek? = some .rightBrace then ([], cursor)
      else
        let (first, next) := inner cursor
        let (others, last) := readMany inner count next
        (first :: others, last)

/-- Read a block behind its opening brace, given how to read a statement. -/
def readBlock (inner : Cursor → Statement × Cursor) (cursor : Cursor) : Statement × Cursor :=
  let (statements, next) := readMany inner cursor.rest.length cursor
  if next.peek? = some .rightBrace then
    (block statements next.advance.nodeLine, next.advance)
  else
    let last := next.recover
    (unclosed statements (next.unexpected .closingBrace) last.nodeLine, last)

/-- Read a statement in which conditionals and blocks nest up to a depth. -/
def readNested : Nat → Cursor → Statement × Cursor
  | 0, cursor => giveUp [] (cursor.unexpected .statement) cursor
  | depth + 1, cursor =>
      let next := cursor.advance
      match cursor.peek? with
      | some .semicolon => (empty next.nodeLine, next)
      | some .printKeyword => complete (readValue .semicolonAfterPrint print next)
      | some .inputKeyword => complete (readInput next)
      | some .ifKeyword =>
          match readCondition next with
          | .parsed condition next =>
              readBranches (readNested depth) cursor.line condition next
          | .failed fragments error next => giveUp fragments error next
      | some .leftBrace => readBlock (readNested depth) next
      | some .elseKeyword => giveUp [] ⟨.strayElse, cursor.line⟩ cursor
      | _ => complete (readValue .semicolonAfterExpression evaluate cursor)

/-- Read a statement. -/
def read (cursor : Cursor) : Statement × Cursor :=
  readNested (cursor.rest.length + 1) cursor

end Statement

namespace Script

/-- Read a statement at the top level, where a closing brace closes nothing. -/
def readStatement (cursor : Cursor) : Statement × Cursor :=
  if cursor.peek? = some .rightBrace then
    let next := cursor.advance
    (.broken [] (cursor.unexpected .statement) next.nodeLine, next)
  else Statement.read cursor

/-- Read the statements of a script, and no more than a number of them. -/
def readMany : Nat → Cursor → List Statement × Cursor
  | 0, cursor => ([], cursor)
  | count + 1, cursor =>
      if cursor.atEnd then ([], cursor)
      else
        let (first, next) := readStatement cursor
        let (others, last) := readMany count next
        (first :: others, last)

/-- The script that tokens make up. -/
def ofTokens (tokens : List PlacedToken) : Script :=
  let (statements, last) := readMany tokens.length (.start tokens)
  ⟨statements, last.nodeLine⟩

end Script

end StackScript
