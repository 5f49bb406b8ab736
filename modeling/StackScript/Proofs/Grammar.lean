import StackScript.Token

/-!
# The grammar of scripts

    program    := stmt*
    stmt       := ';'
                | 'print' expr ';'
                | 'input' IDENT ';'
                | 'if' '(' expr ')' stmt ( 'else' stmt )?
                | '{' stmt* '}'
                | expr ';'
    expr       := IDENT '=' expr | equality
    equality   := additive ( '==' additive )*
    additive   := primary ( '+' primary )*
    primary    := IDENT | STRING | INTEGER | '(' expr ')'

Tokens derive from the grammar together with a tree. The repetitions of operands are read with the
operands so far on the left, and parentheses leave nothing in the tree. What is ambiguous is an
`else` behind several conditionals without one; a tree in which every `else` belongs to the nearest
of them exists for all tokens that derive from the grammar.
-/

namespace StackScript

/-- Whether a token may be the first one of an expression. -/
def Token.beginsExpression : Token → Bool
  | identifier _ | string _ | integer _ | leftParen => true
  | _ => false

/-- Whether a token may be the first one of a statement. -/
def Token.beginsStatement : Token → Bool
  | semicolon | printKeyword | inputKeyword | ifKeyword | leftBrace => true
  | token => token.beginsExpression

theorem Token.beginsStatement_of_beginsExpression {token : Token}
    (begins : token.beginsExpression = true) : token.beginsStatement = true := by
  cases token <;> first | rfl | cases begins

namespace Grammar

/-- The tree of an expression. -/
inductive Expression where
  | identifier (name : String)
  | string (text : String)
  | integer (value : Int64)
  | assign (target : String) (value : Expression)
  | equals (left right : Expression)
  | add (left right : Expression)
deriving DecidableEq, Repr

/-- The tree of a statement. -/
inductive Statement where
  | empty
  | evaluate (value : Expression)
  | print (value : Expression)
  | input (target : String)
  | ifThen (condition : Expression) (body : Statement)
  | ifElse (condition : Expression) (body otherwise : Statement)
  | block (statements : List Statement)
deriving Repr

/-- The nonterminals of expressions, the ones that bind tighter first. -/
inductive Level where
  | primary
  | additive
  | equality
  | expression
deriving DecidableEq, Repr

/-- Tokens that make up an expression of a level. -/
inductive Expression.Derives : Level → List Token → Expression → Prop
  | identifier (name : String) : Derives .primary [.identifier name] (.identifier name)
  | string (text : String) : Derives .primary [.string text] (.string text)
  | integer (value : Int64) : Derives .primary [.integer value] (.integer value)
  | parens {tokens : List Token} {value : Expression} (inner : Derives .expression tokens value) :
      Derives .primary (.leftParen :: (tokens ++ [.rightParen])) value
  | primary {tokens : List Token} {value : Expression} (only : Derives .primary tokens value) :
      Derives .additive tokens value
  | add {front back : List Token} {left right : Expression} (first : Derives .additive front left)
      (second : Derives .primary back right) :
      Derives .additive (front ++ .plus :: back) (.add left right)
  | additive {tokens : List Token} {value : Expression} (only : Derives .additive tokens value) :
      Derives .equality tokens value
  | equals {front back : List Token} {left right : Expression}
      (first : Derives .equality front left) (second : Derives .additive back right) :
      Derives .equality (front ++ .equal :: back) (.equals left right)
  | equality {tokens : List Token} {value : Expression} (only : Derives .equality tokens value) :
      Derives .expression tokens value
  | assign {tokens : List Token} {value : Expression} (target : String)
      (assigned : Derives .expression tokens value) :
      Derives .expression (.identifier target :: .assign :: tokens) (.assign target value)

mutual

/-- Tokens that make up a statement. -/
inductive Statement.Derives : List Token → Statement → Prop
  | empty : Statement.Derives [.semicolon] .empty
  | evaluate {tokens : List Token} {value : Expression}
      (evaluated : Expression.Derives .expression tokens value) :
      Statement.Derives (tokens ++ [.semicolon]) (.evaluate value)
  | print {tokens : List Token} {value : Expression}
      (printed : Expression.Derives .expression tokens value) :
      Statement.Derives (.printKeyword :: (tokens ++ [.semicolon])) (.print value)
  | input (target : String) :
      Statement.Derives [.inputKeyword, .identifier target, .semicolon] (.input target)
  | ifThen {front tokens : List Token} {condition : Expression} {body : Statement}
      (decided : Expression.Derives .expression front condition)
      (runs : Statement.Derives tokens body) :
      Statement.Derives (.ifKeyword :: .leftParen :: (front ++ .rightParen :: tokens))
        (.ifThen condition body)
  | ifElse {front tokens back : List Token} {condition : Expression} {body otherwise : Statement}
      (decided : Expression.Derives .expression front condition)
      (runs : Statement.Derives tokens body) (elses : Statement.Derives back otherwise) :
      Statement.Derives
        (.ifKeyword :: .leftParen :: (front ++ .rightParen :: (tokens ++ .elseKeyword :: back)))
        (.ifElse condition body otherwise)
  | block {tokens : List Token} {statements : List Statement}
      (all : Statement.DeriveAll tokens statements) :
      Statement.Derives (.leftBrace :: (tokens ++ [.rightBrace])) (.block statements)

/-- Tokens that make up any number of statements, as in a block or a whole program. -/
inductive Statement.DeriveAll : List Token → List Statement → Prop
  | nil : Statement.DeriveAll [] []
  | cons {front back : List Token} {first : Statement} {rest : List Statement}
      (head : Statement.Derives front first) (tail : Statement.DeriveAll back rest) :
      Statement.DeriveAll (front ++ back) (first :: rest)

end

/-! ## The first tokens -/

namespace Expression.Derives

variable {level : Level} {tokens rest : List Token} {tree : Expression}

theorem begins (derives : Derives level tokens tree) :
    ∃ first others, tokens = first :: others ∧ first.beginsExpression = true := by
  induction derives with
  | identifier name => exact ⟨_, _, rfl, rfl⟩
  | string text => exact ⟨_, _, rfl, rfl⟩
  | integer value => exact ⟨_, _, rfl, rfl⟩
  | parens inner => exact ⟨_, _, rfl, rfl⟩
  | assign target assigned => exact ⟨_, _, rfl, rfl⟩
  | primary only induction => exact induction
  | additive only induction => exact induction
  | equality only induction => exact induction
  | add left right induction =>
      obtain ⟨first, others, rfl, begins⟩ := induction
      exact ⟨first, _, rfl, begins⟩
  | equals left right induction =>
      obtain ⟨first, others, rfl, begins⟩ := induction
      exact ⟨first, _, rfl, begins⟩

theorem length_pos (derives : Derives level tokens tree) : 0 < tokens.length := by
  obtain ⟨first, others, rfl, -⟩ := derives.begins
  exact Nat.succ_pos _

/-- Only an assignment begins with a name and a single equals sign. -/
theorem ne_assign (derives : Derives level tokens tree) (below : level ≠ .expression)
    (follow : rest.head? ≠ some .assign) (name : String) (others : List Token) :
    tokens ++ rest ≠ .identifier name :: .assign :: others := by
  induction derives generalizing rest with
  | identifier name =>
      rintro same
      rw [List.singleton_append, List.cons.injEq] at same
      exact follow (same.2 ▸ rfl)
  | string text => simp
  | integer value => simp
  | parens inner => simp
  | primary only induction => exact induction (by decide) follow
  | additive only induction => exact induction (by decide) follow
  | equality only => exact absurd rfl below
  | assign target assigned => exact absurd rfl below
  | add left right induction =>
      rw [List.append_assoc]
      exact induction (by decide) (by simp)
  | equals left right induction =>
      rw [List.append_assoc]
      exact induction (by decide) (by simp)

end Expression.Derives

theorem Statement.Derives.begins {tokens : List Token} {tree : Statement}
    (derives : Derives tokens tree) :
    ∃ first others, tokens = first :: others ∧ first.beginsStatement = true := by
  cases derives with
  | evaluate evaluated =>
      obtain ⟨first, others, rfl, begins⟩ := evaluated.begins
      exact ⟨first, others ++ [.semicolon], rfl, Token.beginsStatement_of_beginsExpression begins⟩
  | empty => exact ⟨_, _, rfl, rfl⟩
  | print printed => exact ⟨_, _, rfl, rfl⟩
  | input target => exact ⟨_, _, rfl, rfl⟩
  | ifThen decided runs => exact ⟨_, _, rfl, rfl⟩
  | ifElse decided runs elses => exact ⟨_, _, rfl, rfl⟩
  | block all => exact ⟨_, _, rfl, rfl⟩

theorem Statement.Derives.length_pos {tokens : List Token} {tree : Statement}
    (derives : Derives tokens tree) : 0 < tokens.length := by
  obtain ⟨first, others, rfl, -⟩ := derives.begins
  exact Nat.succ_pos _

/-- No token that begins no statement is the next one behind statements, unless it follows them. -/
theorem Statement.DeriveAll.head?_ne {tokens rest : List Token} {trees : List Statement}
    (derive : DeriveAll tokens trees) {token : Token} (other : token.beginsStatement = false)
    (follow : rest.head? ≠ some token) : (tokens ++ rest).head? ≠ some token := by
  cases derive with
  | nil => exact follow
  | cons head tail =>
      obtain ⟨first, others, rfl, begins⟩ := head.begins
      intro same
      obtain rfl : first = token := by simpa using same
      rw [begins] at other
      cases other

/-- The end of a script is no part of what derives from the grammar. -/
theorem Expression.Derives.endOfFile_notMem {level : Level} {tokens : List Token}
    {tree : Expression} (derives : Derives level tokens tree) : .endOfFile ∉ tokens := by
  induction derives with
  | identifier | string | integer => simp
  | parens inner induction => simpa using induction
  | assign target assigned induction => simpa using induction
  | primary only induction => exact induction
  | additive only induction => exact induction
  | equality only induction => exact induction
  | add first second inductionFirst inductionSecond =>
      simpa using ⟨inductionFirst, inductionSecond⟩
  | equals first second inductionFirst inductionSecond =>
      simpa using ⟨inductionFirst, inductionSecond⟩

mutual

theorem Statement.Derives.endOfFile_notMem {tokens : List Token} {tree : Statement}
    (derives : Derives tokens tree) : .endOfFile ∉ tokens := by
  cases derives with
  | empty | input => simp
  | evaluate evaluated => simpa using evaluated.endOfFile_notMem
  | print printed => simpa using printed.endOfFile_notMem
  | ifThen decided runs => simpa using ⟨decided.endOfFile_notMem, runs.endOfFile_notMem⟩
  | ifElse decided runs elses =>
      simpa using ⟨decided.endOfFile_notMem, runs.endOfFile_notMem, elses.endOfFile_notMem⟩
  | block all => simpa using all.endOfFile_notMem

theorem Statement.DeriveAll.endOfFile_notMem {tokens : List Token} {trees : List Statement}
    (derive : DeriveAll tokens trees) : .endOfFile ∉ tokens := by
  cases derive with
  | nil => exact List.not_mem_nil
  | cons head tail => simpa using ⟨head.endOfFile_notMem, tail.endOfFile_notMem⟩

end

/-! ## The nearest conditional -/

namespace Statement

/-- Whether an `else` behind a statement could belong to a conditional at its end. -/
def endsOpen : Statement → Bool
  | ifThen _ _ => true
  | ifElse _ _ otherwise => otherwise.endsOpen
  | _ => false

/-- Every `else` in a statement belongs to the nearest conditional that has none. -/
inductive NearestElse : Statement → Prop
  | empty : NearestElse .empty
  | evaluate (value : Expression) : NearestElse (.evaluate value)
  | print (value : Expression) : NearestElse (.print value)
  | input (target : String) : NearestElse (.input target)
  | ifThen {condition : Expression} {body : Statement} (runs : NearestElse body) :
      NearestElse (.ifThen condition body)
  | ifElse {condition : Expression} {body otherwise : Statement} (runs : NearestElse body)
      (closed : body.endsOpen = false) (elses : NearestElse otherwise) :
      NearestElse (.ifElse condition body otherwise)
  | block {statements : List Statement} (all : ∀ statement ∈ statements, NearestElse statement) :
      NearestElse (.block statements)

/-- An `else` behind a statement that ends in conditionals without one can belong to the nearest
of them. -/
theorem Derives.attach {front back : List Token} {body otherwise : Statement}
    (runs : Derives front body) (nearest : body.NearestElse) (isOpen : body.endsOpen = true)
    (elses : Derives back otherwise) (nearest' : otherwise.NearestElse) :
    ∃ joined, Derives (front ++ .elseKeyword :: back) joined ∧ joined.NearestElse := by
  induction nearest generalizing front with
  | empty | evaluate | print | input | block => cases isOpen
  | @ifThen condition body within induction =>
      cases runs with
      | @ifThen start tokens _ _ decided runs =>
          simp only [List.cons_append, List.append_assoc]
          cases inner : body.endsOpen with
          | false => exact ⟨_, .ifElse decided runs elses, .ifElse within inner nearest'⟩
          | true =>
              obtain ⟨joined, derives, nearest⟩ := induction runs inner
              exact ⟨_, .ifThen decided derives, .ifThen nearest⟩
  | @ifElse condition body last within closed lastNearest induction inductionLast =>
      cases runs with
      | @ifElse start tokens rest _ _ _ decided runs lastDerives =>
          simp only [List.cons_append, List.append_assoc]
          obtain ⟨joined, derives, nearest⟩ := inductionLast lastDerives isOpen
          exact ⟨_, .ifElse decided runs derives, .ifElse within closed nearest⟩

mutual

/-- Tokens of a statement have a tree in which every `else` belongs to the nearest conditional. -/
theorem Derives.nearest {tokens : List Token} {tree : Statement} (derives : Derives tokens tree) :
    ∃ nearest, Derives tokens nearest ∧ nearest.NearestElse := by
  cases derives with
  | empty => exact ⟨_, .empty, .empty⟩
  | evaluate evaluated => exact ⟨_, .evaluate evaluated, .evaluate _⟩
  | print printed => exact ⟨_, .print printed, .print _⟩
  | input target => exact ⟨_, .input target, .input target⟩
  | ifThen decided runs =>
      obtain ⟨body, runs, within⟩ := runs.nearest
      exact ⟨_, .ifThen decided runs, .ifThen within⟩
  | ifElse decided runs elses =>
      obtain ⟨body, runs, within⟩ := runs.nearest
      obtain ⟨otherwise, elses, last⟩ := elses.nearest
      cases isOpen : body.endsOpen with
      | false => exact ⟨_, .ifElse decided runs elses, .ifElse within isOpen last⟩
      | true =>
          obtain ⟨joined, derives, nearest⟩ := runs.attach within isOpen elses last
          exact ⟨_, .ifThen decided derives, .ifThen nearest⟩
  | block all =>
      obtain ⟨statements, all, nearest⟩ := all.nearest
      exact ⟨_, .block all, .block nearest⟩

theorem DeriveAll.nearest {tokens : List Token} {trees : List Statement}
    (derive : DeriveAll tokens trees) :
    ∃ statements, DeriveAll tokens statements ∧
      ∀ statement ∈ statements, statement.NearestElse := by
  cases derive with
  | nil => exact ⟨[], .nil, fun _ member => absurd member List.not_mem_nil⟩
  | cons head tail =>
      obtain ⟨first, head, nearest⟩ := head.nearest
      obtain ⟨rest, tail, others⟩ := tail.nearest
      exact ⟨first :: rest, .cons head tail, List.forall_mem_cons.2 ⟨nearest, others⟩⟩

end

end Statement

end Grammar

end StackScript
