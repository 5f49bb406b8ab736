import StackScript.Proofs.Grammar.Soundness

/-!
# What derives from the grammar is read

Tokens that derive from the grammar are read without giving up a statement, and the phrases show the
tree of the derivation, provided that every `else` in it belongs to the nearest conditional: that is
how they are read.
-/

namespace StackScript

/-- An expression that is read shows the tree of its derivation. -/
inductive Expression.Shows : Expression → Grammar.Expression → Prop
  | identifier (name : String) (line place : Nat) :
      Shows (.atom (.identifier name line) place) (.identifier name)
  | string (text : String) (line place : Nat) :
      Shows (.atom (.string text line) place) (.string text)
  | integer (value : Int64) (line place : Nat) :
      Shows (.atom (.integer value line) place) (.integer value)
  | assign {value : Expression} {tree : Grammar.Expression} (name : String) (line place : Nat)
      (assigned : Shows value tree) :
      Shows (.assign (.identifier name line) value place) (.assign name tree)
  | equals {left right : Expression} {first second : Grammar.Expression} (place : Nat)
      (front : Shows left first) (back : Shows right second) :
      Shows (.equals left right place) (.equals first second)
  | add {left right : Expression} {first second : Grammar.Expression} (place : Nat)
      (front : Shows left first) (back : Shows right second) :
      Shows (.add left right place) (.add first second)

mutual

/-- A statement that is read shows the tree of its derivation. -/
inductive Statement.Shows : Statement → Grammar.Statement → Prop
  | empty (line : Nat) : Statement.Shows (.empty line) .empty
  | evaluate {value : Expression} {tree : Grammar.Expression} (line : Nat)
      (evaluated : value.Shows tree) : Statement.Shows (.evaluate value line) (.evaluate tree)
  | print {value : Expression} {tree : Grammar.Expression} (line : Nat)
      (printed : value.Shows tree) : Statement.Shows (.print value line) (.print tree)
  | input (name : String) (line place : Nat) :
      Statement.Shows (.input (.identifier name line) place) (.input name)
  | ifThen {condition : Expression} {test : Grammar.Expression} {body : Statement}
      {tree : Grammar.Statement} (line : Nat) (decided : condition.Shows test)
      (runs : Statement.Shows body tree) :
      Statement.Shows (.ifThen condition body line) (.ifThen test tree)
  | ifElse {condition : Expression} {test : Grammar.Expression} {body otherwise : Statement}
      {tree other : Grammar.Statement} (line : Nat) (decided : condition.Shows test)
      (runs : Statement.Shows body tree) (elses : Statement.Shows otherwise other) :
      Statement.Shows (.ifElse condition body otherwise line) (.ifElse test tree other)
  | block {statements : List Statement} {trees : List Grammar.Statement} (line : Nat)
      (all : Statement.ShowAll statements trees) :
      Statement.Shows (.block statements line) (.block trees)

/-- Statements that are read in turn show the trees of their derivations. -/
inductive Statement.ShowAll : List Statement → List Grammar.Statement → Prop
  | nil : Statement.ShowAll [] []
  | cons {first : Statement} {tree : Grammar.Statement} {rest : List Statement}
      {trees : List Grammar.Statement} (head : Statement.Shows first tree)
      (tail : Statement.ShowAll rest trees) : Statement.ShowAll (first :: rest) (tree :: trees)

end

/-- The tree that an expression shows. -/
def Expression.tree : Expression → Grammar.Expression
  | atom symbol _ =>
      match symbol.content with
      | .identifier => .identifier symbol.name
      | .string text => .string text
      | .integer value => .integer value
  | assign target value _ => .assign target.name value.tree
  | equals left right _ => .equals left.tree right.tree
  | add left right _ => .add left.tree right.tree

theorem Expression.Shows.tree_eq {expression : Expression} {tree : Grammar.Expression}
    (shows' : expression.Shows tree) : expression.tree = tree := by
  induction shows' with
  | identifier | string | integer => rfl
  | assign name line place assigned induction => rw [Expression.tree, induction]; rfl
  | equals place front back inductionFront inductionBack =>
      rw [Expression.tree, inductionFront, inductionBack]
  | add place front back inductionFront inductionBack =>
      rw [Expression.tree, inductionFront, inductionBack]

theorem Expression.Shows.unique {expression : Expression} {tree other : Grammar.Expression}
    (shows' : expression.Shows tree) (shows'' : expression.Shows other) : tree = other :=
  shows'.tree_eq.symm.trans shows''.tree_eq

mutual

/-- A statement shows no more than one tree. -/
theorem Statement.Shows.unique {statement : Statement} {tree other : Grammar.Statement}
    (shows' : statement.Shows tree) (shows'' : statement.Shows other) : tree = other := by
  cases shows' with
  | empty line => cases shows''; rfl
  | evaluate line evaluated =>
      cases shows'' with
      | evaluate _ other => rw [evaluated.unique other]
  | print line printed =>
      cases shows'' with
      | print _ other => rw [printed.unique other]
  | input name line place => cases shows''; rfl
  | ifThen line decided runs =>
      cases shows'' with
      | ifThen _ test body => rw [decided.unique test, runs.unique body]
  | ifElse line decided runs elses =>
      cases shows'' with
      | ifElse _ test body other =>
          rw [decided.unique test, runs.unique body, elses.unique other]
  | block line all =>
      cases shows'' with
      | block _ others => rw [all.unique others]

theorem Statement.ShowAll.unique {statements : List Statement}
    {trees others : List Grammar.Statement} (show' : ShowAll statements trees)
    (show'' : ShowAll statements others) : trees = others := by
  cases show' with
  | nil => cases show''; rfl
  | cons head tail =>
      cases show'' with
      | cons first rest => rw [head.unique first, tail.unique rest]

end

mutual

theorem Statement.Shows.isWhole {statement : Statement} {tree : Grammar.Statement}
    (shows' : statement.Shows tree) : statement.isWhole = true := by
  cases shows' with
  | empty | evaluate | print | input => rfl
  | ifThen line decided runs => exact runs.isWhole
  | ifElse line decided runs elses =>
      rw [Statement.isWhole, runs.isWhole, elses.isWhole]
      rfl
  | block line all => exact all.areWhole

theorem Statement.ShowAll.areWhole {statements : List Statement} {trees : List Grammar.Statement}
    (show' : ShowAll statements trees) : Statement.areWhole statements = true := by
  cases show' with
  | nil => rfl
  | cons head tail =>
      rw [Statement.areWhole, head.isWhole, tail.areWhole]
      rfl

end

namespace Expression

variable {operator : Token} {join : Expression → Expression → Nat → Expression}
variable {operand : Cursor → Outcome Expression} {cursor : Cursor}
variable {tree left right joined : Grammar.Expression} {rest : List Token}

/-- Reading finds an expression with a tree in front of some tokens. -/
def Finds (read : Cursor → Outcome Expression) (cursor : Cursor) (tree : Grammar.Expression)
    (rest : List Token) : Prop :=
  ∃ value next, read cursor = .parsed value next ∧ value.Shows tree ∧ next.tokens = rest

/-- Reading operands comes to a left operand with a tree in front of some tokens, and may go on
there. -/
def Arrives (operator : Token) (join : Expression → Expression → Nat → Expression)
    (operand : Cursor → Outcome Expression) (cursor : Cursor) (tree : Grammar.Expression)
    (rest : List Token) : Prop :=
  ∃ value next count,
    readOperands operator join operand cursor = readChain operator join operand count value next ∧
      value.Shows tree ∧ next.tokens = rest ∧ rest.length ≤ count

theorem Finds.arrives (found : Finds operand cursor tree rest) :
    Arrives operator join operand cursor tree rest := by
  obtain ⟨value, next, read, shows', behind⟩ := found
  refine ⟨value, next, next.rest.length, ?_, shows', behind, Nat.le_of_eq ?_⟩
  · rw [readOperands, read, Outcome.bind]
  · rw [← behind, Cursor.length_tokens]

theorem Arrives.finds (arrives : Arrives operator join operand cursor tree rest)
    (ends : rest.head? ≠ some operator) :
    Finds (readOperands operator join operand) cursor tree rest := by
  obtain ⟨value, next, count, read, shows', rfl, -⟩ := arrives
  refine ⟨value, next, ?_, shows', rfl⟩
  rw [read]
  cases count with
  | zero => rfl
  | succ count => rw [readChain, next.peek?_eq, if_neg ends]

theorem Arrives.more {back : List Token}
    (arrives : Arrives operator join operand cursor left (operator :: (back ++ rest)))
    (finds : ∀ next : Cursor, next.tokens = back ++ rest → Finds operand next right rest)
    (joins : ∀ {first second : Expression} (place : Nat), first.Shows left → second.Shows right →
      (join first second place).Shows joined) :
    Arrives operator join operand cursor joined rest := by
  obtain ⟨value, next, count, read, shows', behind, enough⟩ := arrives
  cases count with
  | zero => cases enough
  | succ count =>
      obtain ⟨second, last, readSecond, showsSecond, rfl⟩ :=
        finds next.advance (next.advance_of_tokens behind)
      refine ⟨join value second last.nodeLine, last, count, ?_, joins _ shows' showsSecond, rfl, ?_⟩
      · rw [read, readChain, if_pos (next.peek?_of_tokens behind), readSecond]
        rfl
      · simp only [List.length_cons, List.length_append] at enough
        omega

/-- What reading makes of a derivation, level by level. Parentheses and assignments nest no deeper
than there are tokens, and what stands behind a chain of operands is not its operator. -/
def Complete : Grammar.Level → List Token → Grammar.Expression → Prop
  | .primary, tokens, tree => ∀ depth, tokens.length ≤ depth + 1 → ∀ cursor rest,
      cursor.tokens = tokens ++ rest → Finds (readPrimary (readNested depth)) cursor tree rest
  | .additive, tokens, tree => ∀ depth, tokens.length ≤ depth + 1 → ∀ cursor rest,
      cursor.tokens = tokens ++ rest →
        Arrives .plus .add (readPrimary (readNested depth)) cursor tree rest
  | .equality, tokens, tree => ∀ depth, tokens.length ≤ depth + 1 → ∀ cursor rest,
      cursor.tokens = tokens ++ rest → rest.head? ≠ some .plus →
        Arrives .equal .equals (readOperands .plus .add (readPrimary (readNested depth))) cursor
          tree rest
  | .expression, tokens, tree => ∀ depth, tokens.length ≤ depth → ∀ cursor rest,
      cursor.tokens = tokens ++ rest →
        rest.head? = some .semicolon ∨ rest.head? = some .rightParen →
          Finds (readNested depth) cursor tree rest

theorem complete_of_derives {level : Grammar.Level} {tokens : List Token}
    (derives : Grammar.Expression.Derives level tokens tree) : Complete level tokens tree := by
  induction derives with
  | identifier name =>
      intro depth _ cursor rest shape
      refine ⟨_, cursor.advance, ?_, .identifier name cursor.advance.line cursor.advance.nodeLine,
        cursor.advance_of_tokens shape⟩
      simp only [readPrimary, cursor.peek?_of_tokens shape]
  | string text =>
      intro depth _ cursor rest shape
      refine ⟨_, cursor.advance, ?_, .string text cursor.advance.line cursor.advance.nodeLine,
        cursor.advance_of_tokens shape⟩
      simp only [readPrimary, cursor.peek?_of_tokens shape]
  | integer value =>
      intro depth _ cursor rest shape
      refine ⟨_, cursor.advance, ?_, .integer value cursor.advance.line cursor.advance.nodeLine,
        cursor.advance_of_tokens shape⟩
      simp only [readPrimary, cursor.peek?_of_tokens shape]
  | @parens tokens tree inner induction =>
      intro depth short cursor rest shape
      rw [List.length_cons, List.length_append, List.length_singleton] at short
      rw [List.cons_append, List.append_assoc] at shape
      obtain ⟨value, next, read, shows', behind⟩ :=
        induction depth (by omega) cursor.advance _ (cursor.advance_of_tokens shape) (.inr rfl)
      refine ⟨value, next.advance, ?_, shows', next.advance_of_tokens behind⟩
      simp only [readPrimary, cursor.peek?_of_tokens shape, read, Outcome.bind,
        if_pos (next.peek?_of_tokens behind)]
  | primary only induction =>
      intro depth short cursor rest shape
      exact (induction depth short cursor rest shape).arrives
  | @add front back left right first second inductionFirst inductionSecond =>
      intro depth short cursor rest shape
      rw [List.length_append, List.length_cons] at short
      rw [List.append_assoc, List.cons_append] at shape
      exact (inductionFirst depth (by omega) cursor _ shape).more
        (fun next behind => inductionSecond depth (by omega) next rest behind)
        fun place front back => .add place front back
  | additive only induction =>
      intro depth short cursor rest shape follow
      exact ((induction depth short cursor rest shape).finds follow).arrives
  | @equals front back left right first second inductionFirst inductionSecond =>
      intro depth short cursor rest shape follow
      rw [List.length_append, List.length_cons] at short
      rw [List.append_assoc, List.cons_append] at shape
      exact (inductionFirst depth (by omega) cursor _ shape (by simp)).more
        (fun next behind => (inductionSecond depth (by omega) next rest behind).finds follow)
        fun place front back => .equals place front back
  | @equality tokens tree only induction =>
      intro depth short cursor rest shape follow
      have positive := only.length_pos
      obtain ⟨depth, rfl⟩ := Nat.exists_eq_succ_of_ne_zero (n := depth) (by omega)
      have unassigned : target? cursor = none := by
        rw [Option.eq_none_iff_forall_ne_some]
        intro symbol found
        obtain ⟨name, others, -, same⟩ := target?_eq_some_iff.1 found
        refine only.ne_assign (by decide) ?_ name others (shape.symm.trans same)
        rcases follow with ends | ends <;> rw [ends] <;> decide
      have ends : rest.head? ≠ some .plus ∧ rest.head? ≠ some .equal := by
        rcases follow with ends | ends <;> rw [ends] <;> decide
      obtain ⟨value, next, read, found⟩ :=
        (induction depth short cursor rest shape ends.1).finds ends.2
      exact ⟨value, next, by rw [readNested, unassigned]; exact read, found⟩
  | @assign tokens tree target assigned induction =>
      intro depth short cursor rest shape follow
      obtain ⟨depth, rfl⟩ := Nat.exists_eq_succ_of_ne_zero (n := depth) (by simp at short; omega)
      have second := cursor.advance_of_tokens shape
      obtain ⟨value, next, read, shows', behind⟩ :=
        induction depth (by simp at short; omega) cursor.advance.advance rest
          (cursor.advance.advance_of_tokens second) follow
      refine ⟨_, next, ?_, .assign target cursor.advance.advance.line next.nodeLine shows', behind⟩
      rw [readNested, target?_eq_some_iff.2 ⟨target, _, rfl, shape⟩, read]
      rfl

/-- An expression is read where it stands in front of a semicolon or a closing parenthesis. -/
theorem finds_read {tokens : List Token}
    (derives : Grammar.Expression.Derives .expression tokens tree)
    (shape : cursor.tokens = tokens ++ rest)
    (follow : rest.head? = some .semicolon ∨ rest.head? = some .rightParen) :
    Finds read cursor tree rest := by
  refine complete_of_derives derives (cursor.rest.length + 1) ?_ cursor rest shape follow
  rw [← cursor.length_tokens, shape, List.length_append]
  omega

end Expression

namespace Statement

variable {cursor : Cursor} {tokens rest : List Token}

/-- Reading finds a statement with a tree in front of some tokens. -/
def Finds (read : Cursor → Statement × Cursor) (cursor : Cursor) (tree : Grammar.Statement)
    (rest : List Token) : Prop :=
  ∃ statement next, read cursor = (statement, next) ∧ statement.Shows tree ∧ next.tokens = rest

theorem readSemicolon_of_tokens (shape : cursor.tokens = .semicolon :: rest) (wanted : Expectation)
    (fragment : Fragment) (make : Nat → Statement) :
    readSemicolon wanted fragment make cursor =
      .parsed (make cursor.advance.nodeLine) cursor.advance :=
  if_pos (cursor.peek?_of_tokens shape)

theorem readValue_of_derives {value : Grammar.Expression}
    (derives : Grammar.Expression.Derives .expression tokens value)
    (shape : cursor.tokens = tokens ++ .semicolon :: rest) (wanted : Expectation)
    (make : Expression → Nat → Statement) :
    ∃ expression next, readValue wanted make cursor = .parsed (make expression next.nodeLine) next ∧
      expression.Shows value ∧ next.tokens = rest := by
  obtain ⟨expression, next, read, shows', behind⟩ :=
    Expression.finds_read derives shape (.inl rfl)
  refine ⟨expression, next.advance, ?_, shows', next.advance_of_tokens behind⟩
  rw [readValue, read, Outcome.bind, readSemicolon_of_tokens behind]

theorem readCondition_of_derives {condition : Grammar.Expression}
    (derives : Grammar.Expression.Derives .expression tokens condition)
    (shape : cursor.tokens = .leftParen :: (tokens ++ .rightParen :: rest)) :
    Expression.Finds readCondition cursor condition rest := by
  obtain ⟨expression, next, read, shows', behind⟩ :=
    Expression.finds_read derives (cursor.advance_of_tokens shape) (.inr rfl)
  refine ⟨expression, next.advance, ?_, shows', next.advance_of_tokens behind⟩
  rw [readCondition, if_pos (cursor.peek?_of_tokens shape), read, Outcome.bind,
    if_pos (next.peek?_of_tokens behind)]

theorem readNested_of_beginsExpression {first : Token} (next : cursor.peek? = some first)
    (begins : first.beginsExpression = true) (depth : Nat) :
    readNested (depth + 1) cursor =
      complete (readValue .semicolonAfterExpression evaluate cursor) := by
  cases first <;> first | contradiction | simp only [readNested, next]

/-- Where statements begin, nothing ends. -/
theorem goesOn_of_beginsStatement {first : Token} (next : cursor.peek? = some first)
    (begins : first.beginsStatement = true) :
    cursor.atEnd = false ∧ cursor.peek? ≠ some .rightBrace := by
  rw [Cursor.atEnd, next]
  cases first <;> first | contradiction | exact ⟨rfl, by simp⟩

mutual

/-- A statement is read as its derivation, if an `else` behind it belongs elsewhere. -/
theorem finds_readNested {tokens : List Token} {tree : Grammar.Statement}
    (derives : Grammar.Statement.Derives tokens tree) (nearest : tree.NearestElse)
    (depth : Nat) (short : tokens.length ≤ depth) {cursor : Cursor} {rest : List Token}
    (shape : cursor.tokens = tokens ++ rest)
    (follow : tree.endsOpen = true → rest.head? ≠ some .elseKeyword) :
    Finds (readNested depth) cursor tree rest := by
  have positive := derives.length_pos
  obtain ⟨depth, rfl⟩ := Nat.exists_eq_succ_of_ne_zero (n := depth) (by omega)
  cases derives with
  | empty =>
      refine ⟨_, cursor.advance, ?_, .empty cursor.advance.nodeLine,
        cursor.advance_of_tokens shape⟩
      simp only [readNested, cursor.peek?_of_tokens shape]
  | evaluate evaluated =>
      rw [List.append_assoc] at shape
      obtain ⟨expression, next, read, shows', behind⟩ :=
        readValue_of_derives evaluated shape .semicolonAfterExpression evaluate
      obtain ⟨first, others, rfl, begins⟩ := evaluated.begins
      refine ⟨_, next, ?_, .evaluate next.nodeLine shows', behind⟩
      rw [readNested_of_beginsExpression (cursor.peek?_of_tokens shape) begins, read]
      rfl
  | print printed =>
      rw [List.cons_append, List.append_assoc] at shape
      obtain ⟨expression, next, read, shows', behind⟩ :=
        readValue_of_derives printed (cursor.advance_of_tokens shape) .semicolonAfterPrint print
      refine ⟨_, next, ?_, .print next.nodeLine shows', behind⟩
      simp only [readNested, cursor.peek?_of_tokens shape, read]
      rfl
  | input target =>
      have second := cursor.advance_of_tokens shape
      have third := cursor.advance.advance_of_tokens second
      refine ⟨_, cursor.advance.advance.advance, ?_, .input target cursor.advance.advance.line
        cursor.advance.advance.advance.nodeLine, cursor.advance.advance.advance_of_tokens third⟩
      simp only [readNested, cursor.peek?_of_tokens shape, readInput,
        cursor.advance.peek?_of_tokens second, readSemicolon_of_tokens third]
      rfl
  | @ifThen front tokens condition body decided runs =>
      cases nearest with
      | ifThen within =>
          simp only [List.cons_append, List.append_assoc] at shape
          simp only [List.length_cons, List.length_append] at short
          obtain ⟨expression, middle, readFirst, test, inside⟩ :=
            readCondition_of_derives decided (cursor.advance_of_tokens shape)
          obtain ⟨statement, next, read, shows', behind⟩ :=
            finds_readNested runs within depth (by omega) inside fun _ => follow rfl
          refine ⟨_, _, ?_, .ifThen cursor.line test shows',
            (next.tokens_withNodeLine cursor.line).trans behind⟩
          have other : next.peek? ≠ some .elseKeyword := by
            rw [next.peek?_eq, behind]
            exact follow rfl
          simp only [readNested, cursor.peek?_of_tokens shape, readFirst, readBranches, read,
            if_neg other]
  | @ifElse front tokens back condition body otherwise decided runs elses =>
      cases nearest with
      | ifElse within closed last =>
          simp only [List.cons_append, List.append_assoc] at shape
          simp only [List.length_cons, List.length_append] at short
          obtain ⟨expression, middle, readFirst, test, inside⟩ :=
            readCondition_of_derives decided (cursor.advance_of_tokens shape)
          obtain ⟨statement, next, read, shows', behind⟩ :=
            finds_readNested runs within depth (by omega) inside fun isOpen => by
              rw [closed] at isOpen
              cases isOpen
          obtain ⟨other, final, readLast, shows'', ending⟩ :=
            finds_readNested elses last depth (by omega)
              (next.advance_of_tokens behind) follow
          refine ⟨_, _, ?_, .ifElse cursor.line test shows' shows'',
            (final.tokens_withNodeLine cursor.line).trans ending⟩
          simp only [readNested, cursor.peek?_of_tokens shape, readFirst, readBranches, read,
            if_pos (next.peek?_of_tokens behind), readLast]
  | block all =>
      cases nearest with
      | block each =>
          simp only [List.cons_append, List.append_assoc] at shape
          simp only [List.length_cons, List.length_append] at short
          have inside := cursor.advance_of_tokens shape
          have enough := congrArg List.length inside
          rw [Cursor.length_tokens, List.length_append] at enough
          obtain ⟨statements, next, read, shows', behind⟩ :=
            finds_readMany all each depth (by omega)
              cursor.advance.rest.length (by omega) inside rfl
          refine ⟨_, next.advance, ?_, .block next.advance.nodeLine shows',
            next.advance_of_tokens behind⟩
          simp only [readNested, cursor.peek?_of_tokens shape, readBlock, read,
            if_pos (next.peek?_of_tokens behind)]

theorem finds_readMany {tokens : List Token} {trees : List Grammar.Statement}
    (derive : Grammar.Statement.DeriveAll tokens trees) (nearest : ∀ tree ∈ trees, tree.NearestElse)
    (depth : Nat) (short : tokens.length ≤ depth) (count : Nat) (enough : tokens.length ≤ count)
    {cursor : Cursor} {rest : List Token} (shape : cursor.tokens = tokens ++ rest)
    (follow : rest.head? = some .rightBrace) :
    ∃ statements next, readMany (readNested depth) count cursor = (statements, next) ∧
      ShowAll statements trees ∧ next.tokens = rest := by
  cases derive with
  | nil =>
      refine ⟨[], cursor, ?_, .nil, shape⟩
      have closing : cursor.peek? = some .rightBrace := by
        rw [cursor.peek?_eq, shape]
        exact follow
      cases count with
      | zero => rfl
      | succ count => rw [readMany, closing, if_pos (by simp)]
  | @cons front back _ _ head tail =>
      rw [List.append_assoc] at shape
      rw [List.length_append] at short enough
      obtain ⟨first, others, begins⟩ := head.begins
      obtain ⟨goesOn, inside⟩ := goesOn_of_beginsStatement
        (cursor.peek?_of_tokens (shape.trans (by rw [begins.1]; rfl))) begins.2
      have positive := head.length_pos
      obtain ⟨count, rfl⟩ := Nat.exists_eq_succ_of_ne_zero (n := count) (by omega)
      rw [List.forall_mem_cons] at nearest
      obtain ⟨statement, next, read, shows', behind⟩ :=
        finds_readNested head nearest.1 depth (by omega) shape fun _ =>
          tail.head?_ne rfl (by rw [follow]; decide)
      obtain ⟨statements, last, readRest, showsRest, ending⟩ :=
        finds_readMany tail nearest.2 depth (by omega) count (by omega) behind
          follow
      refine ⟨statement :: statements, last, ?_, .cons shows' showsRest, ending⟩
      simp only [readMany, goesOn, Bool.false_or, decide_eq_true_eq, if_neg inside, read, readRest]

end

end Statement

theorem Script.finds_readStatement {tokens rest : List Token} {tree : Grammar.Statement}
    (derives : Grammar.Statement.Derives tokens tree) (nearest : tree.NearestElse) {cursor : Cursor}
    (shape : cursor.tokens = tokens ++ rest)
    (follow : tree.endsOpen = true → rest.head? ≠ some .elseKeyword) :
    Statement.Finds readStatement cursor tree rest := by
  obtain ⟨first, others, start, begins⟩ := derives.begins
  obtain ⟨-, inside⟩ := Statement.goesOn_of_beginsStatement
    (cursor.peek?_of_tokens (shape.trans (by rw [start]; rfl))) begins
  have short : tokens.length ≤ cursor.rest.length + 1 := by
    rw [← cursor.length_tokens, shape, List.length_append]
    omega
  obtain ⟨statement, next, read, found⟩ :=
    Statement.finds_readNested derives nearest _ short shape follow
  exact ⟨statement, next, by rw [readStatement, if_neg inside]; exact read, found⟩

/-- A whole script is read as its derivation. -/
theorem Script.finds_readMany {tokens : List Token} {trees : List Grammar.Statement}
    (derive : Grammar.Statement.DeriveAll tokens trees) (nearest : ∀ tree ∈ trees, tree.NearestElse)
    {count : Nat} (enough : tokens.length ≤ count) {cursor : Cursor} {rest : List Token}
    (shape : cursor.tokens = tokens ++ rest) (follow : rest.head? = some .endOfFile) :
    Statement.ShowAll (readMany count cursor).1 trees := by
  induction count generalizing tokens trees cursor with
  | zero =>
      cases derive with
      | nil => exact .nil
      | cons head tail =>
          have positive := head.length_pos
          rw [List.length_append] at enough
          omega
  | succ count induction =>
      cases derive with
      | nil =>
          have ended : cursor.atEnd = true := by
            rw [Cursor.atEnd, cursor.peek?_eq, shape, List.nil_append, follow]
          rw [readMany, if_pos ended]
          exact .nil
      | cons head tail =>
          rw [List.append_assoc] at shape
          rw [List.length_append] at enough
          have positive := head.length_pos
          rw [List.forall_mem_cons] at nearest
          obtain ⟨first, others, start, begins⟩ := head.begins
          obtain ⟨goesOn, -⟩ := Statement.goesOn_of_beginsStatement
            (cursor.peek?_of_tokens (shape.trans (by rw [start]; rfl))) begins
          obtain ⟨statement, next, read, shows', behind⟩ :=
            finds_readStatement head nearest.1 shape fun _ =>
              tail.head?_ne rfl (by rw [follow]; decide)
          simp only [readMany, goesOn, read]
          exact .cons shows' (induction tail nearest.2 (by omega) behind)

end StackScript
