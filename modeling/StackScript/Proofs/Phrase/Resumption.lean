import StackScript.Proofs.Grammar.Completeness
import StackScript.Proofs.Phrase.Progress

/-!
# Reading on behind a fault

A clause ends in its only semicolon and has no braces. Whatever a statement makes of it, reading
goes on just behind the clause: an expression never passes a semicolon, a recovery stops behind the
first one, and what an `if` runs ends where the `if` does. So a clause that is no statement is given
up once.
-/

namespace StackScript

/-! ## Clauses -/

/-- Whether a token ends what may stand in front of it. -/
def Token.delimits : Token → Bool
  | semicolon | leftBrace | rightBrace | endOfFile => true
  | _ => false

/-- Tokens with one semicolon at their end, no braces, and no end of a script among them. -/
def Token.IsClause (tokens : List Token) : Prop :=
  ∃ body, tokens = body ++ [.semicolon] ∧ ∀ token ∈ body, token.delimits = false

namespace Cursor

/-- What is left up to some tokens is a clause. -/
def Within (cursor : Cursor) (rest : List Token) : Prop :=
  ∃ body, cursor.tokens = body ++ .semicolon :: rest ∧ ∀ token ∈ body, token.delimits = false

namespace Within

variable {cursor next : Cursor} {rest : List Token} {token : Token}

/-- The next token is the semicolon at the end of the clause, or goes on with the clause. -/
theorem cases_peek? (within : cursor.Within rest) :
    cursor.peek? = some .semicolon ∧ cursor.advance.tokens = rest ∨
      ∃ token, cursor.peek? = some token ∧ token.delimits = false ∧
        cursor.advance.Within rest := by
  obtain ⟨body, shape, inside⟩ := within
  cases body with
  | nil => exact .inl ⟨cursor.peek?_of_tokens shape, cursor.advance_of_tokens shape⟩
  | cons token body =>
      obtain ⟨here, others⟩ := List.forall_mem_cons.1 inside
      exact .inr ⟨token, cursor.peek?_of_tokens shape, here, body, cursor.advance_of_tokens shape,
        others⟩

theorem advance_of_semicolon (within : cursor.Within rest)
    (here : cursor.peek? = some .semicolon) : cursor.advance.tokens = rest := by
  rcases within.cases_peek? with ⟨-, behind⟩ | ⟨token, other, delimits, -⟩
  · exact behind
  · cases here.symm.trans other
    cases delimits

theorem advance (within : cursor.Within rest) (here : cursor.peek? = some token)
    (other : token ≠ .semicolon) : cursor.advance.Within rest := by
  rcases within.cases_peek? with ⟨last, -⟩ | ⟨-, -, -, behind⟩
  · exact absurd (Option.some.inj (here.symm.trans last)) other
  · exact behind

/-- Nothing begins or ends a block inside a clause. -/
theorem delimits_eq_false (within : cursor.Within rest) (here : cursor.peek? = some token)
    (other : token ≠ .semicolon) : token.delimits = false := by
  rcases within.cases_peek? with ⟨last, -⟩ | ⟨_, found, delimits, -⟩
  · exact absurd (Option.some.inj (here.symm.trans last)) other
  · exact Option.some.inj (here.symm.trans found) ▸ delimits

theorem not_isClosing (within : cursor.Within rest) : ¬cursor.IsClosing := by
  rcases within.cases_peek? with ⟨here, -⟩ | ⟨token, here, inside, -⟩
  · simp [IsClosing, here]
  · rintro (none | last | closes)
    · cases here.symm.trans none
    · cases here.symm.trans last
      cases inside
    · cases here.symm.trans closes
      cases inside

/-- A recovery stops behind the clause. -/
theorem recovers {events : List Script.Event} (within : cursor.Within rest)
    (recovers : cursor.RecoversTo next events) : next.tokens = rest := by
  induction recovers with
  | ended nothing =>
      rcases within.cases_peek? with ⟨here, -⟩ | ⟨token, here, -⟩ <;>
        cases nothing.symm.trans here
  | closing here closes =>
      have inside := within.delimits_eq_false here (by rcases closes with rfl | rfl <;> decide)
      rcases closes with rfl | rfl <;> cases inside
  | semicolon here => exact within.advance_of_semicolon here
  | other here opens others induction =>
      simp only [List.mem_cons, not_or] at opens
      exact induction (within.advance here opens.2.2.1)

end Within

end Cursor

theorem Token.IsClause.within {clause rest : List Token} (isClause : IsClause clause)
    {cursor : Cursor} (shape : cursor.tokens = clause ++ rest) : cursor.Within rest := by
  obtain ⟨body, rfl, inside⟩ := isClause
  exact ⟨body, by rw [shape, List.append_assoc]; rfl, inside⟩

theorem Token.IsClause.ne_nil {clause : List Token} (isClause : IsClause clause) : clause ≠ [] := by
  obtain ⟨body, rfl, -⟩ := isClause
  exact List.append_ne_nil_of_right_ne_nil _ (List.cons_ne_nil _ _)

/-! ## Expressions -/

/-- An expression is read inside a clause. -/
theorem Expression.ReadsTo.within {part : Part} {cursor : Cursor} {outcome : Outcome Expression}
    {rest : List Token} (reads : ReadsTo part cursor outcome) (within : cursor.Within rest) :
    outcome.next.Within rest := by
  induction reads with
  | atom here mentions => exact within.advance here (by rintro rfl; cases mentions)
  | parens opens inner closes induction =>
      exact (induction (within.advance opens (by decide))).advance closes (by decide)
  | parensOpen opens inner other induction => exact induction (within.advance opens (by decide))
  | parensFault opens inner induction => exact induction (within.advance opens (by decide))
  | none other => exact within
  | last ended => exact within
  | @more _ _ chain _ _ _ here operand others first second =>
      exact second (first (within.advance here (by cases chain <;> decide)))
  | @moreFault _ _ chain _ _ _ here operand induction =>
      exact induction (within.advance here (by cases chain <;> decide))
  | operands operand others first second => exact second (first within)
  | operandsFault operand induction => exact induction within
  | @assign cursor _ _ _ target assigned induction
  | @assignFault cursor _ _ _ _ target assigned induction =>
      obtain ⟨name, others, -, shape⟩ := target?_eq_some_iff.1 target
      have second := cursor.advance.peek?_of_tokens (cursor.advance_of_tokens shape)
      exact induction ((within.advance (cursor.peek?_of_tokens shape) (by simp)).advance second
        (by decide))
  | comparison other compared induction => exact induction within

/-! ## Statements -/

namespace Statement

/-- A statement that was given up, itself or in what it runs on a condition. -/
inductive GivenUp : Statement → Prop
  | broken (fragments : List Fragment) (error : GrammarError) (line : Nat) :
      GivenUp (.broken fragments error line)
  | ifThen {body : Statement} (condition : Expression) (line : Nat) (runs : GivenUp body) :
      GivenUp (.ifThen condition body line)

/-- Reading goes on at some tokens, and the statement is whole or was given up. -/
def Resumes (statement : Statement) (next : Cursor) (rest : List Token) : Prop :=
  next.tokens = rest ∧ (statement.isWhole = true ∨ statement.GivenUp)

variable {cursor next : Cursor} {statement : Statement} {rest : List Token}
variable {events : List Script.Event}

theorem resumes_of_recoversTo {fragments : List Fragment} {error : GrammarError} {line : Nat}
    (within : cursor.Within rest) (recovers : cursor.RecoversTo next events) :
    (broken fragments error line).Resumes next rest :=
  ⟨within.recovers recovers, .inr (.broken _ _ _)⟩

/-- Behind a value or a variable, the semicolon of the clause is read or recovered to. -/
theorem CompletesTo.resumes_of_readSemicolon {wanted : Expectation} {fragment : Fragment}
    {make : Nat → Statement} (made : ∀ line, (make line).isWhole = true)
    (completes : CompletesTo (readSemicolon wanted fragment make cursor) statement next events)
    (within : cursor.Within rest) : statement.Resumes next rest := by
  unfold readSemicolon at completes
  split at completes
  next here =>
    cases completes
    exact ⟨within.advance_of_semicolon here, .inl (made _)⟩
  next =>
    cases completes with
    | failed _ _ recovers => exact resumes_of_recoversTo within recovers

theorem CompletesTo.resumes_of_afterValue {wanted : Expectation}
    {make : Expression → Nat → Statement} {outcome : Outcome Expression}
    (made : ∀ value line, (make value line).isWhole = true)
    (completes : CompletesTo (afterValue wanted make outcome) statement next events)
    (within : outcome.next.Within rest) : statement.Resumes next rest := by
  cases outcome with
  | parsed value middle => exact resumes_of_readSemicolon (made value) completes within
  | failed fragments error middle =>
      cases completes with
      | failed _ _ recovers => exact resumes_of_recoversTo within recovers

theorem CompletesTo.resumes_of_readInput
    (completes : CompletesTo (readInput cursor) statement next events)
    (within : cursor.Within rest) : statement.Resumes next rest := by
  unfold readInput at completes
  split at completes
  next name here =>
    exact resumes_of_readSemicolon (fun _ => rfl) completes (within.advance here (by simp))
  next =>
    cases completes with
    | failed _ _ recovers => exact resumes_of_recoversTo within recovers

theorem ConditionReadsTo.within {outcome : Outcome Expression}
    (test : ConditionReadsTo cursor outcome) (within : cursor.Within rest) :
    outcome.next.Within rest := by
  cases test with
  | none other => exact within
  | parens opens inner closes =>
      exact (inner.within (within.advance opens (by decide))).advance closes (by decide)
  | parensOpen opens inner | parensFault opens inner =>
      exact inner.within (within.advance opens (by decide))

/-- A statement is read or given up up to the end of its clause, if no `else` follows. -/
theorem ReadsTo.resumes {cursor next : Cursor} {statement : Statement} {rest : List Token}
    {events : List Script.Event} (reads : ReadsTo cursor statement next events)
    (within : cursor.Within rest) (follow : rest.head? ≠ some .elseKeyword) :
    statement.Resumes next rest := by
  cases reads with
  | empty here => exact ⟨within.advance_of_semicolon here, .inl rfl⟩
  | print here value completes =>
      exact completes.resumes_of_afterValue (fun _ _ => rfl)
        (value.within (within.advance here (by decide)))
  | input here completes =>
      exact completes.resumes_of_readInput (within.advance here (by decide))
  | ifFault here test recovers =>
      exact resumes_of_recoversTo (test.within (within.advance here (by decide))) recovers
  | ifThen here test runs other =>
      obtain ⟨behind, ends⟩ :=
        runs.resumes (test.within (within.advance here (by decide))) follow
      exact ⟨behind, ends.imp id (.ifThen _ _)⟩
  | @ifElse _ _ last _ _ _ _ _ _ here test runs follows elses =>
      obtain ⟨behind, -⟩ := runs.resumes (test.within (within.advance here (by decide))) follow
      rw [last.peek?_eq, behind] at follows
      exact absurd follows follow
  | block here all closes | unclosed here all other recovers =>
      cases within.delimits_eq_false here (by decide)
  | strayElse here recovers => exact resumes_of_recoversTo within recovers
  | evaluate other value completes =>
      exact completes.resumes_of_afterValue (fun _ _ => rfl) (value.within within)

/-- The number of tokens is no bound on what is read. -/
theorem readsTo_read (cursor : Cursor) :
    ∃ events, ReadsTo cursor (read cursor).1 (read cursor).2 events := by
  obtain ⟨statement, next, events, reads⟩ := ends cursor
  rw [reads.read_eq]
  exact ⟨events, reads⟩

/-- A clause that is no statement is given up, and reading goes on behind it. -/
theorem givenUp_read {clause : List Token} (isClause : Token.IsClause clause)
    (wrong : ∀ tree, ¬Grammar.Statement.Derives clause tree)
    (shape : cursor.tokens = clause ++ rest) (follow : rest.head? ≠ some .elseKeyword) :
    (read cursor).1.GivenUp ∧ (read cursor).2.tokens = rest := by
  have within := isClause.within shape
  obtain ⟨events, reads⟩ := readsTo_read cursor
  obtain ⟨behind, ends⟩ := reads.resumes within follow
  refine ⟨ends.resolve_left fun whole => ?_, behind⟩
  obtain ⟨tokens, tree, found, derives⟩ :
      ∃ tokens tree, cursor.tokens = tokens ++ (read cursor).2.tokens ∧
        Grammar.Statement.Derives tokens tree := sound_readNested _ cursor _ _ rfl whole
  rw [shape, behind] at found
  exact wrong tree (List.append_cancel_right found ▸ derives)

end Statement

/-! ## Scripts -/

namespace Script

variable {cursor : Cursor} {tokens rest : List Token} {trees : List Grammar.Statement}

/-- Statements that derive from the grammar are read as their derivations, whatever follows them but
an `else`. -/
theorem exists_showAll (derive : Grammar.Statement.DeriveAll tokens trees)
    (nearest : ∀ tree ∈ trees, tree.NearestElse) (shape : cursor.tokens = tokens ++ rest)
    (follow : rest.head? ≠ some .elseKeyword) :
    ∃ statements middle, Statement.ShowAll statements trees ∧ middle.tokens = rest ∧
      ∀ others next events, ReadManyTo middle others next events →
        ∃ events', ReadManyTo cursor (statements ++ others) next events' := by
  induction trees generalizing tokens cursor with
  | nil =>
      cases derive
      exact ⟨[], cursor, .nil, shape, fun _ _ events all => ⟨events, all⟩⟩
  | cons tree trees induction =>
      cases derive with
      | @cons front back _ _ head tail =>
          rw [List.append_assoc] at shape
          obtain ⟨first, nearest⟩ := List.forall_mem_cons.1 nearest
          obtain ⟨token, more, start, begins⟩ := head.begins
          obtain ⟨goesOn, inside⟩ := Statement.goesOn_of_beginsStatement
            (cursor.peek?_of_tokens (shape.trans (by rw [start]; rfl))) begins
          obtain ⟨statement, middle, read, shows', behind⟩ :=
            finds_readStatement head first shape fun _ => tail.head?_ne rfl follow
          rw [readStatement, if_neg inside] at read
          obtain ⟨events, reads⟩ := Statement.readsTo_read cursor
          rw [read] at reads
          have begun : ¬cursor.IsClosing := by
            rw [Cursor.isClosing_iff, goesOn]
            exact not_or.2 ⟨Bool.false_ne_true, inside⟩
          obtain ⟨statements, last, show', left, onward⟩ := induction tail nearest behind
          refine ⟨statement :: statements, last, .cons shows' show', left,
            fun others next events all => ?_⟩
          obtain ⟨_, more⟩ := onward others next events all
          exact ⟨_, .cons begun reads more⟩

variable {front clause back : List PlacedToken} {treesBefore treesBehind : List Grammar.Statement}

/-- Between statements that derive from the grammar, a clause that is no statement is given up, and
the statements are read as their derivations. -/
theorem exists_givenUp
    (before : Grammar.Statement.DeriveAll (front.map PlacedToken.token) treesBefore)
    (nearestBefore : ∀ tree ∈ treesBefore, tree.NearestElse)
    (isClause : Token.IsClause (clause.map PlacedToken.token))
    (begins : (clause.map PlacedToken.token).head? ≠ some .elseKeyword)
    (wrong : ∀ tree, ¬Grammar.Statement.Derives (clause.map PlacedToken.token) tree)
    (behind : Grammar.Statement.DeriveAll (back.map PlacedToken.token) treesBehind)
    (nearestBehind : ∀ tree ∈ treesBehind, tree.NearestElse) (position : Position) :
    ∃ statements faulty others,
      (ofTokens (front ++ clause ++ back ++ [⟨.endOfFile, position⟩])).statements =
          statements ++ faulty :: others ∧
        Statement.ShowAll statements treesBefore ∧ faulty.GivenUp ∧
          Statement.ShowAll others treesBehind := by
  have shape : (Cursor.start (front ++ clause ++ back ++ [⟨.endOfFile, position⟩])).tokens =
      front.map PlacedToken.token ++ (clause.map PlacedToken.token ++
        (back.map PlacedToken.token ++ [.endOfFile])) := by
    simp [Cursor.tokens, Cursor.start]
  have next : (clause.map PlacedToken.token ++
      (back.map PlacedToken.token ++ [Token.endOfFile])).head? ≠ some .elseKeyword := by
    rw [List.head?_append, List.head?_eq_some_head isClause.ne_nil, Option.some_or,
      ← List.head?_eq_some_head]
    exact begins
  obtain ⟨statements, middle, showBefore, atClause, onward⟩ :=
    exists_showAll before nearestBefore shape next
  obtain ⟨events, reads⟩ := Statement.readsTo_read middle
  obtain ⟨givenUp, atBack⟩ := Statement.givenUp_read isClause wrong atClause
    (behind.head?_ne rfl (by decide))
  obtain ⟨others, last, showBehind, atEnd, further⟩ :=
    exists_showAll behind nearestBehind atBack (by decide)
  have ended : last.atEnd = true := by
    rw [Cursor.atEnd, last.peek?_eq, atEnd]
    rfl
  obtain ⟨_, rest⟩ := further [] last [] (.nil ended)
  obtain ⟨_, all⟩ := onward _ last _
    (.cons (isClause.within atClause).not_isClosing reads rest)
  rw [List.append_nil] at all
  exact ⟨statements, _, others, by rw [all.ofTokens_eq], showBefore, givenUp, showBehind⟩

end Script

end StackScript
