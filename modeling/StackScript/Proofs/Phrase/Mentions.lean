import Mathlib.Data.List.Induction
import StackScript.Proofs.Phrase.Progress
import StackScript.Proofs.Token.Mentions

/-!
# What is read is mentioned

Phrases mention symbols in the order of their tokens. Whatever is read without giving up a statement
mentions what its tokens do, for the same lines: no mention is left out, and none is made twice.
-/

namespace StackScript

/-! ## Mentions of phrases -/

/-- The symbols that an expression mentions. -/
def Expression.mentions : Expression → List Symbol
  | atom symbol _ => [symbol]
  | assign target value _ => target :: value.mentions
  | equals left right _ | add left right _ => left.mentions ++ right.mentions

/-- The symbols that a fragment mentions. -/
def Fragment.mentions : Fragment → List Symbol
  | target symbol => [symbol]
  | expression value => value.mentions

mutual

/-- The symbols that a statement mentions. -/
def Statement.mentions : Statement → List Symbol
  | .empty _ => []
  | .evaluate value _ | .print value _ => value.mentions
  | .input target _ => [target]
  | .ifThen condition body _ => condition.mentions ++ body.mentions
  | .ifElse condition body otherwise _ =>
      condition.mentions ++ (body.mentions ++ otherwise.mentions)
  | .block statements _ | .unclosed statements _ _ => Statement.allMentions statements
  | .broken fragments _ _ => fragments.flatMap Fragment.mentions

/-- The symbols that statements mention in turn. -/
def Statement.allMentions : List Statement → List Symbol
  | [] => []
  | first :: rest => first.mentions ++ Statement.allMentions rest

end

/-- The symbols that have been mentioned where a part of an expression begins. -/
def Expression.Part.mentions : Part → List Symbol
  | others _ left => left.mentions
  | expression | operands _ | primary => []

namespace Expression.Chain

variable (chain : Chain)

@[simp] theorem mentions_operand : chain.operand.mentions = [] := by
  cases chain <;> rfl

@[simp] theorem mentions_join (left right : Expression) (line : Nat) :
    (chain.join left right line).mentions = left.mentions ++ right.mentions := by
  cases chain <;> rfl

theorem isMention_operator : chain.operator.isMention = false := by
  cases chain <;> rfl

theorem operator_ne_assign : chain.operator ≠ .assign := by
  cases chain <;> simp [operator]

end Expression.Chain

/-! ## Mentions of tokens -/

namespace Cursor

/-- What the tokens that have not been read mention. -/
def mentions (cursor : Cursor) : List Symbol :=
  Token.mentions cursor.rest

variable {cursor : Cursor} {token : Token} {symbol : Symbol}

theorem line_advance {placed : PlacedToken} {rest : List PlacedToken}
    (shape : cursor.rest = placed :: rest) : cursor.advance.line = placed.lineBehind rest := by
  rw [advance, shape]
  rfl

/-- A token that mentions nothing is passed. -/
theorem mentions_advance (here : cursor.peek? = some token) (other : token.isMention = false) :
    cursor.mentions = cursor.advance.mentions := by
  obtain ⟨placed, rfl, whole⟩ := rest_eq_cons here
  rw [mentions, whole, Token.mentions_cons_of_not_isMention other]
  rfl

/-- A mention is entered for the line behind it, unless it is assigned to. -/
theorem mentions_atom (here : cursor.peek? = some token)
    (found : token.mention? cursor.advance.line = some symbol)
    (follow : cursor.advance.peek? ≠ some .assign) :
    cursor.mentions = symbol :: cursor.advance.mentions := by
  obtain ⟨placed, rfl, whole⟩ := rest_eq_cons here
  rw [mentions, whole]
  refine Token.mentions_cons_of_mention? found ?_
  rw [placed.entryLine_of_head?_ne follow, line_advance whole]

/-- The target of an assignment is entered for the line behind the sign. -/
theorem mentions_target (target : Expression.target? cursor = some symbol) :
    cursor.mentions = symbol :: cursor.advance.advance.mentions := by
  obtain ⟨name, others, rfl, shape⟩ := Expression.target?_eq_some_iff.1 target
  obtain ⟨placed, named, whole⟩ := rest_eq_cons (cursor.peek?_of_tokens shape)
  have second := cursor.advance.peek?_of_tokens (cursor.advance_of_tokens shape)
  obtain ⟨sign, same, behind⟩ := rest_eq_cons second
  have entered : placed.entryLine cursor.advance.rest = cursor.advance.advance.line := by
    rw [behind, line_advance behind]
    exact if_pos same
  rw [mentions, whole, Token.mentions_cons_of_mention? (by rw [named]; rfl) entered]
  exact congrArg _ (mentions_advance second rfl)

end Cursor

/-! ## Reading -/

namespace Expression.ReadsTo

variable {part : Part} {cursor next : Cursor} {outcome : Outcome Expression} {value : Expression}

/-- No operand is assigned to. -/
theorem peek?_ne_assign {chain : Chain} {left : Expression}
    (others : ReadsTo (.others chain left) cursor (.parsed value next))
    (follow : next.peek? ≠ some .assign) : cursor.peek? ≠ some .assign := by
  cases others with
  | last ended => exact follow
  | more here => exact here ▸ fun same => chain.operator_ne_assign (Option.some.inj same)

/-- What is read of an expression mentions what its tokens do. -/
theorem mentions_of_parsed (reads : ReadsTo part cursor outcome)
    (parsed : outcome = .parsed value next) (follow : next.peek? ≠ some .assign) :
    part.mentions ++ cursor.mentions = value.mentions ++ next.mentions := by
  induction reads generalizing value next with
  | atom here mentions =>
      cases parsed
      exact Cursor.mentions_atom here mentions follow
  | @parens cursor middle inside opens inner closes induction =>
      cases parsed
      have within := induction rfl (by simp [closes])
      rw [middle.mentions_advance closes rfl] at within
      rw [cursor.mentions_advance opens rfl]
      exact within
  | parensOpen | parensFault | none | moreFault | operandsFault | assignFault => cases parsed
  | last ended => cases parsed; rfl
  | @more cursor middle chain left right outcome here operand others first second =>
      subst parsed
      have within := first rfl (others.peek?_ne_assign follow)
      have onward := second rfl follow
      rw [Chain.mentions_operand, List.nil_append] at within
      rw [Part.mentions, Chain.mentions_join, List.append_assoc, ← within] at onward
      rw [Part.mentions, cursor.mentions_advance here chain.isMention_operator, onward]
  | @operands cursor middle chain left outcome operand others first second =>
      subst parsed
      have within := first rfl (others.peek?_ne_assign follow)
      rw [Chain.mentions_operand] at within
      exact within.trans (second rfl follow)
  | assign target assigned induction =>
      cases parsed
      rw [Part.mentions, List.nil_append, Cursor.mentions_target target, Expression.mentions,
        List.cons_append, ← induction rfl follow]
      rfl
  | comparison other compared induction => exact induction parsed follow

/-- The tokens of an expression mention what it does, in front of another token than a sign. -/
theorem mentions_eq (reads : ReadsTo .expression cursor (.parsed value next)) {token : Token}
    (here : next.peek? = some token) (other : token ≠ .assign) :
    cursor.mentions = value.mentions ++ next.mentions :=
  reads.mentions_of_parsed rfl (here ▸ fun same => other (Option.some.inj same))

end Expression.ReadsTo

namespace Statement

variable {cursor next : Cursor} {statement : Statement} {events : List Script.Event}
variable {outcome : Outcome Statement}

/-- What is completed and left whole was read. -/
theorem CompletesTo.parsed_of_isWhole (completes : CompletesTo outcome statement next events)
    (whole : statement.isWhole = true) : outcome = .parsed statement next := by
  cases completes with
  | parsed => rfl
  | failed => cases whole

theorem mentions_of_readSemicolon {wanted : Expectation} {fragment : Fragment}
    {make : Nat → Statement}
    (read : readSemicolon wanted fragment make cursor = .parsed statement next) :
    cursor.peek? = some .semicolon ∧ cursor.mentions = next.mentions ∧
      ∃ line, statement = make line := by
  unfold readSemicolon at read
  split at read
  next here =>
    cases read
    exact ⟨here, cursor.mentions_advance here rfl, _, rfl⟩
  next => cases read

theorem mentions_of_afterValue {value : Outcome Expression} {wanted : Expectation}
    {make : Expression → Nat → Statement}
    (reads : Expression.ReadsTo .expression cursor value)
    (read : afterValue wanted make value = .parsed statement next) :
    ∃ expression line, statement = make expression line ∧
      cursor.mentions = expression.mentions ++ next.mentions := by
  obtain ⟨expression, middle, rfl, closing⟩ := Outcome.bind_eq_parsed_iff.1 read
  obtain ⟨here, behind, line, rfl⟩ := mentions_of_readSemicolon closing
  exact ⟨expression, line, rfl, behind ▸ reads.mentions_eq here (by decide)⟩

theorem mentions_of_readInput (read : readInput cursor = .parsed statement next) :
    ∃ target line, statement = .input target line ∧
      cursor.mentions = target :: next.mentions := by
  unfold readInput at read
  split at read
  next name here =>
    obtain ⟨semicolon, behind, line, rfl⟩ := mentions_of_readSemicolon read
    exact ⟨_, line, rfl, behind ▸ cursor.mentions_atom here rfl (by simp [semicolon])⟩
  next => cases read

theorem ConditionReadsTo.mentions_eq {condition : Expression}
    (test : ConditionReadsTo cursor (.parsed condition next)) :
    cursor.mentions = condition.mentions ++ next.mentions := by
  cases test with
  | @parens middle _ opens inner closes =>
      rw [cursor.mentions_advance opens rfl, inner.mentions_eq closes (by decide),
        middle.mentions_advance closes rfl]

mutual

/-- The tokens of a statement mention what it does, if no part of it was given up. -/
theorem ReadsTo.mentions_eq {cursor next : Cursor} {statement : Statement}
    {events : List Script.Event} (reads : ReadsTo cursor statement next events)
    (whole : statement.isWhole = true) : cursor.mentions = statement.mentions ++ next.mentions := by
  cases reads with
  | empty here => exact cursor.mentions_advance here rfl
  | print here value completes =>
      obtain ⟨expression, line, rfl, same⟩ :=
        mentions_of_afterValue value (completes.parsed_of_isWhole whole)
      exact (cursor.mentions_advance here rfl).trans same
  | input here completes =>
      obtain ⟨target, line, rfl, same⟩ := mentions_of_readInput (completes.parsed_of_isWhole whole)
      exact (cursor.mentions_advance here rfl).trans same
  | ifFault | unclosed | strayElse => cases whole
  | ifThen here test runs other =>
      rw [cursor.mentions_advance here rfl, test.mentions_eq, runs.mentions_eq whole,
        Statement.mentions, List.append_assoc]
      rfl
  | @ifElse _ _ last _ _ _ _ _ _ here test runs follows elses =>
      rw [isWhole, Bool.and_eq_true] at whole
      rw [cursor.mentions_advance here rfl, test.mentions_eq, runs.mentions_eq whole.1,
        last.mentions_advance follows rfl, elses.mentions_eq whole.2, Statement.mentions,
        List.append_assoc, List.append_assoc]
      rfl
  | @block _ last _ _ here all closes =>
      rw [cursor.mentions_advance here rfl, all.mentions_eq whole, last.mentions_advance closes rfl]
      rfl
  | evaluate other value completes =>
      obtain ⟨expression, line, rfl, same⟩ :=
        mentions_of_afterValue value (completes.parsed_of_isWhole whole)
      exact same

theorem ReadManyTo.mentions_eq {cursor next : Cursor} {statements : List Statement}
    {events : List Script.Event} (all : ReadManyTo cursor statements next events)
    (whole : areWhole statements = true) :
    cursor.mentions = allMentions statements ++ next.mentions := by
  cases all with
  | nil closes => rfl
  | cons begins head tail =>
      rw [areWhole, Bool.and_eq_true] at whole
      rw [head.mentions_eq whole.1, tail.mentions_eq whole.2, allMentions, List.append_assoc]

end

end Statement

namespace Script

theorem ReadManyTo.mentions_eq {cursor next : Cursor} {statements : List Statement}
    {events : List Event} (all : ReadManyTo cursor statements next events)
    (whole : Statement.areWhole statements = true) :
    cursor.mentions = Statement.allMentions statements ++ next.mentions := by
  induction all with
  | nil ended => rfl
  | stray here tail => cases whole
  | cons begins head tail induction =>
      rw [Statement.areWhole, Bool.and_eq_true] at whole
      rw [head.mentions_eq whole.1, induction whole.2, Statement.allMentions, List.append_assoc]

theorem ReadManyTo.atEnd {cursor next : Cursor} {statements : List Statement}
    {events : List Event} (all : ReadManyTo cursor statements next events) :
    next.atEnd = true ∧ cursor.LeadsTo next := by
  induction all with
  | @nil cursor ended => exact ⟨ended, .refl cursor⟩
  | @stray cursor _ _ _ here tail induction =>
      exact ⟨induction.1, cursor.leadsTo_advance.trans induction.2⟩
  | cons begins head tail induction =>
      exact ⟨induction.1, head.goesOn.leadsTo.trans induction.2⟩

/-- Where a script ends, nothing is left that mentions anything. -/
theorem mentions_of_atEnd {front : List PlacedToken} {last : PlacedToken} {next : Cursor}
    (inside : ∀ placed ∈ front, placed.token ≠ .endOfFile)
    (leads : next.rest <:+ front ++ [last]) (ended : next.atEnd = true) : next.mentions = [] := by
  obtain ⟨passed, whole⟩ := leads
  cases left : next.rest with
  | nil => rw [Cursor.mentions, left]; rfl
  | cons placed rest =>
      have here : placed.token = .endOfFile := by
        simp only [Cursor.atEnd, Cursor.peek?, left, List.head?_cons, Option.map_some] at ended
        split at ended
        next nothing => cases nothing
        next token => exact Option.some.inj token
        next => cases ended
      have after : rest = [] := by
        rw [left] at whole
        cases rest using List.reverseRecOn with
        | nil => rfl
        | append_singleton rest other =>
            rw [← List.cons_append, ← List.append_assoc] at whole
            obtain ⟨same, -⟩ := List.append_inj' whole rfl
            exact absurd here (inside placed (same ▸ by simp))
      rw [Cursor.mentions, left, after, Token.mentions_cons_of_not_isMention (here ▸ rfl)]
      rfl

/-- The tokens of a script in front of its end mention what its statements do, if none of them was
given up. -/
theorem mentions_ofTokens {front : List PlacedToken} {last : PlacedToken}
    (inside : ∀ placed ∈ front, placed.token ≠ .endOfFile)
    (whole : Statement.areWhole (ofTokens (front ++ [last])).statements = true) :
    Token.mentions (front ++ [last]) =
      Statement.allMentions (ofTokens (front ++ [last])).statements := by
  obtain ⟨statements, next, events, all⟩ := exists_readManyTo (.start (front ++ [last]))
  rw [all.ofTokens_eq] at whole ⊢
  have same := all.mentions_eq whole
  obtain ⟨ended, leads⟩ := all.atEnd
  rw [mentions_of_atEnd inside leads ended, List.append_nil] at same
  exact same

end Script

end StackScript
