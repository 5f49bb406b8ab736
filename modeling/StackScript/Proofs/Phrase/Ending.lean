import StackScript.Proofs.Phrase.Progress

/-!
# The end of a script

An end of a script among the tokens reads like the end of the tokens. It is found wherever there
would be no token, is never read itself, and stands on the line where faults at the end of the
tokens are reported; so what follows it is never looked at. The one difference is what a fault has
found, which reads the same.
-/

namespace StackScript

open Script (Event)

/-! ## Faults at the end -/

/-- The same fault, where the end of the script is found as a token. -/
def GrammarFault.ended : GrammarFault → GrammarFault
  | unexpected wanted none => unexpected wanted (some .endOfFile)
  | other => other

theorem GrammarFault.message_ended (fault : GrammarFault) :
    fault.ended.message = fault.message := by
  cases fault with
  | unexpected wanted found => cases found <;> rfl
  | strayElse => rfl

/-- The same fault on its line, where the end of the script is found as a token. -/
def GrammarError.ended (error : GrammarError) : GrammarError :=
  { error with fault := error.fault.ended }

namespace Statement

mutual

/-- The same statement, where faults have found the end of the script as a token. -/
def ended : Statement → Statement
  | empty line => empty line
  | evaluate value line => evaluate value line
  | print value line => print value line
  | input target line => input target line
  | ifThen condition body line => ifThen condition body.ended line
  | ifElse condition body otherwise line => ifElse condition body.ended otherwise.ended line
  | block statements line => block (allEnded statements) line
  | broken fragments error line => broken fragments error.ended line
  | unclosed statements error line => unclosed (allEnded statements) error.ended line

/-- The same statements, where faults have found the end of the script as a token. -/
def allEnded : List Statement → List Statement
  | [] => []
  | first :: rest => first.ended :: allEnded rest

end

end Statement

/-! ## Places in front of the end -/

namespace Cursor

/-- The same place with other tokens behind the last one. -/
def ended (ending : List PlacedToken) (cursor : Cursor) : Cursor :=
  { cursor with rest := cursor.rest ++ ending }

/-- Behind the tokens that are left, the script ends on the line of the last one. -/
structure Before (ending : List PlacedToken) (cursor : Cursor) : Prop where
  token : ending.head?.map PlacedToken.token = some .endOfFile
  line : ending.head?.map (·.position.line) =
    some ((cursor.rest.getLast?.map (·.position.line)).getD cursor.lastLine)

variable {ending : List PlacedToken} {cursor : Cursor} {token : Token}

theorem peek?_ended (here : cursor.peek? = some token) :
    (cursor.ended ending).peek? = some token := by
  obtain ⟨placed, rfl, whole⟩ := rest_eq_cons here
  rw [peek?, ended, whole]
  rfl

theorem advance_ended (here : cursor.peek? = some token) :
    (cursor.ended ending).advance = cursor.advance.ended ending := by
  obtain ⟨rest, lastLine, nodeLine⟩ := cursor
  cases rest with
  | nil => cases here
  | cons placed rest => rfl

namespace Before

theorem advance (before : cursor.Before ending) : cursor.advance.Before ending := by
  obtain ⟨rest, lastLine, nodeLine⟩ := cursor
  cases rest with
  | nil => exact before
  | cons placed rest =>
      refine ⟨before.token, before.line.trans ?_⟩
      rw [List.getLast?_cons]
      simp only [Cursor.advance]
      cases rest.getLast? <;> rfl

theorem withNodeLine (before : cursor.Before ending) (line : Nat) :
    (cursor.withNodeLine line).Before ending :=
  ⟨before.token, before.line⟩

/-- Where there is no token, the end of the script is found. -/
theorem peek?_eq (before : cursor.Before ending) :
    (cursor.ended ending).peek? = some (cursor.peek?.getD .endOfFile) := by
  cases here : cursor.peek? with
  | none =>
      have nothing : cursor.rest = [] := by simpa [peek?] using here
      rw [peek?, ended, nothing]
      exact before.token
  | some token => exact peek?_ended here

/-- No other token is found than without the end of the script. -/
theorem peek?_ended_ne (before : cursor.Before ending) (other : cursor.peek? ≠ some token)
    (inner : token ≠ .endOfFile) : (cursor.ended ending).peek? ≠ some token := by
  rw [before.peek?_eq]
  cases here : cursor.peek? with
  | none => simpa using inner.symm
  | some found => simpa [here] using other

theorem line_ended (before : cursor.Before ending) :
    (cursor.ended ending).line = cursor.line := by
  have line := before.line
  obtain ⟨rest, lastLine, nodeLine⟩ := cursor
  cases rest with
  | nil => exact (congrArg (Option.getD · lastLine) line :)
  | cons placed rest => rfl

theorem unexpected_ended (before : cursor.Before ending) (wanted : Expectation) :
    (cursor.ended ending).unexpected wanted = (cursor.unexpected wanted).ended := by
  rw [unexpected, unexpected, before.line_ended, before.peek?_eq]
  cases cursor.peek? <;> rfl

theorem atEnd_ended (before : cursor.Before ending) :
    (cursor.ended ending).atEnd = cursor.atEnd := by
  unfold atEnd
  rw [before.peek?_eq]
  cases cursor.peek? <;> rfl

theorem isClosing_ended (before : cursor.Before ending) :
    (cursor.ended ending).IsClosing ↔ cursor.IsClosing := by
  unfold IsClosing
  rw [before.peek?_eq]
  cases cursor.peek? <;> simp

/-- A recovery stops in front of the end of the script. -/
theorem recoversTo_ended {next : Cursor} {events : List Event}
    (recovers : cursor.RecoversTo next events) (before : cursor.Before ending) :
    (∃ events, (cursor.ended ending).RecoversTo (next.ended ending) events) ∧
      next.Before ending := by
  induction recovers with
  | ended nothing =>
      exact ⟨⟨_, .closing (before.peek?_eq.trans (by rw [nothing]; rfl)) (.inl rfl)⟩, before⟩
  | closing here closes => exact ⟨⟨_, .closing (peek?_ended here) closes⟩, before⟩
  | semicolon here =>
      exact ⟨⟨_, advance_ended here ▸ RecoversTo.semicolon (peek?_ended here)⟩, before.advance⟩
  | other here opens others induction =>
      obtain ⟨⟨events, further⟩, last⟩ := induction before.advance
      exact ⟨⟨_, .other (peek?_ended here) opens (advance_ended here ▸ further)⟩, last⟩

end Before

end Cursor

/-- The same outcome, given what becomes of a value, with other tokens behind the last one. -/
def Outcome.ended {α : Type} (ending : List PlacedToken) (change : α → α) : Outcome α → Outcome α
  | parsed value next => parsed (change value) (next.ended ending)
  | failed fragments error next => failed fragments error.ended (next.ended ending)

/-! ## Expressions -/

namespace Expression

variable {ending : List PlacedToken} {cursor : Cursor}

theorem target?_ended (before : cursor.Before ending) :
    target? (cursor.ended ending) = target? cursor := by
  unfold target?
  rw [Cursor.peekSecond?_eq_peek?_advance, Cursor.peekSecond?_eq_peek?_advance, before.peek?_eq]
  cases here : cursor.peek? with
  | none => rfl
  | some token =>
      rw [Cursor.advance_ended here, before.advance.peek?_eq]
      cases there : cursor.advance.peek? with
      | none => cases token <;> rfl
      | some second =>
          rw [Cursor.advance_ended there, before.advance.advance.line_ended]
          rfl

theorem advance_ended_of_target? {symbol : Symbol} (target : target? cursor = some symbol) :
    (cursor.ended ending).advance.advance = cursor.advance.advance.ended ending := by
  obtain ⟨name, others, -, shape⟩ := target?_eq_some_iff.1 target
  have second := cursor.advance.peek?_of_tokens (cursor.advance_of_tokens shape)
  rw [Cursor.advance_ended (cursor.peek?_of_tokens shape), Cursor.advance_ended second]

/-- An expression is read up to the same place. -/
theorem ReadsTo.ended {part : Part} {outcome : Outcome Expression}
    (reads : ReadsTo part cursor outcome) (before : cursor.Before ending) :
    ReadsTo part (cursor.ended ending) (outcome.ended ending id) ∧
      outcome.next.Before ending := by
  induction reads with
  | @atom cursor token symbol here mentions =>
      have line := before.advance.line_ended
      rw [← Cursor.advance_ended here] at line
      refine ⟨?_, before.advance⟩
      have read := ReadsTo.atom (Cursor.peek?_ended here) (line.symm ▸ mentions)
      rwa [Cursor.advance_ended here] at read
  | parens opens inner closes induction =>
      obtain ⟨within, last⟩ := induction before.advance
      rw [← Cursor.advance_ended opens] at within
      refine ⟨?_, last.advance⟩
      have read := ReadsTo.parens (Cursor.peek?_ended opens) within (Cursor.peek?_ended closes)
      rwa [Cursor.advance_ended closes] at read
  | @parensOpen cursor next value opens inner other induction =>
      obtain ⟨within, last⟩ : _ ∧ next.Before ending := induction before.advance
      rw [← Cursor.advance_ended opens] at within
      refine ⟨?_, last⟩
      have read := ReadsTo.parensOpen (Cursor.peek?_ended opens) within
        (last.peek?_ended_ne other (by decide))
      rwa [last.unexpected_ended] at read
  | parensFault opens inner induction =>
      obtain ⟨within, last⟩ := induction before.advance
      rw [← Cursor.advance_ended opens] at within
      exact ⟨.parensFault (Cursor.peek?_ended opens) within, last⟩
  | @none cursor other =>
      -- No expression begins with the end of the script.
      have none (token : Token) (here : (cursor.ended ending).peek? = some token) :
          token.beginsExpression = false := by
        rw [before.peek?_eq, Option.some.injEq] at here
        cases found : cursor.peek? with
        | none => rw [← here, found]; rfl
        | some _ => exact other token (found.trans (by rw [← here, found]; rfl))
      have read := ReadsTo.none none
      rw [before.unexpected_ended] at read
      exact ⟨read, before⟩
  | @last cursor chain left ended =>
      exact ⟨.last (before.peek?_ended_ne ended (by cases chain <;> decide)), before⟩
  | more here operand others first second =>
      obtain ⟨within, middle⟩ := first before.advance
      obtain ⟨further, last⟩ := second middle
      rw [← Cursor.advance_ended here] at within
      exact ⟨.more (Cursor.peek?_ended here) within further, last⟩
  | moreFault here operand induction =>
      obtain ⟨within, last⟩ := induction before.advance
      rw [← Cursor.advance_ended here] at within
      exact ⟨.moreFault (Cursor.peek?_ended here) within, last⟩
  | operands operand others first second =>
      obtain ⟨within, middle⟩ := first before
      obtain ⟨further, last⟩ := second middle
      exact ⟨.operands within further, last⟩
  | operandsFault operand induction =>
      obtain ⟨within, last⟩ := induction before
      exact ⟨.operandsFault within, last⟩
  | assign target assigned induction =>
      obtain ⟨within, last⟩ := induction before.advance.advance
      rw [← advance_ended_of_target? target] at within
      exact ⟨ReadsTo.assign ((target?_ended before).trans target) within, last⟩
  | assignFault target assigned induction =>
      obtain ⟨within, last⟩ := induction before.advance.advance
      rw [← advance_ended_of_target? target] at within
      exact ⟨.assignFault ((target?_ended before).trans target) within, last⟩
  | comparison other compared induction =>
      obtain ⟨within, last⟩ := induction before
      exact ⟨.comparison ((target?_ended before).trans other) within, last⟩

end Expression

/-! ## Statements -/

namespace Statement

variable {ending : List PlacedToken} {cursor next : Cursor}
variable {statement : Statement} {events : List Event}

theorem readSemicolon_ended {wanted : Expectation} {fragment : Fragment} {make : Nat → Statement}
    (made : ∀ line, (make line).ended = make line) (before : cursor.Before ending) :
    readSemicolon wanted fragment make (cursor.ended ending) =
        (readSemicolon wanted fragment make cursor).ended ending Statement.ended ∧
      (readSemicolon wanted fragment make cursor).next.Before ending := by
  unfold readSemicolon
  by_cases here : cursor.peek? = some .semicolon
  · rw [if_pos here, if_pos (Cursor.peek?_ended here), Cursor.advance_ended here]
    exact ⟨congrArg (Outcome.parsed · _) (made _).symm, before.advance⟩
  · rw [if_neg here, if_neg (before.peek?_ended_ne here (by decide)), before.unexpected_ended]
    exact ⟨rfl, before⟩

theorem afterValue_ended {wanted : Expectation} {make : Expression → Nat → Statement}
    {outcome : Outcome Expression} (made : ∀ value line, (make value line).ended = make value line)
    (before : outcome.next.Before ending) :
    afterValue wanted make (outcome.ended ending id) =
        (afterValue wanted make outcome).ended ending Statement.ended ∧
      (afterValue wanted make outcome).next.Before ending := by
  cases outcome with
  | parsed value next => exact readSemicolon_ended (made value) before
  | failed fragments error next => exact ⟨rfl, before⟩

theorem readInput_ended (before : cursor.Before ending) :
    readInput (cursor.ended ending) =
        (readInput cursor).ended ending Statement.ended ∧
      (readInput cursor).next.Before ending := by
  unfold readInput
  rw [before.peek?_eq, before.unexpected_ended]
  cases here : cursor.peek? with
  | none => exact ⟨rfl, before⟩
  | some token =>
      cases token with
      | identifier name =>
          simp only [Option.getD_some, Cursor.advance_ended here, before.advance.line_ended]
          exact readSemicolon_ended (fun _ => rfl) before.advance
      | _ => exact ⟨rfl, before⟩

theorem CompletesTo.ended {outcome : Outcome Statement}
    (completes : CompletesTo outcome statement next events) (before : outcome.next.Before ending) :
    (∃ events, CompletesTo (outcome.ended ending Statement.ended) statement.ended
        (next.ended ending) events) ∧ next.Before ending := by
  cases completes with
  | parsed => exact ⟨⟨_, .parsed _ _⟩, before⟩
  | failed fragments error recovers =>
      obtain ⟨⟨events, further⟩, last⟩ := before.recoversTo_ended recovers
      exact ⟨⟨_, .failed fragments error.ended further⟩, last⟩

theorem ConditionReadsTo.ended {outcome : Outcome Expression}
    (test : ConditionReadsTo cursor outcome) (before : cursor.Before ending) :
    ConditionReadsTo (cursor.ended ending) (outcome.ended ending id) ∧
      outcome.next.Before ending := by
  cases test with
  | none other =>
      have read := ConditionReadsTo.none (before.peek?_ended_ne other (by decide))
      rw [before.unexpected_ended] at read
      exact ⟨read, before⟩
  | @parens next condition opens inner closes =>
      obtain ⟨within, last⟩ : _ ∧ next.Before ending := inner.ended before.advance
      rw [← Cursor.advance_ended opens] at within
      have read := ConditionReadsTo.parens (Cursor.peek?_ended opens) within
        (Cursor.peek?_ended closes)
      rw [Cursor.advance_ended closes] at read
      exact ⟨read, last.advance⟩
  | @parensOpen next condition opens inner other =>
      obtain ⟨within, last⟩ : _ ∧ next.Before ending := inner.ended before.advance
      rw [← Cursor.advance_ended opens] at within
      have read := ConditionReadsTo.parensOpen (Cursor.peek?_ended opens) within
        (last.peek?_ended_ne other (by decide))
      rw [last.unexpected_ended] at read
      exact ⟨read, last⟩
  | parensFault opens inner =>
      obtain ⟨within, last⟩ := inner.ended before.advance
      rw [← Cursor.advance_ended opens] at within
      exact ⟨.parensFault (Cursor.peek?_ended opens) within, last⟩

mutual

/-- A statement is read up to the same place. -/
theorem ReadsTo.ended {cursor next : Cursor} {statement : Statement} {events : List Event}
    (reads : ReadsTo cursor statement next events) (before : cursor.Before ending) :
    (∃ events, ReadsTo (cursor.ended ending) statement.ended (next.ended ending)
        events) ∧ next.Before ending := by
  cases reads with
  | empty here =>
      have found : (cursor.ended ending).peek? = some .semicolon := Cursor.peek?_ended here
      have read := ReadsTo.empty found
      rw [Cursor.advance_ended here] at read
      exact ⟨⟨_, read⟩, before.advance⟩
  | print here value completes =>
      obtain ⟨read, middle⟩ := value.ended before.advance
      rw [← Cursor.advance_ended here] at read
      have made (value : Expression) (line : Nat) : (Statement.print value line).ended = _ := rfl
      obtain ⟨same, middle⟩ := afterValue_ended made middle
      obtain ⟨⟨events, whole⟩, last⟩ := completes.ended middle
      rw [← same] at whole
      exact ⟨⟨_, .print (Cursor.peek?_ended here) read whole⟩, last⟩
  | input here completes =>
      obtain ⟨same, middle⟩ := readInput_ended before.advance
      obtain ⟨⟨events, whole⟩, last⟩ := completes.ended middle
      rw [← same, ← Cursor.advance_ended here] at whole
      exact ⟨⟨_, .input (Cursor.peek?_ended here) whole⟩, last⟩
  | @ifFault _ middle next fragments error events here test recovers =>
      obtain ⟨failed, middle⟩ : _ ∧ middle.Before ending := test.ended before.advance
      rw [← Cursor.advance_ended here] at failed
      obtain ⟨⟨events, further⟩, last⟩ := middle.recoversTo_ended recovers
      exact ⟨⟨_, .ifFault (Cursor.peek?_ended here) failed further⟩, last⟩
  | @ifThen _ _ next _ _ _ here test runs other =>
      obtain ⟨read, middle⟩ := test.ended before.advance
      rw [← Cursor.advance_ended here] at read
      obtain ⟨⟨events, body⟩, last⟩ := runs.ended middle
      have whole := ReadsTo.ifThen (Cursor.peek?_ended here) read body
        (last.peek?_ended_ne other (by decide))
      rw [before.line_ended] at whole
      exact ⟨⟨_, whole⟩, last.withNodeLine _⟩
  | ifElse here test runs follows elses =>
      obtain ⟨read, middle⟩ := test.ended before.advance
      rw [← Cursor.advance_ended here] at read
      obtain ⟨⟨events, body⟩, last⟩ := runs.ended middle
      obtain ⟨⟨others, otherwise⟩, last⟩ := elses.ended last.advance
      rw [← Cursor.advance_ended follows] at otherwise
      have whole := ReadsTo.ifElse (Cursor.peek?_ended here) read body
        (Cursor.peek?_ended follows) otherwise
      rw [before.line_ended] at whole
      exact ⟨⟨_, whole⟩, last.withNodeLine _⟩
  | block here all closes =>
      obtain ⟨⟨events, read⟩, last⟩ := all.ended before.advance
      rw [← Cursor.advance_ended here] at read
      have whole := ReadsTo.block (Cursor.peek?_ended here) read (Cursor.peek?_ended closes)
      rw [Cursor.advance_ended closes] at whole
      exact ⟨⟨_, whole⟩, last.advance⟩
  | unclosed here all other recovers =>
      obtain ⟨⟨events, read⟩, middle⟩ := all.ended before.advance
      rw [← Cursor.advance_ended here] at read
      obtain ⟨⟨others, further⟩, last⟩ := middle.recoversTo_ended recovers
      have whole := ReadsTo.unclosed (Cursor.peek?_ended here) read
        (middle.peek?_ended_ne other (by decide)) further
      rw [middle.unexpected_ended] at whole
      exact ⟨⟨_, whole⟩, last⟩
  | strayElse here recovers =>
      obtain ⟨⟨events, further⟩, last⟩ := before.recoversTo_ended recovers
      have whole := ReadsTo.strayElse (Cursor.peek?_ended here) further
      rw [before.line_ended] at whole
      exact ⟨⟨_, whole⟩, last⟩
  | evaluate other value completes =>
      -- The end of the script is no sign of a statement, so an expression is tried there as well.
      obtain ⟨read, middle⟩ := value.ended before
      have made (value : Expression) (line : Nat) : (Statement.evaluate value line).ended = _ := rfl
      obtain ⟨same, middle⟩ := afterValue_ended made middle
      obtain ⟨⟨events, whole⟩, last⟩ := completes.ended middle
      rw [← same] at whole
      have others (token : Token) (member : token ∈ signs) :=
        before.peek?_ended_ne (other token member)
          (by rintro rfl; exact absurd member (by decide))
      exact ⟨⟨_, .evaluate others read whole⟩, last⟩

/-- The statements of a block are read up to the same place. -/
theorem ReadManyTo.ended {cursor next : Cursor} {statements : List Statement} {events : List Event}
    (all : ReadManyTo cursor statements next events) (before : cursor.Before ending) :
    (∃ events, ReadManyTo (cursor.ended ending) (allEnded statements)
        (next.ended ending) events) ∧ next.Before ending := by
  cases all with
  | nil closes => exact ⟨⟨_, .nil (before.isClosing_ended.2 closes)⟩, before⟩
  | cons begins head tail =>
      obtain ⟨⟨events, first⟩, middle⟩ := head.ended before
      obtain ⟨⟨others, rest⟩, last⟩ := tail.ended middle
      exact ⟨⟨_, .cons (mt before.isClosing_ended.1 begins) first rest⟩, last⟩

end

end Statement

/-! ## Scripts -/

namespace Script

variable {ending : List PlacedToken} {cursor next : Cursor}

/-- The statements of a script are read up to the same place. -/
theorem ReadManyTo.ended {statements : List Statement} {events : List Event}
    (all : ReadManyTo cursor statements next events) (before : cursor.Before ending) :
    ∃ events, ReadManyTo (cursor.ended ending) (Statement.allEnded statements) (next.ended ending)
      events := by
  induction all with
  | nil ended => exact ⟨_, .nil (before.atEnd_ended.trans ended)⟩
  | stray here tail induction =>
      obtain ⟨others, rest⟩ := induction before.advance
      rw [← Cursor.advance_ended here] at rest
      have whole := ReadManyTo.stray (Cursor.peek?_ended here) rest
      rw [before.unexpected_ended, Cursor.advance_ended here] at whole
      exact ⟨_, whole⟩
  | cons begins head tail induction =>
      obtain ⟨⟨events, first⟩, middle⟩ := head.ended before
      obtain ⟨others, rest⟩ := induction middle
      exact ⟨_, .cons (mt before.isClosing_ended.1 begins) first rest⟩

/-- With the end of the script behind the tokens, and whatever follows it, the same statements are
read. -/
theorem ofTokens_append {tokens : List PlacedToken} (before : (Cursor.start tokens).Before ending) :
    ofTokens (tokens ++ ending) =
      ⟨Statement.allEnded (ofTokens tokens).statements, (ofTokens tokens).line⟩ := by
  obtain ⟨statements, last, events, all⟩ := exists_readManyTo (.start tokens)
  obtain ⟨others, whole⟩ := all.ended before
  have read : ofTokens (tokens ++ ending) = _ := ReadManyTo.ofTokens_eq whole
  rw [read, all.ofTokens_eq]
  rfl

end Script

end StackScript
