import StackScript.Proofs.Grammar.Drafting
import StackScript.Proofs.Phrase.Progress
import StackScript.Proofs.Tree.Findings

/-!
# Faults at the end of a script

The end of a script is never read. So wherever the reading has got to, the script ends on the same
line: that of the token for its end, if there is one, and that of the last token otherwise. A fault
that has found the end is reported for this line. Such faults are known by their wording.
-/

namespace StackScript

open Diagnostic
open Script (Event)

/-! ## Wording -/

/-- A decimal number ends with a digit. -/
theorem Text.exists_decimal_eq_append (n : Int) :
    ∃ front c, (Text.decimal n).toList = front ++ [c] ∧ c.isDigit = true := by
  have nonempty : digits n.natAbs ≠ [] := Nat.toDigits_ne_nil
  obtain ⟨front, c, shape⟩ := (List.eq_nil_or_concat' _).resolve_left nonempty
  have member : c ∈ digits n.natAbs := by
    rw [shape]
    exact List.mem_append_right front (List.mem_singleton_self c)
  unfold decimal
  split
  · exact ⟨'-' :: front, c, by rw [String.toList_ofList, shape]; rfl, isDigit_of_mem_digits member⟩
  · exact ⟨front, c, by rw [String.toList_ofList, shape], isDigit_of_mem_digits member⟩

/-- Only the end of a script is described by words that end in those for it. -/
theorem Token.eq_endOfFile_of_describe {token : Token} {front front' : List Char}
    (same : front ++ token.describe.toList = front' ++ "end of file".toList) :
    token = .endOfFile := by
  have ends : (front ++ token.describe.toList).reverse.take 2 = ['e', 'l'] := by
    rw [same]
    simp
  clear same
  cases token with
  | integer value =>
      obtain ⟨digits, last, shape, digit⟩ := Text.exists_decimal_eq_append value.toInt
      have letter : last = 'e' := by
        simpa [describe, shape] using congrArg List.head? ends
      rw [letter] at digit
      cases digit
  | endOfFile => rfl
  | _ => simp [describe] at ends

/-- A fault that has found the end of the script, or no token, where the grammar asks for
something. -/
inductive GrammarFault.FindsEnd : GrammarFault → Prop
  | unexpected (wanted : Expectation) {found : Option Token}
      (ended : found.getD .endOfFile = .endOfFile) : FindsEnd (.unexpected wanted found)

/-- A diagnostic of finding the end of the script where the grammar asks for something. -/
def Diagnostic.FindsEnd (diagnostic : Diagnostic) : Prop :=
  ∃ wanted : Expectation,
    diagnostic.problem = .malformed ("expected " ++ wanted.describe ++ ", found end of file")

theorem GrammarFault.findsEnd_of_message {fault : GrammarFault} {wanted : Expectation}
    (same : fault.message = "expected " ++ wanted.describe ++ ", found end of file") :
    fault.FindsEnd := by
  cases fault with
  | unexpected wanted' found =>
      have ending : ", found end of file" = ", found " ++ "end of file" := rfl
      have apart (front back : String) : (front ++ back).toList = front.toList ++ back.toList :=
        String.toList_append
      rw [message, ending, ← String.append_assoc] at same
      have letters := congrArg String.toList same
      rw [apart _ (Token.describe _), apart _ "end of file"] at letters
      exact .unexpected wanted' (Token.eq_endOfFile_of_describe letters)
  | strayElse => simpa [message] using congrArg String.toList same

/-! ## The line of the end -/

/-- The line that tokens end on, behind a token on a line: that of the first token for the end of
the script, or else of the last token. -/
def endLine : Nat → List PlacedToken → Nat
  | lastLine, [] => lastLine
  | _, placed :: rest =>
      if placed.token = .endOfFile then placed.position.line else endLine placed.position.line rest

namespace Cursor

variable {cursor next : Cursor} {token : Token} {events : List Event}

/-- The line that the script ends on, as seen from a place. -/
def endLine (cursor : Cursor) : Nat :=
  StackScript.endLine cursor.lastLine cursor.rest

/-- The line stays the same when another token is read. -/
theorem endLine_advance (here : cursor.peek? = some token) (inner : token ≠ .endOfFile) :
    cursor.advance.endLine = cursor.endLine := by
  obtain ⟨placed, rfl, whole⟩ := rest_eq_cons here
  have further : cursor.endLine =
      StackScript.endLine placed.position.line cursor.advance.rest := by
    rw [endLine, whole, StackScript.endLine, if_neg inner]
  have last : cursor.advance.lastLine = placed.position.line := by
    rw [advance, whole]
  rw [further, endLine, last]

/-- A fault that has found the end is on the line of the end. -/
theorem line_unexpected {wanted : Expectation}
    (ended : (cursor.unexpected wanted).fault.FindsEnd) :
    (cursor.unexpected wanted).line = cursor.endLine := by
  obtain ⟨rest, lastLine, nodeLine⟩ := cursor
  cases rest with
  | nil => rfl
  | cons placed rest =>
      cases ended with
      | unexpected _ ended =>
          have ends : placed.token = .endOfFile := ended
          rw [endLine, StackScript.endLine, if_pos ends]
          rfl

/-- A recovery does not skip the end. -/
theorem RecoversTo.endLine_eq (recovers : cursor.RecoversTo next events) :
    next.endLine = cursor.endLine := by
  induction recovers with
  | ended nothing => rfl
  | closing here closes => rfl
  | semicolon here => exact endLine_advance here (by decide)
  | other here opens others induction =>
      refine induction.trans (endLine_advance here ?_)
      rintro rfl
      exact opens List.mem_cons_self

end Cursor

/-! ## Expressions -/

/-- Reading has kept the line of the end, and reports a fault of finding it there. -/
def Outcome.EndsOn {α : Type} (line : Nat) : Outcome α → Prop
  | parsed _ next => next.endLine = line
  | failed _ error next =>
      next.endLine = line ∧ (error.fault.FindsEnd → error.line = line)

theorem Cursor.endsOn_unexpected {α : Type} (cursor : Cursor) (wanted : Expectation)
    (fragments : List Fragment) :
    (Outcome.failed fragments (cursor.unexpected wanted) cursor : Outcome α).EndsOn
      cursor.endLine :=
  ⟨rfl, Cursor.line_unexpected⟩

namespace Expression

theorem endLine_of_target? {cursor : Cursor} {symbol : Symbol}
    (target : target? cursor = some symbol) :
    cursor.advance.advance.endLine = cursor.endLine := by
  obtain ⟨name, others, -, shape⟩ := target?_eq_some_iff.1 target
  have second := cursor.advance.peek?_of_tokens (cursor.advance_of_tokens shape)
  rw [Cursor.endLine_advance second (by decide),
    Cursor.endLine_advance (cursor.peek?_of_tokens shape) (by simp)]

/-- Reading an expression keeps the line of the end. -/
theorem ReadsTo.endsOn {part : Part} {cursor : Cursor} {outcome : Outcome Expression}
    (reads : ReadsTo part cursor outcome) : outcome.EndsOn cursor.endLine := by
  induction reads with
  | @atom cursor token symbol here mentions =>
      refine Cursor.endLine_advance here ?_
      rintro rfl
      cases mentions
  | @parens cursor next value opens inner closes induction =>
      rw [Cursor.endLine_advance opens (by decide)] at induction
      exact (Cursor.endLine_advance closes (by decide)).trans induction
  | @parensOpen cursor next value opens inner other induction =>
      rw [Cursor.endLine_advance opens (by decide)] at induction
      have same : next.endLine = cursor.endLine := induction
      exact same ▸ next.endsOn_unexpected .closingParen _
  | @parensFault cursor next fragments error opens inner induction =>
      rwa [Cursor.endLine_advance opens (by decide)] at induction
  | none other => exact Cursor.endsOn_unexpected _ _ _
  | last ended => rfl
  | @more cursor next chain left right outcome here operand others first second =>
      rw [Cursor.endLine_advance here (by cases chain <;> decide)] at first
      have same : next.endLine = cursor.endLine := first
      exact same ▸ second
  | @moreFault cursor next chain left fragments error here operand induction =>
      rwa [Cursor.endLine_advance here (by cases chain <;> decide)] at induction
  | @operands cursor next chain left outcome operand others first second =>
      have same : next.endLine = cursor.endLine := first
      exact same ▸ second
  | operandsFault operand induction => exact induction
  | @assign cursor next symbol value target assigned induction =>
      rwa [endLine_of_target? target] at induction
  | @assignFault cursor next symbol fragments error target assigned induction =>
      rwa [endLine_of_target? target] at induction
  | comparison other compared induction => exact induction

end Expression

/-! ## Statements -/

/-- The diagnostics of finding the end are on a line. -/
def EndOn (line : Nat) (found : List Diagnostic) : Prop :=
  ∀ diagnostic ∈ found, diagnostic.FindsEnd → diagnostic.line = line

namespace EndOn

variable {line : Nat} {front back found : List Diagnostic} {error : GrammarError}

theorem nil (line : Nat) : EndOn line [] :=
  List.forall_mem_nil _

theorem append (first : EndOn line front) (second : EndOn line back) : EndOn line (front ++ back) :=
  List.forall_mem_append.2 ⟨first, second⟩

/-- Checks do not find the end. -/
theorem of_checks
    (checks : ∀ diagnostic ∈ found, diagnostic.problem.isMalformed = false) : EndOn line found := by
  rintro diagnostic member ⟨wanted, malformed⟩
  have check := checks diagnostic member
  rw [malformed] at check
  cases check

theorem ofError (there : error.fault.FindsEnd → error.line = line) :
    EndOn line [Diagnostic.ofError error] := by
  intro diagnostic member
  obtain rfl := List.mem_singleton.1 member
  rintro ⟨wanted, malformed⟩
  exact there (GrammarFault.findsEnd_of_message (Problem.malformed.inj malformed))

end EndOn

theorem Diagnostic.isMalformed_ofComparison {line : Nat} {left right : Ty} :
    ∀ diagnostic ∈ ofComparison line left right, diagnostic.problem.isMalformed = false := by
  unfold ofComparison
  split
  · exact List.forall_mem_nil _
  · exact List.forall_mem_singleton.2 rfl

theorem Diagnostic.isMalformed_ofSum {line : Nat} {left right : Ty} :
    ∀ diagnostic ∈ ofSum line left right, diagnostic.problem.isMalformed = false := by
  unfold ofSum
  split
  · exact List.forall_mem_nil _
  next refused => exact List.forall_mem_singleton.2 (Coercion.isMalformed_of_forAddend refused)

theorem Diagnostic.isMalformed_ofCondition {line : Nat} {found : Ty} :
    ∀ diagnostic ∈ ofCondition line found, diagnostic.problem.isMalformed = false := by
  unfold ofCondition
  split
  · exact List.forall_mem_nil _
  · exact List.forall_mem_singleton.2 rfl

/-- The diagnostics of an expression are those of checks. -/
theorem Expression.isMalformed_findings (expression : Expression) :
    ∀ diagnostic ∈ expression.findings, diagnostic.problem.isMalformed = false := by
  induction expression with
  | atom symbol line => exact List.forall_mem_nil _
  | assign target value line induction => exact induction
  | equals left right line inductionLeft inductionRight =>
      exact List.forall_mem_append.2 ⟨List.forall_mem_append.2 ⟨inductionLeft, inductionRight⟩,
        isMalformed_ofComparison⟩
  | add left right line inductionLeft inductionRight =>
      exact List.forall_mem_append.2 ⟨List.forall_mem_append.2 ⟨inductionLeft, inductionRight⟩,
        isMalformed_ofSum⟩

theorem Expression.endOn_findings (expression : Expression) (line : Nat) :
    EndOn line expression.findings :=
  .of_checks expression.isMalformed_findings

theorem Fragment.endOn_findings (fragments : List Fragment) (line : Nat) :
    EndOn line (fragments.flatMap findings) := by
  induction fragments with
  | nil => exact .nil line
  | cons first rest induction =>
      refine EndOn.append ?_ induction
      cases first with
      | target symbol => exact .nil line
      | expression value => exact value.endOn_findings line

namespace Statement

variable {cursor middle next : Cursor} {statement : Statement} {events : List Event} {line : Nat}

/-- Reading a statement has kept the line of the end, and reports the faults of finding it there. -/
structure EndsOn (line : Nat) (statement : Statement) (next : Cursor) : Prop where
  next : next.endLine = line
  findings : EndOn line statement.findings

theorem endsOn_broken {fragments : List Fragment} {error : GrammarError} {place : Nat}
    (kept : middle.endLine = line) (there : error.fault.FindsEnd → error.line = line)
    (recovers : middle.RecoversTo next events) :
    (broken fragments error place).EndsOn line next where
  next := recovers.endLine_eq.trans kept
  findings := (Fragment.endOn_findings fragments line).append (.ofError there)

/-- A statement that is complete is on no other line than what it is made of. -/
theorem CompletesTo.endsOn {outcome : Outcome Statement}
    (completes : CompletesTo outcome statement next events) (endsOn : outcome.EndsOn line)
    (parts : ∀ statement next, outcome = .parsed statement next → EndOn line statement.findings) :
    statement.EndsOn line next := by
  cases completes with
  | parsed => exact ⟨endsOn, parts _ _ rfl⟩
  | failed fragments error recovers => exact endsOn_broken endsOn.1 endsOn.2 recovers

theorem endsOn_readSemicolon {wanted : Expectation} {fragment : Fragment} {make : Nat → Statement}
    (kept : cursor.endLine = line) : (readSemicolon wanted fragment make cursor).EndsOn line := by
  subst kept
  rw [readSemicolon]
  split
  next here => exact Cursor.endLine_advance here (by decide)
  next => exact cursor.endsOn_unexpected wanted _

theorem endsOn_afterValue {wanted : Expectation} {make : Expression → Nat → Statement}
    {outcome : Outcome Expression} (endsOn : outcome.EndsOn line) :
    (afterValue wanted make outcome).EndsOn line := by
  cases outcome with
  | parsed value next => exact endsOn_readSemicolon endsOn
  | failed fragments error next => exact endsOn

/-- What is made of a value and a semicolon has the diagnostics of the value. -/
theorem findings_of_afterValue {wanted : Expectation} {make : Expression → Nat → Statement}
    {outcome : Outcome Expression}
    (made : ∀ value line, (make value line).findings = value.findings)
    (read : afterValue wanted make outcome = .parsed statement next) :
    EndOn line statement.findings := by
  cases outcome with
  | parsed value middle =>
      simp only [afterValue, Outcome.bind, readSemicolon] at read
      split at read
      · cases read
        rw [made]
        exact value.endOn_findings line
      · cases read
  | failed fragments error middle => cases read

theorem endsOn_readInput (kept : cursor.endLine = line) : (readInput cursor).EndsOn line := by
  rw [readInput]
  split
  next name here =>
    exact endsOn_readSemicolon ((Cursor.endLine_advance here (by simp)).trans kept)
  next => exact kept ▸ cursor.endsOn_unexpected .nameAfterInput []

theorem findings_of_readInput (read : readInput cursor = .parsed statement next) :
    EndOn line statement.findings := by
  simp only [readInput, readSemicolon] at read
  split at read
  · split at read
    · cases read
      exact .nil line
    · cases read
  · cases read

theorem ConditionReadsTo.endsOn {outcome : Outcome Expression}
    (test : ConditionReadsTo cursor outcome) : outcome.EndsOn cursor.endLine := by
  cases test with
  | none other => exact cursor.endsOn_unexpected .parenAfterIf _
  | parens opens inner closes =>
      have within := inner.endsOn
      rw [Cursor.endLine_advance opens (by decide)] at within
      exact (Cursor.endLine_advance closes (by decide)).trans within
  | @parensOpen next condition opens inner other =>
      have within : next.endLine = cursor.endLine :=
        inner.endsOn.trans (Cursor.endLine_advance opens (by decide))
      exact within ▸ next.endsOn_unexpected .parenAfterCondition _
  | parensFault opens inner =>
      have within := inner.endsOn
      rwa [Cursor.endLine_advance opens (by decide)] at within

mutual

/-- Reading a statement keeps the line of the end. -/
theorem ReadsTo.endsOn {cursor next : Cursor} {statement : Statement} {events : List Event}
    (reads : ReadsTo cursor statement next events) : statement.EndsOn cursor.endLine next := by
  cases reads with
  | empty here => exact ⟨Cursor.endLine_advance here (by decide), .nil _⟩
  | print here value completes =>
      have within := value.endsOn
      rw [Cursor.endLine_advance here (by decide)] at within
      exact completes.endsOn (endsOn_afterValue within)
        fun _ _ => findings_of_afterValue fun _ _ => rfl
  | input here completes =>
      exact completes.endsOn (endsOn_readInput (Cursor.endLine_advance here (by decide)))
        fun _ _ => findings_of_readInput
  | ifFault here test recovers =>
      have within := test.endsOn
      rw [Cursor.endLine_advance here (by decide)] at within
      exact endsOn_broken within.1 within.2 recovers
  | @ifThen cursor middle next condition body events here test runs other =>
      have tested : middle.endLine = cursor.endLine :=
        test.endsOn.trans (Cursor.endLine_advance here (by decide))
      obtain ⟨kept, found⟩ := runs.endsOn
      rw [tested] at kept found
      exact ⟨kept, ((condition.endOn_findings _).append found).append
        (.of_checks isMalformed_ofCondition)⟩
  | @ifElse cursor middle last next condition body otherwise events others here test runs follows
      elses =>
      have tested : middle.endLine = cursor.endLine :=
        test.endsOn.trans (Cursor.endLine_advance here (by decide))
      obtain ⟨kept, found⟩ := runs.endsOn
      rw [tested] at kept found
      obtain ⟨keptToo, foundToo⟩ := elses.endsOn
      rw [Cursor.endLine_advance follows (by decide), kept] at keptToo foundToo
      exact ⟨keptToo, (((condition.endOn_findings _).append found).append foundToo).append
        (.of_checks isMalformed_ofCondition)⟩
  | block here all closes =>
      obtain ⟨kept, found⟩ := all.endsOn
      rw [Cursor.endLine_advance here (by decide)] at kept found
      exact ⟨(Cursor.endLine_advance closes (by decide)).trans kept, found⟩
  | unclosed here all other recovers =>
      obtain ⟨kept, found⟩ := all.endsOn
      rw [Cursor.endLine_advance here (by decide)] at kept found
      refine ⟨recovers.endLine_eq.trans kept, found.append (.ofError fun ended => ?_)⟩
      exact (Cursor.line_unexpected ended).trans kept
  | strayElse here recovers =>
      refine endsOn_broken rfl ?_ recovers
      rintro ⟨⟩
  | evaluate other value completes =>
      exact completes.endsOn (endsOn_afterValue value.endsOn)
        fun _ _ => findings_of_afterValue fun _ _ => rfl

theorem ReadManyTo.endsOn {cursor next : Cursor} {statements : List Statement}
    {events : List Event} (all : ReadManyTo cursor statements next events) :
    next.endLine = cursor.endLine ∧ EndOn cursor.endLine (allFindings statements) := by
  cases all with
  | nil closes => exact ⟨rfl, .nil _⟩
  | cons begins head tail =>
      obtain ⟨kept, found⟩ := head.endsOn
      obtain ⟨keptToo, foundToo⟩ := tail.endsOn
      rw [kept] at keptToo foundToo
      exact ⟨keptToo, found.append foundToo⟩

end

end Statement

namespace Script

theorem ReadManyTo.endOn {cursor next : Cursor} {statements : List Statement}
    {events : List Event} (all : ReadManyTo cursor statements next events) :
    EndOn cursor.endLine (Statement.allFindings statements) := by
  induction all with
  | nil ended => exact .nil _
  | @stray cursor next rest events here tail induction =>
      rw [Cursor.endLine_advance here (by decide)] at induction
      exact EndOn.append (.ofError Cursor.line_unexpected) induction
  | cons begins head tail induction =>
      obtain ⟨kept, found⟩ := head.endsOn
      rw [kept] at induction
      exact found.append induction

/-- Whatever tokens there are, the faults of finding the end of the script are on the line that the
tokens end on. -/
theorem endOn_draft_ofTokens (tokens : List PlacedToken) :
    EndOn (endLine 1 tokens) (ofTokens tokens).draft.1.diagnostics.toList := by
  obtain ⟨statements, last, events, all⟩ := exists_readManyTo (.start tokens)
  rw [diagnostics_draft, all.ofTokens_eq]
  exact all.endOn

end Script

end StackScript
