import StackScript.Proofs.Phrase.Progress
import StackScript.Proofs.Tree.Findings

/-!
# The tokens of phrases

Which tokens spell what has been read, together with the diagnostics of the checks and the lines
that these take from the tokens: a condition is checked on the line of its `if`, and an operation on
the line of the last token of its right operand. Where a statement was given up, its complete parts
stand among its tokens. Each reading is a spelling, and the diagnostics are those of the phrase.
-/

namespace StackScript

open Diagnostic
open Script (Event)

/-! ## Spellings -/

/-- Tokens that spell an expression, and the diagnostics of its checks. -/
inductive Expression.Spelled : Expression → List PlacedToken → List Diagnostic → Prop
  | atom {placed : PlacedToken} {symbol : Symbol} {place line : Nat}
      (mentions : placed.token.mention? place = some symbol) :
      Spelled (.atom symbol line) [placed] []
  | parens {opening closing : PlacedToken} {value : Expression} {segment : List PlacedToken}
      {found : List Diagnostic} (opens : opening.token = .leftParen)
      (inner : Spelled value segment found) (closes : closing.token = .rightParen) :
      Spelled value (opening :: (segment ++ [closing])) found
  | assign {name sign : PlacedToken} {target : Symbol} {value : Expression} {line : Nat}
      {segment : List PlacedToken} {found : List Diagnostic}
      (named : name.token = .identifier target.name) (assigns : sign.token = .assign)
      (assigned : Spelled value segment found) :
      Spelled (.assign target value line) (name :: sign :: segment) found
  | equals {sign last : PlacedToken} {left right : Expression} {line : Nat}
      {front back : List PlacedToken} {found found' : List Diagnostic}
      (first : Spelled left front found) (compares : sign.token = .equal)
      (second : Spelled right (back ++ [last]) found') :
      Spelled (.equals left right line) (front ++ sign :: (back ++ [last]))
        (found ++ found' ++ ofComparison last.position.line left.type right.type)
  | add {sign last : PlacedToken} {left right : Expression} {line : Nat}
      {front back : List PlacedToken} {found found' : List Diagnostic}
      (first : Spelled left front found) (adds : sign.token = .plus)
      (second : Spelled right (back ++ [last]) found') :
      Spelled (.add left right line) (front ++ sign :: (back ++ [last]))
        (found ++ found' ++ ofSum last.position.line left.type right.type)

/-- Tokens among which fragments are spelled in turn, and the diagnostics of these. -/
inductive Fragment.Among : List Fragment → List PlacedToken → List Diagnostic → Prop
  | nil (skipped : List PlacedToken) : Among [] skipped []
  | target {name : PlacedToken} {symbol : Symbol} {fragments : List Fragment}
      {segment : List PlacedToken} {found : List Diagnostic} (skipped : List PlacedToken)
      (named : name.token = .identifier symbol.name) (others : Among fragments segment found) :
      Among (.target symbol :: fragments) (skipped ++ name :: segment) found
  | expression {value : Expression} {fragments : List Fragment} {own segment : List PlacedToken}
      {found found' : List Diagnostic} (skipped : List PlacedToken)
      (spelled : value.Spelled own found) (others : Among fragments segment found') :
      Among (.expression value :: fragments) (skipped ++ (own ++ segment)) (found ++ found')

namespace Statement

mutual

/-- Tokens that spell a statement, and the diagnostics of it. -/
inductive Spelled : Statement → List PlacedToken → List Diagnostic → Prop
  | empty {semicolon : PlacedToken} {line : Nat} (ends : semicolon.token = .semicolon) :
      Spelled (.empty line) [semicolon] []
  | evaluate {semicolon : PlacedToken} {value : Expression} {line : Nat}
      {segment : List PlacedToken} {found : List Diagnostic}
      (evaluated : value.Spelled segment found) (ends : semicolon.token = .semicolon) :
      Spelled (.evaluate value line) (segment ++ [semicolon]) found
  | print {keyword semicolon : PlacedToken} {value : Expression} {line : Nat}
      {segment : List PlacedToken} {found : List Diagnostic}
      (begins : keyword.token = .printKeyword) (printed : value.Spelled segment found)
      (ends : semicolon.token = .semicolon) :
      Spelled (.print value line) (keyword :: (segment ++ [semicolon])) found
  | input {keyword name semicolon : PlacedToken} {target : Symbol} {line : Nat}
      (begins : keyword.token = .inputKeyword) (named : name.token = .identifier target.name)
      (ends : semicolon.token = .semicolon) :
      Spelled (.input target line) [keyword, name, semicolon] []
  | ifThen {keyword opening closing : PlacedToken} {condition : Expression} {body : Statement}
      {line : Nat} {segment inner : List PlacedToken} {found found' : List Diagnostic}
      (begins : keyword.token = .ifKeyword) (opens : opening.token = .leftParen)
      (decided : condition.Spelled segment found) (closes : closing.token = .rightParen)
      (runs : Spelled body inner found') :
      Spelled (.ifThen condition body line)
        (keyword :: opening :: (segment ++ closing :: inner))
        (found ++ found' ++ ofCondition keyword.position.line condition.type)
  | ifElse {keyword opening closing separator : PlacedToken} {condition : Expression}
      {body otherwise : Statement} {line : Nat} {segment inner other : List PlacedToken}
      {found found' found'' : List Diagnostic}
      (begins : keyword.token = .ifKeyword) (opens : opening.token = .leftParen)
      (decided : condition.Spelled segment found) (closes : closing.token = .rightParen)
      (runs : Spelled body inner found') (separates : separator.token = .elseKeyword)
      (elses : Spelled otherwise other found'') :
      Spelled (.ifElse condition body otherwise line)
        (keyword :: opening :: (segment ++ closing :: (inner ++ separator :: other)))
        (found ++ found' ++ found'' ++ ofCondition keyword.position.line condition.type)
  | block {opening closing : PlacedToken} {statements : List Statement} {line : Nat}
      {segment : List PlacedToken} {found : List Diagnostic} (opens : opening.token = .leftBrace)
      (all : AllSpelled statements segment found) (closes : closing.token = .rightBrace) :
      Spelled (.block statements line) (opening :: (segment ++ [closing])) found
  | broken {fragments : List Fragment} {error : GrammarError} {line : Nat}
      {segment : List PlacedToken} {found : List Diagnostic}
      (left : Fragment.Among fragments segment found) :
      Spelled (.broken fragments error line) segment (found ++ [ofError error])
  | unclosed {opening : PlacedToken} {statements : List Statement} {error : GrammarError}
      {line : Nat} {segment skipped : List PlacedToken} {found : List Diagnostic}
      (opens : opening.token = .leftBrace) (all : AllSpelled statements segment found) :
      Spelled (.unclosed statements error line) (opening :: (segment ++ skipped))
        (found ++ [ofError error])

/-- Tokens that spell statements in turn, and the diagnostics of these. -/
inductive AllSpelled : List Statement → List PlacedToken → List Diagnostic → Prop
  | nil : AllSpelled [] [] []
  | cons {first : Statement} {rest : List Statement} {front back : List PlacedToken}
      {found found' : List Diagnostic} (head : Spelled first front found)
      (tail : AllSpelled rest back found') :
      AllSpelled (first :: rest) (front ++ back) (found ++ found')

end

end Statement

/-! ## Readings -/

namespace Cursor

variable {cursor middle next : Cursor} {front back segment : List PlacedToken}

/-- Tokens are read between two places, and nodes are recorded for the line of the last one. -/
structure Reads (cursor : Cursor) (segment : List PlacedToken) (next : Cursor) : Prop where
  rest : cursor.rest = segment ++ next.rest
  line : next.nodeLine = (segment.getLast?.map (·.position.line)).getD cursor.nodeLine

theorem Reads.refl (cursor : Cursor) : cursor.Reads [] cursor :=
  ⟨rfl, rfl⟩

theorem Reads.trans (first : cursor.Reads front middle) (second : middle.Reads back next) :
    cursor.Reads (front ++ back) next where
  rest := by rw [first.rest, second.rest, List.append_assoc]
  line := by
    rw [second.line, first.line, List.getLast?_append]
    cases back.getLast? <;> rfl

theorem reads_advance {token : Token} (here : cursor.peek? = some token) :
    ∃ placed, placed.token = token ∧ cursor.Reads [placed] cursor.advance := by
  obtain ⟨placed, same, whole⟩ := rest_eq_cons here
  refine ⟨placed, same, whole, ?_⟩
  rw [advance, whole]
  rfl

theorem Reads.line_of_append {last : PlacedToken} (reads : cursor.Reads (segment ++ [last]) next) :
    next.nodeLine = last.position.line := by
  rw [reads.line, List.getLast?_concat]
  rfl

theorem line_of_rest {placed : PlacedToken} {rest : List PlacedToken}
    (whole : cursor.rest = placed :: rest) : cursor.line = placed.position.line := by
  rw [line, whole]
  rfl

end Cursor

namespace Fragment.Among

variable {fragments : List Fragment} {segment : List PlacedToken} {found : List Diagnostic}

theorem prepend (among : Among fragments segment found) (passed : List PlacedToken) :
    Among fragments (passed ++ segment) found := by
  cases among with
  | nil skipped => exact .nil _
  | target skipped named others =>
      rw [← List.append_assoc]
      exact .target _ named others
  | expression skipped spelled others =>
      rw [← List.append_assoc]
      exact .expression _ spelled others

theorem append (among : Among fragments segment found) (passed : List PlacedToken) :
    Among fragments (segment ++ passed) found := by
  induction among with
  | nil skipped => exact .nil _
  | target skipped named others induction =>
      rw [List.append_assoc, List.cons_append]
      exact .target _ named induction
  | expression skipped spelled others induction =>
      rw [List.append_assoc, List.append_assoc]
      exact .expression _ spelled induction

end Fragment.Among

namespace Expression

variable {cursor middle next : Cursor} {front segment : List PlacedToken}

theorem Spelled.ne_nil {value : Expression} {found : List Diagnostic}
    (spelled : value.Spelled segment found) : segment ≠ [] := by
  cases spelled <;> simp

/-- The tokens that have been read where a part of an expression begins. -/
def Part.Follows : Part → List PlacedToken → Prop
  | others _ left, front => left.Spelled front left.findings
  | expression, front | operands _, front | primary, front => front = []

theorem Chain.follows_operand (chain : Chain) : chain.operand.Follows [] := by
  cases chain <;> rfl

/-- An operation is recorded for the line of the last token of its right operand. -/
theorem Chain.spelled_join (chain : Chain) {left right : Expression} {sign : PlacedToken}
    {back : List PlacedToken} (first : left.Spelled front left.findings)
    (here : sign.token = chain.operator) (reads : middle.Reads back next)
    (second : right.Spelled back right.findings) :
    (chain.join left right next.nodeLine).Spelled (front ++ sign :: back)
      (chain.join left right next.nodeLine).findings := by
  obtain ⟨others, last, rfl⟩ := (List.eq_nil_or_concat' back).resolve_left second.ne_nil
  rw [reads.line_of_append]
  cases chain with
  | comparison => exact .equals first here second
  | sum => exact .add first here second

end Expression

/-- What has been read is spelled by the tokens between two places and those in front of them. -/
def Outcome.Spells (cursor : Cursor) (front : List PlacedToken) : Outcome Expression → Prop
  | parsed value next => ∃ segment, cursor.Reads segment next ∧
      value.Spelled (front ++ segment) value.findings
  | failed fragments _ next => ∃ segment, cursor.rest = segment ++ next.rest ∧
      Fragment.Among fragments (front ++ segment) (fragments.flatMap Fragment.findings)

/-- Tokens in front of a place may as well be read. -/
theorem Outcome.Spells.of_reads {cursor middle : Cursor} {front segment : List PlacedToken}
    {outcome : Outcome Expression} (spells : outcome.Spells middle (front ++ segment))
    (reads : cursor.Reads segment middle) : outcome.Spells cursor front := by
  cases outcome with
  | parsed value next =>
      obtain ⟨others, further, spelled⟩ := spells
      rw [List.append_assoc] at spelled
      exact ⟨segment ++ others, reads.trans further, spelled⟩
  | failed fragments error next =>
      obtain ⟨others, further, among⟩ := spells
      rw [List.append_assoc] at among
      refine ⟨segment ++ others, ?_, among⟩
      rw [reads.rest, further, List.append_assoc]

namespace Expression

theorem exists_reads_of_target? {cursor : Cursor} {symbol : Symbol}
    (target : target? cursor = some symbol) :
    ∃ name sign : PlacedToken, name.token = .identifier symbol.name ∧ sign.token = .assign ∧
      cursor.Reads [name, sign] cursor.advance.advance := by
  obtain ⟨text, others, named, shape⟩ := target?_eq_some_iff.1 target
  have second := cursor.advance.peek?_of_tokens (cursor.advance_of_tokens shape)
  obtain ⟨name, same, first⟩ := Cursor.reads_advance (cursor.peek?_of_tokens shape)
  obtain ⟨sign, assigns, further⟩ := Cursor.reads_advance second
  exact ⟨name, sign, by rw [same, named]; rfl, assigns, first.trans further⟩

/-- A part of an expression is spelled by the tokens that are read. -/
theorem ReadsTo.spells {part : Part} {cursor : Cursor} {outcome : Outcome Expression}
    (reads : ReadsTo part cursor outcome) {front : List PlacedToken}
    (follows : part.Follows front) : outcome.Spells cursor front := by
  induction reads generalizing front with
  | atom here mentions =>
      obtain rfl : front = [] := follows
      obtain ⟨placed, rfl, read⟩ := Cursor.reads_advance here
      exact ⟨_, read, .atom mentions⟩
  | parens opens inner closes induction =>
      obtain rfl : front = [] := follows
      obtain ⟨opening, first, read⟩ := Cursor.reads_advance opens
      obtain ⟨closing, last, ended⟩ := Cursor.reads_advance closes
      obtain ⟨segment, within, spelled⟩ := induction rfl
      exact ⟨_, read.trans (within.trans ended), .parens first spelled last⟩
  | parensOpen opens inner other induction =>
      obtain rfl : front = [] := follows
      obtain ⟨opening, first, read⟩ := Cursor.reads_advance opens
      obtain ⟨segment, within, spelled⟩ := induction rfl
      refine ⟨_, (read.trans within).rest, ?_⟩
      simpa [Fragment.findings] using Fragment.Among.expression [opening] spelled (.nil [])
  | parensFault opens inner induction =>
      obtain rfl : front = [] := follows
      obtain ⟨opening, first, read⟩ := Cursor.reads_advance opens
      obtain ⟨segment, within, among⟩ := induction rfl
      exact ⟨opening :: segment, by rw [read.rest, within]; rfl, among.prepend [opening]⟩
  | none other =>
      obtain rfl : front = [] := follows
      exact ⟨[], rfl, .nil []⟩
  | @last cursor chain left ended =>
      exact ⟨[], .refl cursor, (List.append_nil front).symm ▸ follows⟩
  | @more cursor next chain left right outcome here operand others first second =>
      obtain ⟨sign, same, read⟩ := Cursor.reads_advance here
      obtain ⟨segment, within, spelled⟩ := first chain.follows_operand
      exact (second (chain.spelled_join follows same within spelled)).of_reads (read.trans within)
  | @moreFault cursor next chain left fragments error here operand induction =>
      obtain ⟨sign, same, read⟩ := Cursor.reads_advance here
      obtain ⟨segment, within, among⟩ := induction chain.follows_operand
      refine ⟨sign :: segment, by rw [read.rest, within]; rfl, ?_⟩
      exact Fragment.Among.expression [] follows (among.prepend [sign])
  | @operands cursor next chain left outcome operand others first second =>
      obtain rfl : front = [] := follows
      obtain ⟨segment, read, spelled⟩ := first chain.follows_operand
      exact (second spelled).of_reads read
  | @operandsFault cursor next chain fragments error operand induction =>
      obtain rfl : front = [] := follows
      exact induction chain.follows_operand
  | assign target assigned induction =>
      obtain rfl : front = [] := follows
      obtain ⟨name, sign, named, assigns, read⟩ := exists_reads_of_target? target
      obtain ⟨segment, within, spelled⟩ := induction rfl
      exact ⟨_, read.trans within, .assign named assigns spelled⟩
  | assignFault target assigned induction =>
      obtain rfl : front = [] := follows
      obtain ⟨name, sign, named, assigns, read⟩ := exists_reads_of_target? target
      obtain ⟨segment, within, among⟩ := induction rfl
      refine ⟨name :: sign :: segment, by rw [read.rest, within]; rfl, ?_⟩
      exact Fragment.Among.target [] named (among.prepend [sign])
  | comparison other compared induction => exact induction follows

end Expression

/-! ## Statements -/

namespace Statement

variable {cursor middle next : Cursor} {statement : Statement} {events : List Event}

/-- A statement is spelled by the tokens between two places. -/
def SpelledBetween (statement : Statement) (cursor next : Cursor) : Prop :=
  ∃ segment, cursor.rest = segment ++ next.rest ∧ statement.Spelled segment statement.findings

/-- A statement that was given up is spelled by whatever has been read and skipped. -/
theorem spelledBetween_broken {fragments : List Fragment} {error : GrammarError} {line : Nat}
    {segment : List PlacedToken} (whole : cursor.rest = segment ++ middle.rest)
    (among : Fragment.Among fragments segment (fragments.flatMap Fragment.findings))
    (leads : middle.LeadsTo next) : (broken fragments error line).SpelledBetween cursor next := by
  obtain ⟨skipped, further⟩ := leads
  refine ⟨segment ++ skipped, ?_, .broken (among.append skipped)⟩
  rw [whole, ← further, List.append_assoc]

/-- A value and a semicolon behind it are read, or else the statement is given up. -/
theorem CompletesTo.cases_afterValue {wanted : Expectation} {make : Expression → Nat → Statement}
    {outcome : Outcome Expression} {front : List PlacedToken}
    (completes : CompletesTo (afterValue wanted make outcome) statement next events)
    (spells : outcome.Spells middle []) (reads : cursor.Reads front middle) :
    (∃ value segment semicolon line, cursor.rest = front ++ (segment ++ [semicolon]) ++ next.rest ∧
        value.Spelled segment value.findings ∧ semicolon.token = .semicolon ∧
        statement = make value line) ∨
      statement.SpelledBetween cursor next := by
  cases outcome with
  | parsed value last =>
      obtain ⟨segment, read, spelled⟩ := spells
      simp only [afterValue, Outcome.bind, readSemicolon] at completes
      split at completes
      next here =>
        obtain ⟨semicolon, ends, further⟩ := Cursor.reads_advance here
        cases completes
        refine .inl ⟨value, segment, semicolon, _, ?_, spelled, ends, rfl⟩
        rw [reads.rest, read.rest, further.rest]
        simp only [List.append_assoc]
      next =>
        cases completes with
        | failed fragments error recovers =>
            refine .inr (spelledBetween_broken (reads.trans read).rest ?_ recovers.goesOn.leadsTo)
            have among := Fragment.Among.expression front spelled (.nil [])
            rwa [List.append_nil] at among
  | failed fragments error last =>
      obtain ⟨segment, read, among⟩ := spells
      cases completes with
      | failed _ _ recovers =>
          refine .inr (spelledBetween_broken ?_ (among.prepend front) recovers.goesOn.leadsTo)
          rw [reads.rest, read, List.append_assoc]
          rfl

theorem spelledBetween_input {keyword : PlacedToken} (begins : keyword.token = .inputKeyword)
    (reads : cursor.Reads [keyword] middle)
    (completes : CompletesTo (readInput middle) statement next events) :
    statement.SpelledBetween cursor next := by
  simp only [readInput] at completes
  split at completes
  next name here =>
    obtain ⟨placed, named, read⟩ := Cursor.reads_advance here
    simp only [readSemicolon] at completes
    split at completes
    next there =>
      obtain ⟨semicolon, ends, further⟩ := Cursor.reads_advance there
      cases completes
      refine ⟨[keyword, placed, semicolon], ?_, .input begins named ends⟩
      rw [((reads.trans read).trans further).rest]
      rfl
    next =>
      cases completes with
      | failed fragments error recovers =>
          exact spelledBetween_broken (reads.trans read).rest (.target [keyword] named (.nil []))
            recovers.goesOn.leadsTo
  next =>
    cases completes with
    | failed fragments error recovers =>
        exact spelledBetween_broken reads.rest (.nil _) recovers.goesOn.leadsTo

/-- A condition is spelled between its parentheses. -/
theorem ConditionReadsTo.spelled {condition : Expression}
    (test : ConditionReadsTo cursor (.parsed condition next)) :
    ∃ opening segment closing, cursor.rest = opening :: (segment ++ closing :: next.rest) ∧
      opening.token = .leftParen ∧ condition.Spelled segment condition.findings ∧
      closing.token = .rightParen := by
  cases test with
  | parens opens inner closes =>
      obtain ⟨opening, first, read⟩ := Cursor.reads_advance opens
      obtain ⟨closing, last, ended⟩ := Cursor.reads_advance closes
      obtain ⟨segment, within, spelled⟩ := inner.spells rfl
      refine ⟨opening, segment, closing, ?_, first, spelled, last⟩
      rw [read.rest, within.rest, ended.rest]
      rfl

theorem ConditionReadsTo.among {fragments : List Fragment} {error : GrammarError}
    (test : ConditionReadsTo cursor (.failed fragments error next)) :
    ∃ segment, cursor.rest = segment ++ next.rest ∧
      Fragment.Among fragments segment (fragments.flatMap Fragment.findings) := by
  cases test with
  | none other => exact ⟨[], rfl, .nil []⟩
  | parensOpen opens inner other =>
      obtain ⟨opening, first, read⟩ := Cursor.reads_advance opens
      obtain ⟨segment, within, spelled⟩ := inner.spells rfl
      refine ⟨_, (read.trans within).rest, ?_⟩
      simpa [Fragment.findings] using Fragment.Among.expression [opening] spelled (.nil [])
  | parensFault opens inner =>
      obtain ⟨opening, first, read⟩ := Cursor.reads_advance opens
      obtain ⟨segment, within, among⟩ := inner.spells rfl
      exact ⟨opening :: segment, by rw [read.rest, within]; rfl, among.prepend [opening]⟩

mutual

/-- A statement is spelled by the tokens that are read. -/
theorem ReadsTo.spelledBetween {cursor next : Cursor} {statement : Statement} {events : List Event}
    (reads : ReadsTo cursor statement next events) : statement.SpelledBetween cursor next := by
  cases reads with
  | empty here =>
      obtain ⟨semicolon, ends, read⟩ := Cursor.reads_advance here
      exact ⟨_, read.rest, .empty ends⟩
  | print here value completes =>
      obtain ⟨keyword, begins, read⟩ := Cursor.reads_advance here
      rcases completes.cases_afterValue (value.spells rfl) read with
        ⟨value, segment, semicolon, line, whole, printed, ends, rfl⟩ | given
      · exact ⟨_, whole, .print begins printed ends⟩
      · exact given
  | input here completes =>
      obtain ⟨keyword, begins, read⟩ := Cursor.reads_advance here
      exact spelledBetween_input begins read completes
  | ifFault here test recovers =>
      obtain ⟨keyword, begins, read⟩ := Cursor.reads_advance here
      obtain ⟨segment, within, among⟩ := test.among
      refine spelledBetween_broken ?_ (among.prepend [keyword]) recovers.goesOn.leadsTo
      rw [read.rest, within]
      rfl
  | ifThen here test runs other =>
      obtain ⟨keyword, begins, whole⟩ := Cursor.rest_eq_cons here
      obtain ⟨opening, segment, closing, condition, opens, decided, closes⟩ := test.spelled
      obtain ⟨inner, within, spelled⟩ := runs.spelledBetween
      refine ⟨keyword :: opening :: (segment ++ closing :: inner), ?_, ?_⟩
      · rw [whole, condition, within]
        simp only [List.cons_append, List.append_assoc, Cursor.withNodeLine]
      · rw [Cursor.line_of_rest whole]
        exact .ifThen begins opens decided closes spelled
  | ifElse here test runs follows elses =>
      obtain ⟨keyword, begins, whole⟩ := Cursor.rest_eq_cons here
      obtain ⟨opening, segment, closing, condition, opens, decided, closes⟩ := test.spelled
      obtain ⟨inner, within, spelled⟩ := runs.spelledBetween
      obtain ⟨separator, separates, read⟩ := Cursor.rest_eq_cons follows
      obtain ⟨other, further, spelledOther⟩ := elses.spelledBetween
      refine ⟨keyword :: opening :: (segment ++ closing :: (inner ++ separator :: other)), ?_, ?_⟩
      · rw [whole, condition, within, read, further]
        simp only [List.cons_append, List.append_assoc, Cursor.withNodeLine]
      · rw [Cursor.line_of_rest whole]
        exact .ifElse begins opens decided closes spelled separates spelledOther
  | block here all closes =>
      obtain ⟨opening, opens, read⟩ := Cursor.rest_eq_cons here
      obtain ⟨segment, within, spelled⟩ := all.allSpelled
      obtain ⟨closing, last, ended⟩ := Cursor.rest_eq_cons closes
      refine ⟨opening :: (segment ++ [closing]), ?_, .block opens spelled last⟩
      rw [read, within, ended]
      simp
  | unclosed here all other recovers =>
      obtain ⟨opening, opens, read⟩ := Cursor.rest_eq_cons here
      obtain ⟨segment, within, spelled⟩ := all.allSpelled
      obtain ⟨skipped, further⟩ := recovers.goesOn.leadsTo
      refine ⟨opening :: (segment ++ skipped), ?_, .unclosed opens spelled⟩
      rw [read, within, ← further]
      simp
  | strayElse here recovers =>
      exact spelledBetween_broken (List.nil_append _).symm (.nil []) recovers.goesOn.leadsTo
  | evaluate other value completes =>
      rcases completes.cases_afterValue (value.spells rfl) (.refl cursor) with
        ⟨value, segment, semicolon, line, whole, evaluated, ends, rfl⟩ | given
      · exact ⟨_, whole, .evaluate evaluated ends⟩
      · exact given

theorem ReadManyTo.allSpelled {cursor next : Cursor} {statements : List Statement}
    {events : List Event} (all : ReadManyTo cursor statements next events) :
    ∃ segment, cursor.rest = segment ++ next.rest ∧
      AllSpelled statements segment (allFindings statements) := by
  cases all with
  | nil closes => exact ⟨[], rfl, .nil⟩
  | cons begins head tail =>
      obtain ⟨front, first, spelled⟩ := head.spelledBetween
      obtain ⟨back, others, spelledOthers⟩ := tail.allSpelled
      refine ⟨front ++ back, ?_, .cons spelled spelledOthers⟩
      rw [first, others, List.append_assoc]

end

end Statement

/-- The statements of a script are spelled by all tokens in front of its end. -/
theorem Script.ReadManyTo.allSpelled {cursor next : Cursor} {statements : List Statement}
    {events : List Event} (all : ReadManyTo cursor statements next events) :
    ∃ segment, cursor.rest = segment ++ next.rest ∧ next.atEnd = true ∧
      Statement.AllSpelled statements segment (Statement.allFindings statements) := by
  induction all with
  | nil ended => exact ⟨[], rfl, ended, .nil⟩
  | stray here tail induction =>
      obtain ⟨brace, -, read⟩ := Cursor.rest_eq_cons here
      obtain ⟨segment, others, ended, spelled⟩ := induction
      refine ⟨brace :: segment, ?_, ended, .cons (.broken (.nil [brace])) spelled⟩
      rw [read, others]
      rfl
  | cons begins head tail induction =>
      obtain ⟨front, first, spelled⟩ := head.spelledBetween
      obtain ⟨back, others, ended, spelledOthers⟩ := induction
      refine ⟨front ++ back, ?_, ended, .cons spelled spelledOthers⟩
      rw [first, others, List.append_assoc]

end StackScript
