import StackScript.Compilation
import StackScript.Proofs.Grammar.Drafting
import StackScript.Proofs.Phrase.Spelling

/-!
# The lines of checks

Whatever tokens there are, the diagnostics of the script are those of the statements that its tokens
spell, up to the end of the script. So a condition that is no boolean is reported for the line of
its `if`, and an operation whose operands do not fit for the line of the last token of its right
operand, which a closing parenthesis may be.
-/

namespace StackScript

open Diagnostic

/-! ## What a diagnostic is about -/

namespace Diagnostic

/-- The diagnostic of a check is about the tokens that have been checked: an `if` and its condition,
or an operator and its operands. -/
inductive About : Diagnostic → List PlacedToken → Prop
  | condition {keyword opening closing : PlacedToken} {condition : Expression}
      {segment : List PlacedToken} {found : List Diagnostic} (begins : keyword.token = .ifKeyword)
      (opens : opening.token = .leftParen) (decided : condition.Spelled segment found)
      (closes : closing.token = .rightParen) (other : condition.type ≠ .bool) :
      About ⟨keyword.position.line, .conditionNotBoolean condition.type⟩
        (keyword :: opening :: (segment ++ [closing]))
  | comparison {sign last : PlacedToken} {left right : Expression} {front back : List PlacedToken}
      {found found' : List Diagnostic} (first : left.Spelled front found)
      (compares : sign.token = .equal) (second : right.Spelled (back ++ [last]) found')
      (differ : left.type ≠ right.type) :
      About ⟨last.position.line, .typesDiffer left.type right.type⟩
        (front ++ sign :: (back ++ [last]))
  | sum {sign last : PlacedToken} {left right : Expression} {front back : List PlacedToken}
      {found found' : List Diagnostic} {problem : Problem} (first : left.Spelled front found)
      (adds : sign.token = .plus) (second : right.Spelled (back ++ [last]) found')
      (refused : Coercion.forAddend left.type right.type = .error problem) :
      About ⟨last.position.line, problem⟩ (front ++ sign :: (back ++ [last]))

/-- Somewhere among tokens there are those that a diagnostic is about. -/
def Within (diagnostic : Diagnostic) (tokens : List PlacedToken) : Prop :=
  ∃ segment, segment <:+: tokens ∧ diagnostic.About segment

variable {diagnostic : Diagnostic} {segment tokens : List PlacedToken}

theorem Within.mono (within : diagnostic.Within segment) (part : segment <:+: tokens) :
    diagnostic.Within tokens := by
  obtain ⟨inner, here, about⟩ := within
  exact ⟨inner, here.trans part, about⟩

end Diagnostic

/-! ## Phrases -/

variable {segment : List PlacedToken} {found : List Diagnostic} {diagnostic : Diagnostic}

/-- A diagnostic of two operands or of both together is found among their tokens. -/
theorem Diagnostic.within_of_operands {sign last : PlacedToken} {front back : List PlacedToken}
    {found' own : List Diagnostic} (member : diagnostic ∈ found ++ found' ++ own)
    (first : diagnostic ∈ found → diagnostic.Within front)
    (second : diagnostic ∈ found' → diagnostic.Within (back ++ [last]))
    (both : diagnostic ∈ own → diagnostic.About (front ++ sign :: (back ++ [last]))) :
    diagnostic.Within (front ++ sign :: (back ++ [last])) := by
  rw [List.mem_append, List.mem_append] at member
  rcases member with (inFront | inBack) | inBoth
  · exact (first inFront).mono (List.prefix_append _ _).isInfix
  · exact (second inBack).mono ⟨front ++ [sign], [], by simp⟩
  · exact ⟨_, List.infix_refl _, both inBoth⟩

/-- Each diagnostic of an expression is about some of its tokens. -/
theorem Expression.Spelled.within {value : Expression} (spelled : value.Spelled segment found)
    (member : diagnostic ∈ found) : diagnostic.Within segment := by
  induction spelled with
  | atom mentions => cases member
  | @parens opening closing value segment found opens inner closes induction =>
      exact (induction member).mono ⟨[opening], [closing], rfl⟩
  | @assign name sign target value line segment found named assigns assigned induction =>
      exact (induction member).mono ⟨[name, sign], [], by simp⟩
  | @equals sign last left right line front back found found' first compares second inductionFirst
      inductionSecond =>
      refine Diagnostic.within_of_operands member inductionFirst inductionSecond fun own => ?_
      rw [ofComparison] at own
      split at own
      · cases own
      next differ =>
        obtain rfl := List.mem_singleton.1 own
        exact .comparison first compares second differ
  | @add sign last left right line front back found found' first adds second inductionFirst
      inductionSecond =>
      refine Diagnostic.within_of_operands member inductionFirst inductionSecond fun own => ?_
      rw [ofSum] at own
      split at own
      · cases own
      next problem refused =>
        obtain rfl := List.mem_singleton.1 own
        exact .sum first adds second refused

theorem Fragment.Among.within {fragments : List Fragment} (among : Among fragments segment found)
    (member : diagnostic ∈ found) : diagnostic.Within segment := by
  induction among with
  | nil skipped => cases member
  | @target name symbol fragments segment found skipped named others induction =>
      exact (induction member).mono ⟨skipped ++ [name], [], by simp⟩
  | @expression value fragments own segment found found' skipped spelled others induction =>
      rcases List.mem_append.1 member with inFront | inBack
      · exact (spelled.within inFront).mono ⟨skipped, segment, by simp⟩
      · exact (induction inBack).mono ⟨skipped ++ own, [], by simp⟩

namespace Statement

/-- The check of a condition is about the `if` and the condition. -/
theorem within_of_ofCondition {keyword opening closing : PlacedToken} {condition : Expression}
    (begins : keyword.token = .ifKeyword) (opens : opening.token = .leftParen)
    (decided : condition.Spelled segment found) (closes : closing.token = .rightParen)
    (member : diagnostic ∈ ofCondition keyword.position.line condition.type) :
    diagnostic.Within (keyword :: opening :: (segment ++ [closing])) := by
  rw [ofCondition] at member
  split at member
  · cases member
  next other =>
    obtain rfl := List.mem_singleton.1 member
    exact ⟨_, List.infix_refl _, .condition begins opens decided closes other⟩

mutual

/-- Each diagnostic of a statement is about some of its tokens, or else the fault of a statement
that was given up. -/
theorem Spelled.within {statement : Statement} {segment : List PlacedToken}
    {found : List Diagnostic} (spelled : statement.Spelled segment found)
    (check : diagnostic.problem.isMalformed = false) (member : diagnostic ∈ found) :
    diagnostic.Within segment := by
  cases spelled with
  | empty ends | input begins named ends => cases member
  | evaluate evaluated ends =>
      exact (evaluated.within member).mono (List.prefix_append _ _).isInfix
  | @print keyword semicolon value line segment found begins printed ends =>
      exact (printed.within member).mono ⟨[keyword], [semicolon], rfl⟩
  | @ifThen keyword opening closing condition body line segment inner found found' begins opens
      decided closes runs =>
      rw [List.mem_append, List.mem_append] at member
      rcases member with (inCondition | inBody) | own
      · exact (decided.within inCondition).mono ⟨[keyword, opening], closing :: inner, by simp⟩
      · exact (runs.within check inBody).mono
          ⟨keyword :: opening :: (segment ++ [closing]), [], by simp⟩
      · exact (within_of_ofCondition begins opens decided closes own).mono ⟨[], inner, by simp⟩
  | @ifElse keyword opening closing separator condition body otherwise line segment inner other
      found found' found'' begins opens decided closes runs separates elses =>
      rw [List.mem_append, List.mem_append, List.mem_append] at member
      rcases member with ((inCondition | inBody) | inOther) | own
      · exact (decided.within inCondition).mono
          ⟨[keyword, opening], closing :: (inner ++ separator :: other), by simp⟩
      · exact (runs.within check inBody).mono
          ⟨keyword :: opening :: (segment ++ [closing]), separator :: other, by simp⟩
      · exact (elses.within check inOther).mono
          ⟨keyword :: opening :: (segment ++ closing :: (inner ++ [separator])), [], by simp⟩
      · exact (within_of_ofCondition begins opens decided closes own).mono
          ⟨[], inner ++ separator :: other, by simp⟩
  | @block opening closing statements line segment found opens all closes =>
      exact (all.within check member).mono ⟨[opening], [closing], rfl⟩
  | broken left =>
      rcases List.mem_append.1 member with inner | own
      · exact left.within inner
      · obtain rfl := List.mem_singleton.1 own
        cases check
  | @unclosed opening statements error line segment skipped found opens all =>
      rcases List.mem_append.1 member with inner | own
      · exact (all.within check inner).mono ⟨[opening], skipped, rfl⟩
      · obtain rfl := List.mem_singleton.1 own
        cases check

theorem AllSpelled.within {statements : List Statement} {segment : List PlacedToken}
    {found : List Diagnostic} (spelled : AllSpelled statements segment found)
    (check : diagnostic.problem.isMalformed = false) (member : diagnostic ∈ found) :
    diagnostic.Within segment := by
  cases spelled with
  | nil => cases member
  | cons head tail =>
      rcases List.mem_append.1 member with inFront | inBack
      · exact (head.within check inFront).mono (List.prefix_append _ _).isInfix
      · exact (tail.within check inBack).mono (List.suffix_append _ _).isInfix

end

end Statement

/-- At the end of a script there are no more tokens, or one that says so. -/
theorem Cursor.token_of_atEnd {cursor : Cursor} (ended : cursor.atEnd = true) {placed : PlacedToken}
    (first : cursor.rest.head? = some placed) : placed.token = .endOfFile := by
  rw [atEnd, peek?, first] at ended
  cases token : placed.token <;> simp [token] at ended ⊢

namespace Compilation

/-- The diagnostics of tokens are those of the statements that they spell in front of their end, and
each one that is no fault of the grammar is about an `if` and its condition, on whose line it is, or
about an operator and its operands, on the line of whose last token it is. -/
theorem checks_on_lines (tokens : List PlacedToken) :
    (∃ read rest, tokens = read ++ rest ∧ (∀ first ∈ rest.head?, first.token = .endOfFile) ∧
        Statement.AllSpelled (Script.ofTokens tokens).statements read
          (ofTokens tokens).draft.diagnostics.toList) ∧
      ∀ diagnostic ∈ (ofTokens tokens).draft.diagnostics.toList,
        diagnostic.problem.isMalformed = false →
          ∃ segment, segment <:+: tokens ∧ diagnostic.About segment := by
  obtain ⟨statements, last, events, all⟩ := Script.exists_readManyTo (.start tokens)
  obtain ⟨read, whole, ended, spelled⟩ := all.allSpelled
  have diagnostics : (ofTokens tokens).draft.diagnostics.toList =
      Statement.allFindings statements := by
    rw [ofTokens, all.ofTokens_eq]
    exact Script.diagnostics_draft _
  rw [diagnostics, all.ofTokens_eq]
  refine ⟨⟨read, last.rest, whole, fun first member => ?_, spelled⟩,
    fun diagnostic member check => ?_⟩
  · exact Cursor.token_of_atEnd ended member
  · exact (spelled.within check member).mono ⟨[], last.rest, whole.symm⟩

/-- A condition, a body with a fault of the grammar and a comparison, spread over several lines. -/
def spreadChecks : List PlacedToken :=
  [⟨.ifKeyword, ⟨1, 1⟩⟩, ⟨.leftParen, ⟨1, 4⟩⟩, ⟨.identifier "x", ⟨2, 1⟩⟩, ⟨.rightParen, ⟨2, 2⟩⟩,
    ⟨.leftBrace, ⟨3, 1⟩⟩, ⟨.printKeyword, ⟨3, 3⟩⟩, ⟨.rightBrace, ⟨4, 1⟩⟩, ⟨.identifier "x", ⟨5, 1⟩⟩,
    ⟨.equal, ⟨5, 3⟩⟩, ⟨.leftParen, ⟨6, 1⟩⟩, ⟨.integer 1, ⟨6, 2⟩⟩, ⟨.rightParen, ⟨7, 1⟩⟩,
    ⟨.semicolon, ⟨8, 1⟩⟩, ⟨.endOfFile, ⟨9, 1⟩⟩]

theorem checks_on_lines_spreadChecks :
    (ofTokens spreadChecks).draft.diagnostics.toList =
        [⟨4, .malformed "expected an expression, found '\x7d'"⟩,
          ⟨1, .conditionNotBoolean .string⟩, ⟨7, .typesDiffer .string .integer⟩] ∧
      (∃ segment, segment <:+: spreadChecks ∧
        Diagnostic.About ⟨1, .conditionNotBoolean .string⟩ segment) ∧
      ∃ segment, segment <:+: spreadChecks ∧
        Diagnostic.About ⟨7, .typesDiffer .string .integer⟩ segment := by
  obtain ⟨-, about⟩ := checks_on_lines spreadChecks
  refine ⟨by decide +kernel, about _ ?_ rfl, about _ ?_ rfl⟩ <;> decide +kernel

end Compilation

end StackScript
