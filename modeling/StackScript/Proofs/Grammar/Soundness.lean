import StackScript.Phrase.Parser
import StackScript.Proofs.Grammar

/-!
# What is read derives from the grammar

What is read from tokens without giving up a statement derives from the grammar, and a script is
read to its end.
-/

namespace StackScript

namespace Cursor

/-- The tokens that have not been read. -/
def tokens (cursor : Cursor) : List Token :=
  cursor.rest.map PlacedToken.token

variable {cursor : Cursor} {token : Token} {rest : List Token}

theorem length_tokens (cursor : Cursor) : cursor.tokens.length = cursor.rest.length :=
  List.length_map _

theorem peek?_eq (cursor : Cursor) : cursor.peek? = cursor.tokens.head? :=
  List.head?_map.symm

theorem peekSecond?_eq (cursor : Cursor) : cursor.peekSecond? = cursor.tokens[1]? :=
  List.getElem?_map.symm

theorem tokens_advance (cursor : Cursor) : cursor.advance.tokens = cursor.tokens.tail := by
  obtain ⟨placed, lastLine, nodeLine⟩ := cursor
  cases placed <;> rfl

theorem tokens_withNodeLine (cursor : Cursor) (line : Nat) :
    (cursor.withNodeLine line).tokens = cursor.tokens :=
  rfl

/-- The next token is the first of those that have not been read. -/
theorem tokens_eq_cons (next : cursor.peek? = some token) :
    cursor.tokens = token :: cursor.advance.tokens := by
  obtain ⟨others, shape⟩ := List.head?_eq_some_iff.1 (cursor.peek?_eq ▸ next)
  rw [tokens_advance, shape]
  rfl

theorem peek?_of_tokens (shape : cursor.tokens = token :: rest) : cursor.peek? = some token := by
  rw [peek?_eq, shape]
  rfl

theorem advance_of_tokens (shape : cursor.tokens = token :: rest) :
    cursor.advance.tokens = rest := by
  rw [tokens_advance, shape]
  rfl

end Cursor

namespace Outcome

variable {α β : Type} {outcome : Outcome α} {next : Cursor}

theorem bind_eq_parsed_iff {continuation : α → Cursor → Outcome β} {value : β} :
    outcome.bind continuation = .parsed value next ↔
      ∃ first middle, outcome = .parsed first middle ∧
        continuation first middle = .parsed value next := by
  cases outcome with
  | parsed first middle =>
      refine ⟨fun read => ⟨first, middle, rfl, read⟩, ?_⟩
      rintro ⟨first, middle, same, read⟩
      cases same
      exact read
  | failed fragments error last => simp [bind]

theorem after_eq_parsed_iff {fragment : Fragment} {value : α} :
    outcome.after fragment = .parsed value next ↔ outcome = .parsed value next := by
  cases outcome <;> simp [after]

end Outcome

namespace Expression

open Grammar (Level)

variable {level lower upper : Level} {inner operand : Cursor → Outcome Expression}

/-- What is read without a fault makes up an expression of a level. -/
def Sound (level : Level) (read : Cursor → Outcome Expression) : Prop :=
  ∀ cursor value next, read cursor = .parsed value next →
    ∃ tokens tree, cursor.tokens = tokens ++ next.tokens ∧
      Grammar.Expression.Derives level tokens tree

theorem sound_readPrimary (nested : Sound .expression inner) :
    Sound .primary (readPrimary inner) := by
  intro cursor value next read
  unfold readPrimary at read
  cases here : cursor.peek? with
  | none =>
      rw [here] at read
      cases read
  | some token =>
      rw [here] at read
      cases token with
      | identifier name =>
          cases read
          exact ⟨_, _, cursor.tokens_eq_cons here, .identifier name⟩
      | string text =>
          cases read
          exact ⟨_, _, cursor.tokens_eq_cons here, .string text⟩
      | integer number =>
          cases read
          exact ⟨_, _, cursor.tokens_eq_cons here, .integer number⟩
      | leftParen =>
          obtain ⟨first, middle, readInner, closing⟩ := Outcome.bind_eq_parsed_iff.1 read
          obtain ⟨tokens, tree, shape, derives⟩ := nested _ _ _ readInner
          split at closing
          next closed =>
            cases closing
            refine ⟨_, tree, ?_, .parens derives⟩
            rw [cursor.tokens_eq_cons here, shape, middle.tokens_eq_cons closed]
            simp
          next => cases closing
      | _ => cases read

variable {operator : Token} {join : Expression → Expression → Nat → Expression}
variable {joined : Grammar.Expression → Grammar.Expression → Grammar.Expression}

theorem sound_readChain (each : Sound lower operand)
    (more : ∀ {front back left right}, Grammar.Expression.Derives upper front left →
      Grammar.Expression.Derives lower back right →
        Grammar.Expression.Derives upper (front ++ operator :: back) (joined left right))
    {count : Nat} {left value : Expression} {cursor next : Cursor}
    (read : readChain operator join operand count left cursor = .parsed value next)
    {front : List Token} {tree : Grammar.Expression}
    (derives : Grammar.Expression.Derives upper front tree) :
    ∃ tokens tree, cursor.tokens = tokens ++ next.tokens ∧
      Grammar.Expression.Derives upper (front ++ tokens) tree := by
  induction count generalizing left cursor front tree with
  | zero =>
      cases read
      exact ⟨[], tree, rfl, by rwa [List.append_nil]⟩
  | succ count induction =>
      rw [readChain] at read
      split at read
      next here =>
        obtain ⟨right, middle, readRight, readOn⟩ := Outcome.bind_eq_parsed_iff.1 read
        obtain ⟨back, last, shape, found⟩ := each _ _ _ (Outcome.after_eq_parsed_iff.1 readRight)
        obtain ⟨tokens, whole, others, all⟩ := induction readOn (more derives found)
        refine ⟨operator :: (back ++ tokens), whole, ?_, ?_⟩
        · rw [cursor.tokens_eq_cons here, shape, others, List.cons_append, List.append_assoc]
        · rwa [List.append_assoc, List.cons_append] at all
      next =>
        cases read
        exact ⟨[], tree, rfl, by rwa [List.append_nil]⟩

theorem sound_readOperands (each : Sound lower operand)
    (single : ∀ {tokens tree}, Grammar.Expression.Derives lower tokens tree →
      Grammar.Expression.Derives upper tokens tree)
    (more : ∀ {front back left right}, Grammar.Expression.Derives upper front left →
      Grammar.Expression.Derives lower back right →
        Grammar.Expression.Derives upper (front ++ operator :: back) (joined left right)) :
    Sound upper (readOperands operator join operand) := by
  intro cursor value next read
  obtain ⟨left, middle, readLeft, readOn⟩ := Outcome.bind_eq_parsed_iff.1 read
  obtain ⟨front, tree, shape, derives⟩ := each _ _ _ readLeft
  obtain ⟨tokens, whole, others, all⟩ := sound_readChain each more readOn (single derives)
  exact ⟨front ++ tokens, whole, by rw [shape, others, List.append_assoc], all⟩

theorem sound_readComparison (nested : Sound .expression inner) :
    Sound .equality (readComparison inner) :=
  sound_readOperands (sound_readOperands (sound_readPrimary nested) .primary .add) .additive .equals

/-- The target of an assignment is a name in front of a single equals sign. -/
theorem target?_eq_some_iff {cursor : Cursor} {symbol : Symbol} :
    target? cursor = some symbol ↔ ∃ name others,
      symbol = .identifier name cursor.advance.advance.line ∧
        cursor.tokens = .identifier name :: .assign :: others := by
  unfold target?
  rw [cursor.peek?_eq, cursor.peekSecond?_eq]
  constructor
  · intro found
    split at found
    next name first second =>
      rw [Option.some.injEq] at found
      obtain ⟨others, shape⟩ := List.head?_eq_some_iff.1 first
      rw [shape, List.getElem?_cons_succ, ← List.head?_eq_getElem?] at second
      obtain ⟨others, rfl⟩ := List.head?_eq_some_iff.1 second
      exact ⟨name, others, found.symm, shape⟩
    next => cases found
  · rintro ⟨name, others, rfl, shape⟩
    rw [shape]
    rfl

theorem sound_readNested (depth : Nat) : Sound .expression (readNested depth) := by
  induction depth with
  | zero =>
      intro cursor value next read
      cases read
  | succ depth induction =>
      intro cursor value next read
      rw [readNested] at read
      split at read
      next symbol found =>
        obtain ⟨name, others, -, shape⟩ := target?_eq_some_iff.1 found
        have second := cursor.advance_of_tokens shape
        have behind := cursor.advance.advance_of_tokens second
        obtain ⟨assigned, middle, readValue, whole⟩ := Outcome.bind_eq_parsed_iff.1 read
        obtain ⟨tokens, tree, rest, derives⟩ :=
          induction _ _ _ (Outcome.after_eq_parsed_iff.1 readValue)
        cases whole
        exact ⟨_, _, by rw [shape, ← behind, rest]; rfl, .assign name derives⟩
      next =>
        obtain ⟨tokens, tree, shape, derives⟩ := sound_readComparison induction _ _ _ read
        exact ⟨tokens, tree, shape, .equality derives⟩

theorem sound_read : Sound .expression read :=
  fun cursor => sound_readNested _ cursor

end Expression

mutual

/-- No part of a statement was given up. -/
def Statement.isWhole : Statement → Bool
  | .broken _ _ _ | .unclosed _ _ _ => false
  | .ifThen _ body _ => body.isWhole
  | .ifElse _ body otherwise _ => body.isWhole && otherwise.isWhole
  | .block statements _ => Statement.areWhole statements
  | _ => true

/-- No part of some statements was given up. -/
def Statement.areWhole : List Statement → Bool
  | [] => true
  | first :: rest => first.isWhole && Statement.areWhole rest

end

namespace Statement

variable {inner : Cursor → Statement × Cursor}

/-- What is read and left whole makes up a statement. -/
def Sound (read : Cursor → Statement × Cursor) : Prop :=
  ∀ cursor statement next, read cursor = (statement, next) → statement.isWhole = true →
    ∃ tokens tree, cursor.tokens = tokens ++ next.tokens ∧ Grammar.Statement.Derives tokens tree

theorem not_isWhole_giveUp {fragments : List Fragment} {error : GrammarError} {cursor next : Cursor}
    {statement : Statement} (read : giveUp fragments error cursor = (statement, next)) :
    statement.isWhole = false := by
  cases read
  rfl

theorem complete_eq {outcome : Outcome Statement} {statement : Statement} {next : Cursor}
    (read : complete outcome = (statement, next)) (whole : statement.isWhole = true) :
    outcome = .parsed statement next := by
  cases outcome with
  | parsed found last =>
      cases read
      rfl
  | failed fragments error last =>
      rw [not_isWhole_giveUp read] at whole
      cases whole

theorem readSemicolon_eq {wanted : Expectation} {fragment : Fragment} {make : Nat → Statement}
    {cursor next : Cursor} {statement : Statement}
    (read : readSemicolon wanted fragment make cursor = .parsed statement next) :
    cursor.tokens = .semicolon :: next.tokens := by
  unfold readSemicolon at read
  split at read
  next here =>
    cases read
    exact cursor.tokens_eq_cons here
  next => cases read

theorem readValue_eq {wanted : Expectation} {make : Expression → Nat → Statement}
    {cursor next : Cursor} {statement : Statement}
    (read : readValue wanted make cursor = .parsed statement next) :
    ∃ tokens tree, cursor.tokens = tokens ++ .semicolon :: next.tokens ∧
      Grammar.Expression.Derives .expression tokens tree := by
  obtain ⟨value, middle, readFirst, closing⟩ := Outcome.bind_eq_parsed_iff.1 read
  obtain ⟨tokens, tree, shape, derives⟩ := Expression.sound_read _ _ _ readFirst
  exact ⟨tokens, tree, by rw [shape, readSemicolon_eq closing], derives⟩

theorem readInput_eq {cursor next : Cursor} {statement : Statement}
    (read : readInput cursor = .parsed statement next) :
    ∃ name, cursor.tokens = .identifier name :: .semicolon :: next.tokens := by
  unfold readInput at read
  split at read
  next name here => exact ⟨name, by rw [cursor.tokens_eq_cons here, readSemicolon_eq read]⟩
  next => cases read

theorem readCondition_eq {cursor next : Cursor} {condition : Expression}
    (read : readCondition cursor = .parsed condition next) :
    ∃ tokens tree, cursor.tokens = .leftParen :: (tokens ++ .rightParen :: next.tokens) ∧
      Grammar.Expression.Derives .expression tokens tree := by
  unfold readCondition at read
  split at read
  next here =>
    obtain ⟨value, middle, readFirst, closing⟩ := Outcome.bind_eq_parsed_iff.1 read
    obtain ⟨tokens, tree, shape, derives⟩ := Expression.sound_read _ _ _ readFirst
    split at closing
    next closed =>
      cases closing
      refine ⟨tokens, tree, ?_, derives⟩
      rw [cursor.tokens_eq_cons here, shape, middle.tokens_eq_cons closed]
    next => cases closing
  next => cases read

theorem sound_readMany (each : Sound inner) {count : Nat} {cursor next : Cursor}
    {statements : List Statement} (read : readMany inner count cursor = (statements, next))
    (whole : areWhole statements = true) :
    ∃ tokens trees, cursor.tokens = tokens ++ next.tokens ∧
      Grammar.Statement.DeriveAll tokens trees := by
  induction count generalizing cursor statements with
  | zero =>
      cases read
      exact ⟨[], [], rfl, .nil⟩
  | succ count induction =>
      rw [readMany] at read
      split at read
      · cases read
        exact ⟨[], [], rfl, .nil⟩
      · cases read
        rw [areWhole, Bool.and_eq_true] at whole
        obtain ⟨front, first, shape, derives⟩ := each _ _ _ rfl whole.1
        obtain ⟨back, rest, others, all⟩ := induction rfl whole.2
        exact ⟨front ++ back, first :: rest, by rw [shape, others, List.append_assoc],
          .cons derives all⟩

theorem sound_readNested (depth : Nat) : Sound (readNested depth) := by
  induction depth with
  | zero =>
      intro cursor statement next read whole
      rw [not_isWhole_giveUp read] at whole
      cases whole
  | succ depth induction =>
      intro cursor statement next read whole
      simp only [readNested] at read
      split at read
      next here =>
        cases read
        exact ⟨_, _, cursor.tokens_eq_cons here, .empty⟩
      next here =>
        obtain ⟨tokens, tree, shape, derives⟩ := readValue_eq (complete_eq read whole)
        exact ⟨_, _, by rw [cursor.tokens_eq_cons here, shape]; simp, .print derives⟩
      next here =>
        obtain ⟨name, shape⟩ := readInput_eq (complete_eq read whole)
        exact ⟨_, _, by rw [cursor.tokens_eq_cons here, shape]; rfl, .input name⟩
      next here =>
        split at read
        next condition middle decided =>
          obtain ⟨front, test, shape, decides⟩ := readCondition_eq decided
          simp only [readBranches] at read
          split at read
          next otherwise' =>
            cases read
            rw [isWhole, Bool.and_eq_true] at whole
            obtain ⟨tokens, body, runs, derives⟩ := induction _ _ _ rfl whole.1
            obtain ⟨back, last, others, derives'⟩ := induction _ _ _ rfl whole.2
            refine ⟨_, _, ?_, .ifElse decides derives derives'⟩
            rw [cursor.tokens_eq_cons here, shape, runs, Cursor.tokens_eq_cons otherwise', others,
              Cursor.tokens_withNodeLine]
            simp
          next =>
            cases read
            obtain ⟨tokens, body, runs, derives⟩ := induction _ _ _ rfl whole
            refine ⟨_, _, ?_, .ifThen decides derives⟩
            rw [cursor.tokens_eq_cons here, shape, runs, Cursor.tokens_withNodeLine]
            simp
        next =>
          rw [not_isWhole_giveUp read] at whole
          cases whole
      next here =>
        simp only [readBlock] at read
        split at read
        next closed =>
          cases read
          obtain ⟨tokens, trees, shape, derive⟩ := sound_readMany induction rfl whole
          refine ⟨_, _, ?_, .block derive⟩
          rw [cursor.tokens_eq_cons here, shape, Cursor.tokens_eq_cons closed]
          simp
        next =>
          cases read
          cases whole
      next =>
        rw [not_isWhole_giveUp read] at whole
        cases whole
      next =>
        obtain ⟨tokens, tree, shape, derives⟩ := readValue_eq (complete_eq read whole)
        exact ⟨_, _, by rw [shape]; simp, .evaluate derives⟩

end Statement

theorem Script.sound_readStatement : Statement.Sound readStatement := by
  intro cursor statement next read whole
  rw [readStatement] at read
  split at read
  · cases read
    cases whole
  · exact Statement.sound_readNested _ _ _ _ read whole

/-- A whole script is read to its end. -/
theorem Script.sound_readMany {count : Nat} {cursor next : Cursor} {statements : List Statement}
    (read : readMany count cursor = (statements, next)) (enough : cursor.rest.length ≤ count)
    (whole : Statement.areWhole statements = true) :
    ∃ tokens trees, cursor.tokens = tokens ++ next.tokens ∧
      Grammar.Statement.DeriveAll tokens trees ∧ next.atEnd = true := by
  induction count generalizing cursor statements with
  | zero =>
      have nothing : cursor.peek? = none := by
        rw [Cursor.peek?, List.eq_nil_of_length_eq_zero (Nat.le_zero.1 enough)]
        rfl
      cases read
      exact ⟨[], [], rfl, .nil, by rw [Cursor.atEnd, nothing]⟩
  | succ count induction =>
      rw [readMany] at read
      split at read
      next ended =>
        cases read
        exact ⟨[], [], rfl, .nil, ended⟩
      next =>
        rcases readFirst : readStatement cursor with ⟨first, middle⟩
        rcases readRest : readMany count middle with ⟨rest, last⟩
        simp only [readFirst, readRest] at read
        cases read
        rw [Statement.areWhole, Bool.and_eq_true] at whole
        obtain ⟨front, tree, shape, derives⟩ := sound_readStatement _ _ _ readFirst whole.1
        have fewer : middle.rest.length ≤ count := by
          have lengths := congrArg List.length shape
          have positive := derives.length_pos
          rw [List.length_append, Cursor.length_tokens, Cursor.length_tokens] at lengths
          omega
        obtain ⟨back, trees, others, all, ended⟩ := induction readRest fewer whole.2
        exact ⟨front ++ back, tree :: trees, by rw [shape, others, List.append_assoc],
          .cons derives all, ended⟩

end StackScript
