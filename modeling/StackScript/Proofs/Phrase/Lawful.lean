import StackScript.Phrase.Parser
import StackScript.Proofs.Token.Names

/-!
# What phrases mention

Phrases that are read from tokens mention lawful symbols only, and only variables are assigned to or
read to. Nothing is asked of statements that were given up.
-/

namespace StackScript

namespace Expression

/-- An expression mentions lawful symbols, and variables where it stores. -/
def Lawful : Expression → Prop
  | atom symbol _ => symbol.Lawful
  | assign target value _ => (target.Lawful ∧ target.content = .identifier) ∧ value.Lawful
  | equals left right _ | add left right _ => left.Lawful ∧ right.Lawful

end Expression

/-- A statement mentions lawful symbols, and variables where it stores, unless it was given up. -/
inductive Statement.Lawful : Statement → Prop
  | empty (line : Nat) : Lawful (.empty line)
  | evaluate {value : Expression} (line : Nat) (evaluated : value.Lawful) :
      Lawful (.evaluate value line)
  | print {value : Expression} (line : Nat) (printed : value.Lawful) : Lawful (.print value line)
  | input {target : Symbol} (line : Nat) (named : target.Lawful)
      (variable' : target.content = .identifier) : Lawful (.input target line)
  | ifThen {condition : Expression} {body : Statement} (line : Nat) (decided : condition.Lawful)
      (runs : Lawful body) : Lawful (.ifThen condition body line)
  | ifElse {condition : Expression} {body otherwise : Statement} (line : Nat)
      (decided : condition.Lawful) (runs : Lawful body) (elses : Lawful otherwise) :
      Lawful (.ifElse condition body otherwise line)
  | block {statements : List Statement} (line : Nat)
      (all : ∀ statement ∈ statements, Lawful statement) : Lawful (.block statements line)
  | broken (fragments : List Fragment) (error : GrammarError) (line : Nat) :
      Lawful (.broken fragments error line)
  | unclosed (statements : List Statement) (error : GrammarError) (line : Nat) :
      Lawful (.unclosed statements error line)

/-- The tokens that have not been read mention lawful symbols. -/
def Cursor.Lawful (cursor : Cursor) : Prop :=
  ∀ placed ∈ cursor.rest, ∀ line symbol,
    placed.token.mention? line = some symbol → symbol.Lawful

namespace Cursor.Lawful

variable {cursor : Cursor}

theorem advance (lawful : cursor.Lawful) : cursor.advance.Lawful := by
  obtain ⟨rest, lastLine, nodeLine⟩ := cursor
  cases rest with
  | nil => exact lawful
  | cons placed rest => exact fun other member => lawful other (List.mem_cons_of_mem _ member)

theorem symbol (lawful : cursor.Lawful) {token : Token} (next : cursor.peek? = some token)
    {line : Nat} {symbol : Symbol} (mentions : token.mention? line = some symbol) :
    symbol.Lawful := by
  obtain ⟨placed, first, rfl⟩ := Option.map_eq_some_iff.1 next
  exact lawful placed (List.mem_of_head? first) line symbol mentions

theorem recoverFrom {rest : List PlacedToken} (lastLine nodeLine : Nat)
    (lawful : Cursor.Lawful ⟨rest, lastLine, nodeLine⟩) :
    (Cursor.recoverFrom lastLine nodeLine rest).Lawful := by
  induction rest generalizing lastLine nodeLine with
  | nil => exact lawful
  | cons placed rest induction =>
      have others : ∀ line, Cursor.Lawful ⟨rest, line, line⟩ :=
        fun _ other member => lawful other (List.mem_cons_of_mem _ member)
      simp only [Cursor.recoverFrom]
      split
      · exact lawful
      · exact lawful
      · exact others _
      · exact induction _ _ (others _)

theorem recover (lawful : cursor.Lawful) : cursor.recover.Lawful :=
  recoverFrom _ _ lawful

end Cursor.Lawful

/-- What is read is good and what is left to be read is lawful. -/
def Outcome.Lawful {α : Type} (good : α → Prop) : Outcome α → Prop
  | parsed value next => good value ∧ next.Lawful
  | failed _ _ next => next.Lawful

namespace Outcome

variable {α β : Type} {good : α → Prop} {better : β → Prop} {outcome : Outcome α}

theorem lawful_bind {continuation : α → Cursor → Outcome β} (first : outcome.Lawful good)
    (second : ∀ value next, good value → next.Lawful → (continuation value next).Lawful better) :
    (outcome.bind continuation).Lawful better := by
  cases outcome with
  | parsed value next => exact second value next first.1 first.2
  | failed fragments error next => exact first

theorem lawful_after {fragment : Fragment} (lawful : outcome.Lawful good) :
    (outcome.after fragment).Lawful good := by
  cases outcome with
  | parsed value next => exact lawful
  | failed fragments error next => exact lawful

end Outcome

namespace Expression

variable {inner operand : Cursor → Outcome Expression} {cursor : Cursor}
variable {join : Expression → Expression → Nat → Expression}

theorem lawful_readPrimary
    (nested : ∀ cursor : Cursor, cursor.Lawful → (inner cursor).Lawful Expression.Lawful)
    (lawful : cursor.Lawful) : (readPrimary inner cursor).Lawful Expression.Lawful := by
  have mentioned {token : Token} {symbol : Symbol} (next : cursor.peek? = some token) {line : Nat}
      (mentions : token.mention? line = some symbol) : symbol.Lawful :=
    lawful.symbol next mentions
  unfold readPrimary
  cases next : cursor.peek? with
  | none => exact lawful
  | some token =>
      cases token with
      | identifier name => exact ⟨mentioned next rfl, lawful.advance⟩
      | string text => exact ⟨mentioned next rfl, lawful.advance⟩
      | integer value => exact ⟨mentioned next rfl, lawful.advance⟩
      | leftParen =>
          refine Outcome.lawful_bind (nested _ lawful.advance) fun value next good rest => ?_
          split
          · exact ⟨good, rest.advance⟩
          · exact rest
      | _ => exact lawful

theorem lawful_readChain {operator : Token}
    (joined : ∀ {left right : Expression} line, left.Lawful → right.Lawful →
      (join left right line).Lawful)
    (nested : ∀ cursor : Cursor, cursor.Lawful → (operand cursor).Lawful Expression.Lawful)
    (count : Nat) {left : Expression} (good : left.Lawful) (lawful : cursor.Lawful) :
    (readChain operator join operand count left cursor).Lawful Expression.Lawful := by
  induction count generalizing left cursor with
  | zero => exact ⟨good, lawful⟩
  | succ count induction =>
      rw [readChain]
      split
      · refine Outcome.lawful_bind (Outcome.lawful_after (nested _ lawful.advance)) ?_
        exact fun right next goodRight rest => induction (joined _ good goodRight) rest
      · exact ⟨good, lawful⟩

theorem lawful_readOperands {operator : Token}
    (joined : ∀ {left right : Expression} line, left.Lawful → right.Lawful →
      (join left right line).Lawful)
    (nested : ∀ cursor : Cursor, cursor.Lawful → (operand cursor).Lawful Expression.Lawful)
    (lawful : cursor.Lawful) :
    (readOperands operator join operand cursor).Lawful Expression.Lawful :=
  Outcome.lawful_bind (nested cursor lawful) fun _ _ good rest =>
    lawful_readChain joined nested _ good rest

theorem lawful_readComparison
    (nested : ∀ cursor : Cursor, cursor.Lawful → (inner cursor).Lawful Expression.Lawful)
    (lawful : cursor.Lawful) : (readComparison inner cursor).Lawful Expression.Lawful :=
  lawful_readOperands (fun _ left right => ⟨left, right⟩)
    (fun _ lawful => lawful_readOperands (fun _ left right => ⟨left, right⟩)
      (fun _ lawful => lawful_readPrimary nested lawful) lawful)
    lawful

/-- The target of an assignment is a variable. -/
theorem lawful_target? (lawful : cursor.Lawful) {symbol : Symbol}
    (found : target? cursor = some symbol) : symbol.Lawful ∧ symbol.content = .identifier := by
  unfold target? at found
  split at found
  next name next _ =>
    cases found
    exact ⟨lawful.symbol next rfl, rfl⟩
  next => contradiction

theorem lawful_readNested (depth : Nat) (lawful : cursor.Lawful) :
    (readNested depth cursor).Lawful Expression.Lawful := by
  induction depth generalizing cursor with
  | zero => exact lawful
  | succ depth induction =>
      rw [readNested]
      split
      next symbol found =>
        refine Outcome.lawful_bind
          (Outcome.lawful_after (induction lawful.advance.advance)) fun value next good rest => ?_
        exact ⟨⟨lawful_target? lawful found, good⟩, rest⟩
      next => exact lawful_readComparison (fun _ => induction) lawful

theorem lawful_read (lawful : cursor.Lawful) : (read cursor).Lawful Expression.Lawful :=
  lawful_readNested _ lawful

end Expression

namespace Statement

variable {inner : Cursor → Statement × Cursor} {cursor : Cursor}

theorem lawful_giveUp (fragments : List Fragment) (error : GrammarError) (lawful : cursor.Lawful) :
    (giveUp fragments error cursor).1.Lawful ∧ (giveUp fragments error cursor).2.Lawful :=
  ⟨.broken _ _ _, lawful.recover⟩

theorem lawful_complete {outcome : Outcome Statement} (lawful : outcome.Lawful Statement.Lawful) :
    (complete outcome).1.Lawful ∧ (complete outcome).2.Lawful := by
  cases outcome with
  | parsed statement next => exact lawful
  | failed fragments error next => exact lawful_giveUp fragments error lawful

theorem lawful_readSemicolon {wanted : Expectation} {fragment : Fragment} {make : Nat → Statement}
    (good : ∀ line, (make line).Lawful) (lawful : cursor.Lawful) :
    (readSemicolon wanted fragment make cursor).Lawful Statement.Lawful := by
  unfold readSemicolon
  split
  · exact ⟨good _, lawful.advance⟩
  · exact lawful

theorem lawful_readValue {wanted : Expectation} {make : Expression → Nat → Statement}
    (good : ∀ {value : Expression} line, value.Lawful → (make value line).Lawful)
    (lawful : cursor.Lawful) : (readValue wanted make cursor).Lawful Statement.Lawful :=
  Outcome.lawful_bind (Expression.lawful_read lawful) fun _ _ value rest =>
    lawful_readSemicolon (fun line => good line value) rest

theorem lawful_readInput (lawful : cursor.Lawful) :
    (readInput cursor).Lawful Statement.Lawful := by
  unfold readInput
  split
  next name next =>
    have named : (Symbol.identifier name cursor.advance.line).Lawful := lawful.symbol next rfl
    exact lawful_readSemicolon (fun line => .input line named rfl) lawful.advance
  next => exact lawful

theorem lawful_readCondition (lawful : cursor.Lawful) :
    (readCondition cursor).Lawful Expression.Lawful := by
  unfold readCondition
  split
  · refine Outcome.lawful_bind (Expression.lawful_read lawful.advance)
      fun value next good rest => ?_
    split
    · exact ⟨good, rest.advance⟩
    · exact rest
  · exact lawful

theorem lawful_readBranches {line : Nat} {condition : Expression}
    (nested : ∀ cursor : Cursor, cursor.Lawful → (inner cursor).1.Lawful ∧ (inner cursor).2.Lawful)
    (decided : condition.Lawful) (lawful : cursor.Lawful) :
    (readBranches inner line condition cursor).1.Lawful ∧
      (readBranches inner line condition cursor).2.Lawful := by
  have body := nested cursor lawful
  have otherwise := nested _ body.2.advance
  simp only [readBranches]
  split
  · exact ⟨.ifElse line decided body.1 otherwise.1, otherwise.2⟩
  · exact ⟨.ifThen line decided body.1, body.2⟩

theorem lawful_readMany
    (nested : ∀ cursor : Cursor, cursor.Lawful → (inner cursor).1.Lawful ∧ (inner cursor).2.Lawful)
    (count : Nat) (lawful : cursor.Lawful) :
    (∀ statement ∈ (readMany inner count cursor).1, statement.Lawful) ∧
      (readMany inner count cursor).2.Lawful := by
  induction count generalizing cursor with
  | zero => exact ⟨fun _ member => absurd member List.not_mem_nil, lawful⟩
  | succ count induction =>
      rw [readMany]
      split
      · exact ⟨fun _ member => absurd member List.not_mem_nil, lawful⟩
      · have first := nested cursor lawful
        have others := induction first.2
        exact ⟨List.forall_mem_cons.2 ⟨first.1, others.1⟩, others.2⟩

theorem lawful_readBlock
    (nested : ∀ cursor : Cursor, cursor.Lawful → (inner cursor).1.Lawful ∧ (inner cursor).2.Lawful)
    (lawful : cursor.Lawful) :
    (readBlock inner cursor).1.Lawful ∧ (readBlock inner cursor).2.Lawful := by
  have many := lawful_readMany nested cursor.rest.length lawful
  simp only [readBlock]
  split
  · exact ⟨.block _ many.1, many.2.advance⟩
  · exact ⟨.unclosed _ _ _, many.2.recover⟩

theorem lawful_readNested (depth : Nat) (lawful : cursor.Lawful) :
    (readNested depth cursor).1.Lawful ∧ (readNested depth cursor).2.Lawful := by
  induction depth generalizing cursor with
  | zero => exact lawful_giveUp _ _ lawful
  | succ depth induction =>
      simp only [readNested]
      split
      · exact ⟨.empty _, lawful.advance⟩
      · exact lawful_complete
          (lawful_readValue (fun line value => .print line value) lawful.advance)
      · exact lawful_complete (lawful_readInput lawful.advance)
      · have condition := lawful_readCondition lawful.advance
        split
        next value next read =>
          rw [read] at condition
          exact lawful_readBranches (fun _ => induction) condition.1 condition.2
        next fragments error next read =>
          rw [read] at condition
          exact lawful_giveUp fragments error condition
      · exact lawful_readBlock (fun _ => induction) lawful.advance
      · exact lawful_giveUp _ _ lawful
      · exact lawful_complete (lawful_readValue (fun line value => .evaluate line value) lawful)

theorem lawful_read (lawful : cursor.Lawful) :
    (read cursor).1.Lawful ∧ (read cursor).2.Lawful :=
  lawful_readNested _ lawful

end Statement

namespace Script

variable {cursor : Cursor}

theorem lawful_readStatement (lawful : cursor.Lawful) :
    (readStatement cursor).1.Lawful ∧ (readStatement cursor).2.Lawful := by
  unfold readStatement
  split
  · exact ⟨.broken _ _ _, lawful.advance⟩
  · exact Statement.lawful_read lawful

theorem lawful_readMany (count : Nat) (lawful : cursor.Lawful) :
    ∀ statement ∈ (readMany count cursor).1, statement.Lawful := by
  induction count generalizing cursor with
  | zero => exact fun _ member => absurd member List.not_mem_nil
  | succ count induction =>
      rw [readMany]
      split
      · exact fun _ member => absurd member List.not_mem_nil
      · have first := lawful_readStatement lawful
        exact List.forall_mem_cons.2 ⟨first.1, induction first.2⟩

/-- A script that is read from tokens mentions what the tokens do. -/
theorem lawful_ofTokens {tokens : List PlacedToken}
    (lawful : ∀ placed ∈ tokens, ∀ line symbol,
      placed.token.mention? line = some symbol → symbol.Lawful) :
    ∀ statement ∈ (ofTokens tokens).statements, statement.Lawful :=
  lawful_readMany _ lawful

end Script

end StackScript
