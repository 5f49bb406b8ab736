import Mathlib.Order.Nat
import StackScript.Proofs.Grammar.Soundness
import StackScript.Proofs.Token.Names

/-!
# Recursive descent through expressions

The rules by which expressions are read, with no bound on how deep they nest or how long their
chains of operands are. A derivation is finite, so it is a reading that ends. At every place there
is just one outcome, which is what is read with the number of tokens as a bound.
-/

namespace StackScript

/-! ## Places in order -/

namespace Cursor

/-- What is left to be read at one place ends in what is left at another one. -/
def LeadsTo (cursor next : Cursor) : Prop :=
  next.rest <:+ cursor.rest

/-- At least one token is read between two places. -/
def Precedes (cursor next : Cursor) : Prop :=
  ∃ passed, passed ≠ [] ∧ cursor.rest = passed ++ next.rest

variable {cursor middle next : Cursor}

theorem LeadsTo.refl (cursor : Cursor) : cursor.LeadsTo cursor :=
  List.suffix_refl _

theorem LeadsTo.trans (first : cursor.LeadsTo middle) (second : middle.LeadsTo next) :
    cursor.LeadsTo next :=
  List.IsSuffix.trans second first

theorem LeadsTo.length_le (leads : cursor.LeadsTo next) : next.rest.length ≤ cursor.rest.length :=
  List.IsSuffix.length_le leads

theorem precedes_iff :
    cursor.Precedes next ↔ cursor.LeadsTo next ∧ next.rest.length < cursor.rest.length := by
  constructor
  · rintro ⟨passed, some, whole⟩
    refine ⟨⟨passed, whole.symm⟩, ?_⟩
    rw [whole, List.length_append]
    exact Nat.lt_add_of_pos_left (List.length_pos_iff.2 some)
  · rintro ⟨⟨passed, whole⟩, fewer⟩
    refine ⟨passed, ?_, whole.symm⟩
    rintro rfl
    rw [← whole, List.nil_append] at fewer
    exact Nat.lt_irrefl _ fewer

theorem Precedes.leadsTo (before : cursor.Precedes next) : cursor.LeadsTo next :=
  (precedes_iff.1 before).1

theorem Precedes.length_lt (before : cursor.Precedes next) :
    next.rest.length < cursor.rest.length :=
  (precedes_iff.1 before).2

theorem Precedes.trans_leadsTo (first : cursor.Precedes middle) (second : middle.LeadsTo next) :
    cursor.Precedes next :=
  precedes_iff.2 ⟨first.leadsTo.trans second, Nat.lt_of_le_of_lt second.length_le first.length_lt⟩

theorem LeadsTo.trans_precedes (first : cursor.LeadsTo middle) (second : middle.Precedes next) :
    cursor.Precedes next :=
  precedes_iff.2 ⟨first.trans second.leadsTo, Nat.lt_of_lt_of_le second.length_lt first.length_le⟩

theorem LeadsTo.eq_or_precedes (leads : cursor.LeadsTo next) :
    next.rest = cursor.rest ∨ cursor.Precedes next := by
  rcases Nat.lt_or_ge next.rest.length cursor.rest.length with fewer | same
  · exact .inr (precedes_iff.2 ⟨leads, fewer⟩)
  · exact .inl (List.IsSuffix.eq_of_length_le leads same)

theorem leadsTo_advance (cursor : Cursor) : cursor.LeadsTo cursor.advance := by
  unfold LeadsTo advance
  split
  · exact List.suffix_refl _
  next placed rest shape =>
    rw [shape]
    exact List.suffix_cons _ _

/-- The next token is the first of those that have not been read. -/
theorem rest_eq_cons {token : Token} (here : cursor.peek? = some token) :
    ∃ placed, placed.token = token ∧ cursor.rest = placed :: cursor.advance.rest := by
  obtain ⟨placed, first, same⟩ := Option.map_eq_some_iff.1 here
  obtain ⟨rest, shape⟩ := List.head?_eq_some_iff.1 first
  exact ⟨placed, same, by rw [advance, shape]⟩

theorem precedes_advance {token : Token} (here : cursor.peek? = some token) :
    cursor.Precedes cursor.advance := by
  obtain ⟨placed, -, whole⟩ := rest_eq_cons here
  exact ⟨[placed], List.cons_ne_nil _ _, whole⟩

end Cursor

theorem Token.beginsExpression_of_mention? {line : Nat} {symbol : Symbol} (token : Token)
    (mentions : token.mention? line = some symbol) : token.beginsExpression = true := by
  cases token <;> first | rfl | cases mentions

/-- The place that reading got to. -/
def Outcome.next {α : Type} : Outcome α → Cursor
  | parsed _ next | failed _ _ next => next

namespace Expression

/-! ## Rules -/

/-- The operators that group to the left, the one that binds tighter last. -/
inductive Chain where
  | comparison
  | sum
deriving DecidableEq, Repr

/-- What there is to read of an expression. -/
inductive Part where
  | expression
  /-- Operands with operators between them. -/
  | operands (chain : Chain)
  /-- The operators and operands that go on from a left operand. -/
  | others (chain : Chain) (left : Expression)
  | primary
deriving DecidableEq, Repr

namespace Chain

/-- The token between two operands. -/
def operator : Chain → Token
  | comparison => .equal
  | sum => .plus

/-- The expression of two operands. -/
def join : Chain → Expression → Expression → Nat → Expression
  | comparison => .equals
  | sum => .add

/-- What the operands are. -/
def operand : Chain → Part
  | comparison => .operands .sum
  | sum => .primary

end Chain

/-- From a place on, a part of an expression is read with an outcome. -/
inductive ReadsTo : Part → Cursor → Outcome Expression → Prop
  | atom {cursor : Cursor} {token : Token} {symbol : Symbol} (here : cursor.peek? = some token)
      (mentions : token.mention? cursor.advance.line = some symbol) :
      ReadsTo .primary cursor (.parsed (.atom symbol cursor.advance.nodeLine) cursor.advance)
  | parens {cursor next : Cursor} {value : Expression} (opens : cursor.peek? = some .leftParen)
      (inner : ReadsTo .expression cursor.advance (.parsed value next))
      (closes : next.peek? = some .rightParen) :
      ReadsTo .primary cursor (.parsed value next.advance)
  | parensOpen {cursor next : Cursor} {value : Expression} (opens : cursor.peek? = some .leftParen)
      (inner : ReadsTo .expression cursor.advance (.parsed value next))
      (other : next.peek? ≠ some .rightParen) :
      ReadsTo .primary cursor
        (.failed [.expression value] (next.unexpected .closingParen) next)
  | parensFault {cursor next : Cursor} {fragments : List Fragment} {error : GrammarError}
      (opens : cursor.peek? = some .leftParen)
      (inner : ReadsTo .expression cursor.advance (.failed fragments error next)) :
      ReadsTo .primary cursor (.failed fragments error next)
  | none {cursor : Cursor}
      (other : ∀ token, cursor.peek? = some token → token.beginsExpression = false) :
      ReadsTo .primary cursor (.failed [] (cursor.unexpected .expression) cursor)
  | last {cursor : Cursor} {chain : Chain} {left : Expression}
      (ended : cursor.peek? ≠ some chain.operator) :
      ReadsTo (.others chain left) cursor (.parsed left cursor)
  | more {cursor next : Cursor} {chain : Chain} {left right : Expression}
      {outcome : Outcome Expression} (here : cursor.peek? = some chain.operator)
      (operand : ReadsTo chain.operand cursor.advance (.parsed right next))
      (others : ReadsTo (.others chain (chain.join left right next.nodeLine)) next outcome) :
      ReadsTo (.others chain left) cursor outcome
  | moreFault {cursor next : Cursor} {chain : Chain} {left : Expression}
      {fragments : List Fragment} {error : GrammarError}
      (here : cursor.peek? = some chain.operator)
      (operand : ReadsTo chain.operand cursor.advance (.failed fragments error next)) :
      ReadsTo (.others chain left) cursor (.failed (.expression left :: fragments) error next)
  | operands {cursor next : Cursor} {chain : Chain} {left : Expression}
      {outcome : Outcome Expression} (operand : ReadsTo chain.operand cursor (.parsed left next))
      (others : ReadsTo (.others chain left) next outcome) :
      ReadsTo (.operands chain) cursor outcome
  | operandsFault {cursor next : Cursor} {chain : Chain} {fragments : List Fragment}
      {error : GrammarError}
      (operand : ReadsTo chain.operand cursor (.failed fragments error next)) :
      ReadsTo (.operands chain) cursor (.failed fragments error next)
  | assign {cursor next : Cursor} {symbol : Symbol} {value : Expression}
      (target : target? cursor = some symbol)
      (assigned : ReadsTo .expression cursor.advance.advance (.parsed value next)) :
      ReadsTo .expression cursor (.parsed (.assign symbol value next.nodeLine) next)
  | assignFault {cursor next : Cursor} {symbol : Symbol} {fragments : List Fragment}
      {error : GrammarError} (target : target? cursor = some symbol)
      (assigned : ReadsTo .expression cursor.advance.advance (.failed fragments error next)) :
      ReadsTo .expression cursor (.failed (.target symbol :: fragments) error next)
  | comparison {cursor : Cursor} {outcome : Outcome Expression} (other : target? cursor = none)
      (compared : ReadsTo (.operands .comparison) cursor outcome) :
      ReadsTo .expression cursor outcome

namespace ReadsTo

variable {part : Part} {cursor : Cursor} {outcome other : Outcome Expression}

/-- Reading never goes back. -/
theorem leadsTo (reads : ReadsTo part cursor outcome) : cursor.LeadsTo outcome.next := by
  induction reads with
  | atom here mentions => exact Cursor.leadsTo_advance _
  | @parens cursor next value opens inner closes induction =>
      exact (cursor.leadsTo_advance.trans induction).trans next.leadsTo_advance
  | @parensOpen cursor next value opens inner other induction =>
      exact cursor.leadsTo_advance.trans induction
  | @parensFault cursor next fragments error opens inner induction =>
      exact cursor.leadsTo_advance.trans induction
  | none other => exact .refl _
  | last ended => exact .refl _
  | @more cursor next chain left right outcome here operand others first second =>
      exact (cursor.leadsTo_advance.trans first).trans second
  | @moreFault cursor next chain left fragments error here operand induction =>
      exact cursor.leadsTo_advance.trans induction
  | operands operand others first second => exact first.trans second
  | operandsFault operand induction => exact induction
  | @assign cursor next symbol value target assigned induction =>
      exact (cursor.leadsTo_advance.trans cursor.advance.leadsTo_advance).trans induction
  | @assignFault cursor next symbol fragments error target assigned induction =>
      exact (cursor.leadsTo_advance.trans cursor.advance.leadsTo_advance).trans induction
  | comparison other compared induction => exact induction

/-- There is no more than one way to read. -/
theorem unique (reads : ReadsTo part cursor outcome) (reads' : ReadsTo part cursor other) :
    outcome = other := by
  induction reads generalizing other with
  | @atom cursor token symbol here mentions =>
      cases reads' with
      | atom here' mentions' =>
          obtain rfl := Option.some.inj (here.symm.trans here')
          obtain rfl := Option.some.inj (mentions.symm.trans mentions')
          rfl
      | parens opens | parensOpen opens | parensFault opens =>
          cases here.symm.trans opens
          cases mentions
      | none other =>
          have begins := other token here
          rw [token.beginsExpression_of_mention? mentions] at begins
          cases begins
  | parens opens inner closes induction =>
      cases reads' with
      | atom here mentions =>
          cases opens.symm.trans here
          cases mentions
      | parens _ inner' closes' =>
          cases induction inner'
          rfl
      | parensOpen _ inner' other =>
          cases induction inner'
          exact absurd closes other
      | parensFault _ inner' => cases induction inner'
      | none other => cases other _ opens
  | parensOpen opens inner other induction =>
      cases reads' with
      | atom here mentions =>
          cases opens.symm.trans here
          cases mentions
      | parens _ inner' closes =>
          cases induction inner'
          exact absurd closes other
      | parensOpen _ inner' other' =>
          cases induction inner'
          rfl
      | parensFault _ inner' => cases induction inner'
      | none other => cases other _ opens
  | parensFault opens inner induction =>
      cases reads' with
      | atom here mentions =>
          cases opens.symm.trans here
          cases mentions
      | parens _ inner' | parensOpen _ inner' => cases induction inner'
      | parensFault _ inner' => exact induction inner'
      | none other => cases other _ opens
  | none other =>
      cases reads' with
      | @atom _ token symbol here mentions =>
          have begins := other token here
          rw [token.beginsExpression_of_mention? mentions] at begins
          cases begins
      | parens opens | parensOpen opens | parensFault opens => cases other _ opens
      | none other' => rfl
  | last ended =>
      cases reads' with
      | last _ => rfl
      | more here | moreFault here => exact absurd here ended
  | more here operand others first second =>
      cases reads' with
      | last ended => exact absurd here ended
      | more _ operand' others' =>
          cases first operand'
          exact second others'
      | moreFault _ operand' => cases first operand'
  | moreFault here operand induction =>
      cases reads' with
      | last ended => exact absurd here ended
      | more _ operand' => cases induction operand'
      | moreFault _ operand' =>
          cases induction operand'
          rfl
  | operands operand others first second =>
      cases reads' with
      | operands operand' others' =>
          cases first operand'
          exact second others'
      | operandsFault operand' => cases first operand'
  | operandsFault operand induction =>
      cases reads' with
      | operands operand' => cases induction operand'
      | operandsFault operand' => exact induction operand'
  | assign target assigned induction =>
      cases reads' with
      | assign target' assigned' =>
          cases target.symm.trans target'
          cases induction assigned'
          rfl
      | assignFault _ assigned' => cases induction assigned'
      | comparison none => cases target.symm.trans none
  | assignFault target assigned induction =>
      cases reads' with
      | assign _ assigned' => cases induction assigned'
      | assignFault target' assigned' =>
          cases target.symm.trans target'
          cases induction assigned'
          rfl
      | comparison none => cases target.symm.trans none
  | comparison none compared induction =>
      cases reads' with
      | assign target | assignFault target => cases none.symm.trans target
      | comparison _ compared' => exact induction compared'

end ReadsTo

/-! ## What is read -/

/-- The target of an assignment is read together with the sign behind it. -/
theorem precedes_of_target? {cursor : Cursor} {symbol : Symbol}
    (target : target? cursor = some symbol) : cursor.Precedes cursor.advance.advance := by
  obtain ⟨name, others, -, shape⟩ := target?_eq_some_iff.1 target
  exact (Cursor.precedes_advance (cursor.peek?_of_tokens shape)).trans_leadsTo
    cursor.advance.leadsTo_advance

variable {inner operand : Cursor → Outcome Expression} {cursor : Cursor} {chain : Chain}

theorem readsTo_readPrimary
    (nested : ∀ next : Cursor, next.rest.length < cursor.rest.length →
      ReadsTo .expression next (inner next)) :
    ReadsTo .primary cursor (readPrimary inner cursor) := by
  unfold readPrimary
  cases here : cursor.peek? with
  | none => exact .none fun token there => by cases here.symm.trans there
  | some token =>
      cases token with
      | identifier name => exact .atom here rfl
      | string text => exact .atom here rfl
      | integer value => exact .atom here rfl
      | leftParen =>
          have within := nested cursor.advance (Cursor.precedes_advance here).length_lt
          change ReadsTo .primary cursor ((inner cursor.advance).bind _)
          cases read : inner cursor.advance with
          | parsed value next =>
              rw [read] at within
              simp only [Outcome.bind]
              split
              next closes => exact .parens here within closes
              next other => exact .parensOpen here within other
          | failed fragments error next =>
              rw [read] at within
              exact .parensFault here within
      | _ =>
          refine .none fun token there => ?_
          cases here.symm.trans there
          rfl

theorem readsTo_readChain
    (each : ∀ next : Cursor, next.rest.length < cursor.rest.length →
      ReadsTo chain.operand next (operand next))
    {count : Nat} (enough : cursor.rest.length ≤ count) (left : Expression) :
    ReadsTo (.others chain left) cursor
      (readChain chain.operator chain.join operand count left cursor) := by
  induction count generalizing left cursor with
  | zero =>
      have nothing : cursor.peek? = none := by
        rw [Cursor.peek?, List.eq_nil_of_length_eq_zero (Nat.le_zero.1 enough)]
        rfl
      exact .last (by simp [nothing])
  | succ count induction =>
      rw [readChain]
      split
      next here =>
        -- Whatever the operand reads, the operator in front of it makes what is left shorter.
        have fewer := (Cursor.precedes_advance here).length_lt
        have first := each cursor.advance fewer
        cases read : operand cursor.advance with
        | parsed right next =>
            rw [read] at first
            have short := Nat.lt_of_le_of_lt first.leadsTo.length_le fewer
            have others (other : Cursor) (shorter : other.rest.length < next.rest.length) :=
              each other (shorter.trans short)
            exact .more here first
              (induction others (Nat.le_of_lt_succ (Nat.lt_of_lt_of_le short enough)) _)
        | failed fragments error next =>
            rw [read] at first
            exact .moreFault here first
      next other => exact .last other

theorem readsTo_readOperands (chain : Chain)
    (each : ∀ next : Cursor, next.rest.length ≤ cursor.rest.length →
      ReadsTo chain.operand next (operand next)) :
    ReadsTo (.operands chain) cursor
      (readOperands chain.operator chain.join operand cursor) := by
  have first := each cursor (Nat.le_refl _)
  unfold readOperands
  cases read : operand cursor with
  | parsed left next =>
      rw [read] at first
      exact .operands first (readsTo_readChain
        (fun other shorter => each other (shorter.le.trans first.leadsTo.length_le))
        (Nat.le_refl _) left)
  | failed fragments error next =>
      rw [read] at first
      exact .operandsFault first

theorem readsTo_readComparison
    (nested : ∀ next : Cursor, next.rest.length < cursor.rest.length →
      ReadsTo .expression next (inner next)) :
    ReadsTo (.operands .comparison) cursor (readComparison inner cursor) := by
  have primary (next : Cursor) (short : next.rest.length ≤ cursor.rest.length) :
      ReadsTo .primary next (readPrimary inner next) :=
    readsTo_readPrimary fun other shorter => nested other (Nat.lt_of_lt_of_le shorter short)
  have sum (next : Cursor) (short : next.rest.length ≤ cursor.rest.length) :
      ReadsTo (.operands .sum) next (readOperands .plus .add (readPrimary inner) next) :=
    readsTo_readOperands .sum fun other shorter => primary other (shorter.trans short)
  exact readsTo_readOperands .comparison sum

/-- A depth beyond the number of tokens is no bound. -/
theorem readsTo_readNested {depth : Nat} (enough : cursor.rest.length < depth) :
    ReadsTo .expression cursor (readNested depth cursor) := by
  induction depth generalizing cursor with
  | zero => exact absurd enough (Nat.not_lt_zero _)
  | succ depth induction =>
      rw [readNested]
      split
      next symbol target =>
        have fewer := (precedes_of_target? target).length_lt
        have assigned := induction (Nat.lt_of_lt_of_le fewer (Nat.le_of_lt_succ enough))
        cases read : readNested depth cursor.advance.advance with
        | parsed value next =>
            rw [read] at assigned
            exact .assign target assigned
        | failed fragments error next =>
            rw [read] at assigned
            exact .assignFault target assigned
      next other =>
        exact .comparison other (readsTo_readComparison fun next fewer =>
          induction (Nat.lt_of_lt_of_le fewer (Nat.le_of_lt_succ enough)))

/-- Expressions are read to an end, by the rules. -/
theorem readsTo_read (cursor : Cursor) : ReadsTo .expression cursor (read cursor) :=
  readsTo_readNested (Nat.lt_succ_self _)

theorem ReadsTo.read_eq {cursor : Cursor} {outcome : Outcome Expression}
    (reads : ReadsTo .expression cursor outcome) : read cursor = outcome :=
  (readsTo_read cursor).unique reads

end Expression

end StackScript
