import StackScript.Proofs.Phrase.Recovery

/-!
# Progress of reading

The rules by which the statements of a script are read, with no bound on how deep they nest or how
many of them there are. A derivation lists the calls for a statement, the recoveries from faults and
the turns of the loops. Every script has one, since whatever goes on reads a token; the exceptions
are calls for what an `if` runs, and in front of these the `if` has been read.
-/

namespace StackScript

open Script (Event)

/-! ## Rules -/

namespace Statement

/-- The tokens that tell what kind of statement they begin, or that they begin none. -/
def signs : List Token :=
  [.semicolon, .printKeyword, .inputKeyword, .ifKeyword, .leftBrace, .elseKeyword]

/-- The statement of an expression and the semicolon behind it. -/
def afterValue (wanted : Expectation) (make : Expression → Nat → Statement)
    (outcome : Outcome Expression) : Outcome Statement :=
  outcome.bind fun value next => readSemicolon wanted (.expression value) (make value) next

/-- What is left of a statement that may have to be given up. -/
inductive CompletesTo : Outcome Statement → Statement → Cursor → List Event → Prop
  | parsed (statement : Statement) (next : Cursor) :
      CompletesTo (.parsed statement next) statement next []
  | failed {middle next : Cursor} {events : List Event} (fragments : List Fragment)
      (error : GrammarError) (recovers : middle.RecoversTo next events) :
      CompletesTo (.failed fragments error middle) (.broken fragments error next.nodeLine) next
        (.recovery middle next :: events)

/-- From behind an `if`, its condition is read with an outcome. -/
inductive ConditionReadsTo : Cursor → Outcome Expression → Prop
  | none {cursor : Cursor} (other : cursor.peek? ≠ some .leftParen) :
      ConditionReadsTo cursor (.failed [] (cursor.unexpected .parenAfterIf) cursor)
  | parens {cursor next : Cursor} {condition : Expression} (opens : cursor.peek? = some .leftParen)
      (inner : Expression.ReadsTo .expression cursor.advance (.parsed condition next))
      (closes : next.peek? = some .rightParen) :
      ConditionReadsTo cursor (.parsed condition next.advance)
  | parensOpen {cursor next : Cursor} {condition : Expression}
      (opens : cursor.peek? = some .leftParen)
      (inner : Expression.ReadsTo .expression cursor.advance (.parsed condition next))
      (other : next.peek? ≠ some .rightParen) :
      ConditionReadsTo cursor
        (.failed [.expression condition] (next.unexpected .parenAfterCondition) next)
  | parensFault {cursor next : Cursor} {fragments : List Fragment} {error : GrammarError}
      (opens : cursor.peek? = some .leftParen)
      (inner : Expression.ReadsTo .expression cursor.advance (.failed fragments error next)) :
      ConditionReadsTo cursor (.failed fragments error next)

mutual

/-- From a place on, a statement is read up to another place. -/
inductive ReadsTo : Cursor → Statement → Cursor → List Event → Prop
  | empty {cursor : Cursor} (here : cursor.peek? = some .semicolon) :
      ReadsTo cursor (.empty cursor.advance.nodeLine) cursor.advance []
  | print {cursor next : Cursor} {outcome : Outcome Expression} {statement : Statement}
      {events : List Event} (here : cursor.peek? = some .printKeyword)
      (value : Expression.ReadsTo .expression cursor.advance outcome)
      (completes : CompletesTo (afterValue .semicolonAfterPrint print outcome)
        statement next events) :
      ReadsTo cursor statement next events
  | input {cursor next : Cursor} {statement : Statement} {events : List Event}
      (here : cursor.peek? = some .inputKeyword)
      (completes : CompletesTo (readInput cursor.advance) statement next events) :
      ReadsTo cursor statement next events
  | ifFault {cursor middle next : Cursor} {fragments : List Fragment} {error : GrammarError}
      {events : List Event} (here : cursor.peek? = some .ifKeyword)
      (test : ConditionReadsTo cursor.advance (.failed fragments error middle))
      (recovers : middle.RecoversTo next events) :
      ReadsTo cursor (.broken fragments error next.nodeLine) next (.recovery middle next :: events)
  | ifThen {cursor middle next : Cursor} {condition : Expression} {body : Statement}
      {events : List Event} (here : cursor.peek? = some .ifKeyword)
      (test : ConditionReadsTo cursor.advance (.parsed condition middle))
      (runs : ReadsTo middle body next events) (other : next.peek? ≠ some .elseKeyword) :
      ReadsTo cursor (.ifThen condition body cursor.line) (next.withNodeLine cursor.line)
        (.statement (.branch cursor) middle next :: events)
  | ifElse {cursor middle last next : Cursor} {condition : Expression} {body otherwise : Statement}
      {events others : List Event} (here : cursor.peek? = some .ifKeyword)
      (test : ConditionReadsTo cursor.advance (.parsed condition middle))
      (runs : ReadsTo middle body last events) (follows : last.peek? = some .elseKeyword)
      (elses : ReadsTo last.advance otherwise next others) :
      ReadsTo cursor (.ifElse condition body otherwise cursor.line) (next.withNodeLine cursor.line)
        (.statement (.branch cursor) middle last ::
          (events ++ .statement (.branch cursor) last.advance next :: others))
  | block {cursor next : Cursor} {statements : List Statement} {events : List Event}
      (here : cursor.peek? = some .leftBrace)
      (all : ReadManyTo cursor.advance statements next events)
      (closes : next.peek? = some .rightBrace) :
      ReadsTo cursor (.block statements next.advance.nodeLine) next.advance events
  | unclosed {cursor middle next : Cursor} {statements : List Statement}
      {events others : List Event} (here : cursor.peek? = some .leftBrace)
      (all : ReadManyTo cursor.advance statements middle events)
      (other : middle.peek? ≠ some .rightBrace) (recovers : middle.RecoversTo next others) :
      ReadsTo cursor (.unclosed statements (middle.unexpected .closingBrace) next.nodeLine) next
        (events ++ .recovery middle next :: others)
  | strayElse {cursor next : Cursor} {events : List Event}
      (here : cursor.peek? = some .elseKeyword) (recovers : cursor.RecoversTo next events) :
      ReadsTo cursor (.broken [] ⟨.strayElse, cursor.line⟩ next.nodeLine) next
        (.recovery cursor next :: events)
  | evaluate {cursor next : Cursor} {outcome : Outcome Expression} {statement : Statement}
      {events : List Event} (other : ∀ token ∈ signs, cursor.peek? ≠ some token)
      (value : Expression.ReadsTo .expression cursor outcome)
      (completes : CompletesTo (afterValue .semicolonAfterExpression evaluate outcome)
        statement next events) :
      ReadsTo cursor statement next events

/-- From a place on, the statements of a block are read up to another place. -/
inductive ReadManyTo : Cursor → List Statement → Cursor → List Event → Prop
  | nil {cursor : Cursor} (closes : cursor.IsClosing) : ReadManyTo cursor [] cursor []
  | cons {cursor middle next : Cursor} {first : Statement} {rest : List Statement}
      {events others : List Event} (begins : ¬cursor.IsClosing)
      (head : ReadsTo cursor first middle events) (tail : ReadManyTo middle rest next others) :
      ReadManyTo cursor (first :: rest) next
        (.turn .block cursor middle true :: .statement .block cursor middle :: (events ++ others))

end

end Statement

namespace Script

/-- From a place on, the statements of a script are read up to another place. -/
inductive ReadManyTo : Cursor → List Statement → Cursor → List Event → Prop
  | nil {cursor : Cursor} (ended : cursor.atEnd = true) : ReadManyTo cursor [] cursor []
  /-- A closing brace closes nothing. -/
  | stray {cursor next : Cursor} {rest : List Statement} {events : List Event}
      (here : cursor.peek? = some .rightBrace) (tail : ReadManyTo cursor.advance rest next events) :
      ReadManyTo cursor
        (.broken [] (cursor.unexpected .statement) cursor.advance.nodeLine :: rest) next
        (.turn .script cursor cursor.advance true :: events)
  | cons {cursor middle next : Cursor} {first : Statement} {rest : List Statement}
      {events others : List Event} (begins : ¬cursor.IsClosing)
      (head : Statement.ReadsTo cursor first middle events)
      (tail : ReadManyTo middle rest next others) :
      ReadManyTo cursor (first :: rest) next
        (.turn .script cursor middle true :: .statement .script cursor middle :: (events ++ others))

/-- Tokens are read as a script. -/
inductive ReadsTo : List PlacedToken → Script → List Event → Prop
  | intro {tokens : List PlacedToken} {statements : List Statement} {last : Cursor}
      {events : List Event} (all : ReadManyTo (.start tokens) statements last events) :
      ReadsTo tokens ⟨statements, last.nodeLine⟩ events

end Script

/-! ## Statements -/

namespace Statement

/-! ### Reading goes on -/

section

variable {cursor next : Cursor} {events : List Event} {statement : Statement}
variable {outcome : Outcome Expression}

theorem leadsTo_readSemicolon {wanted : Expectation} {fragment : Fragment}
    {make : Nat → Statement} : cursor.LeadsTo (readSemicolon wanted fragment make cursor).next := by
  unfold readSemicolon
  split
  · exact cursor.leadsTo_advance
  · exact .refl cursor

theorem leadsTo_readInput : cursor.LeadsTo (readInput cursor).next := by
  unfold readInput
  split
  · exact cursor.leadsTo_advance.trans leadsTo_readSemicolon
  · exact .refl cursor

theorem ConditionReadsTo.leadsTo (test : ConditionReadsTo cursor outcome) :
    cursor.LeadsTo outcome.next := by
  cases test with
  | none other => exact .refl cursor
  | parens opens inner closes =>
      exact (cursor.leadsTo_advance.trans inner.leadsTo).trans (Cursor.leadsTo_advance _)
  | parensOpen opens inner | parensFault opens inner =>
      exact cursor.leadsTo_advance.trans inner.leadsTo

namespace CompletesTo

variable {outcome : Outcome Statement}

theorem leadsTo (completes : CompletesTo outcome statement next events) :
    outcome.next.LeadsTo next := by
  cases completes with
  | parsed => exact .refl next
  | failed fragments error recovers => exact recovers.goesOn.leadsTo

theorem advances (completes : CompletesTo outcome statement next events) :
    ∀ event ∈ events, event.Advances := by
  cases completes with
  | parsed => exact List.forall_mem_nil _
  | failed fragments error recovers => exact recovers.advances_cons

/-- A semicolon is read behind a value, or else there is a recovery. -/
theorem goesOn_of_afterValue {wanted : Expectation} {make : Expression → Nat → Statement}
    {outcome : Outcome Expression}
    (completes : CompletesTo (afterValue wanted make outcome) statement next events) :
    outcome.next.GoesOn next := by
  cases outcome with
  | parsed value middle =>
      simp only [afterValue, Outcome.bind, readSemicolon] at completes
      split at completes
      next here =>
        cases completes
        exact .of_advance here (.refl _)
      next =>
        cases completes with
        | failed fragments error recovers => exact recovers.goesOn
  | failed fragments error middle =>
      cases completes with
      | failed _ _ recovers => exact recovers.goesOn

end CompletesTo

end

mutual

/-- A call for a statement reads a token, unless nothing begins where it is made. -/
theorem ReadsTo.goesOn {cursor next : Cursor} {statement : Statement} {events : List Event}
    (reads : ReadsTo cursor statement next events) : cursor.GoesOn next := by
  cases reads with
  | empty here => exact .of_advance here (.refl _)
  | print here value completes =>
      exact .of_advance here (value.leadsTo.trans completes.goesOn_of_afterValue.leadsTo)
  | input here completes => exact .of_advance here (leadsTo_readInput.trans completes.leadsTo)
  | ifFault here test recovers =>
      exact .of_advance here (test.leadsTo.trans recovers.goesOn.leadsTo)
  | ifThen here test runs other =>
      exact .of_advance here (test.leadsTo.trans runs.goesOn.leadsTo)
  | ifElse here test runs follows elses =>
      have before := test.leadsTo.trans (runs.goesOn.leadsTo.trans (Cursor.leadsTo_advance _))
      exact .of_advance here (before.trans elses.goesOn.leadsTo)
  | block here all closes =>
      exact .of_advance here (all.leadsTo.trans (Cursor.leadsTo_advance _))
  | unclosed here all other recovers =>
      exact .of_advance here (all.leadsTo.trans recovers.goesOn.leadsTo)
  | strayElse here recovers => exact recovers.goesOn
  | evaluate other value completes => exact .of_leadsTo value.leadsTo completes.goesOn_of_afterValue

theorem ReadManyTo.leadsTo {cursor next : Cursor} {statements : List Statement}
    {events : List Event} (all : ReadManyTo cursor statements next events) :
    cursor.LeadsTo next := by
  cases all with
  | nil closes => exact .refl cursor
  | cons begins head tail => exact head.goesOn.leadsTo.trans tail.leadsTo

end

/-! ### The bounds on reading are none -/

theorem CompletesTo.complete_eq {outcome : Outcome Statement} {statement : Statement}
    {next : Cursor} {events : List Event} (completes : CompletesTo outcome statement next events) :
    complete outcome = (statement, next) := by
  cases completes with
  | parsed => rfl
  | failed fragments error recovers =>
      rw [recovers.eq_recover]
      rfl

theorem ConditionReadsTo.readCondition_eq {cursor : Cursor} {outcome : Outcome Expression}
    (test : ConditionReadsTo cursor outcome) : readCondition cursor = outcome := by
  unfold readCondition
  cases test with
  | none other => rw [if_neg other]
  | parens opens inner closes =>
      rw [if_pos opens, inner.read_eq]
      exact if_pos closes
  | parensOpen opens inner other =>
      rw [if_pos opens, inner.read_eq]
      exact if_neg other
  | parensFault opens inner =>
      rw [if_pos opens, inner.read_eq]
      rfl

theorem readValue_eq_afterValue {cursor : Cursor} {outcome : Outcome Expression}
    (value : Expression.ReadsTo .expression cursor outcome) (wanted : Expectation)
    (make : Expression → Nat → Statement) :
    readValue wanted make cursor = afterValue wanted make outcome := by
  rw [readValue, value.read_eq, afterValue]

theorem readNested_of_notMem_signs {cursor : Cursor}
    (other : ∀ token ∈ signs, cursor.peek? ≠ some token) (depth : Nat) :
    readNested (depth + 1) cursor =
      complete (readValue .semicolonAfterExpression evaluate cursor) := by
  cases here : cursor.peek? with
  | none => simp only [readNested, here]
  | some token =>
      cases token <;>
        first | exact absurd here (other _ (by decide)) | simp only [readNested, here]

mutual

theorem ReadsTo.readNested_eq {cursor next : Cursor} {statement : Statement} {events : List Event}
    (reads : ReadsTo cursor statement next events) {depth : Nat}
    (enough : cursor.rest.length < depth) : readNested depth cursor = (statement, next) := by
  obtain ⟨depth, rfl⟩ := Nat.exists_eq_succ_of_ne_zero (Nat.ne_zero_of_lt enough)
  have nested {token : Token} (here : cursor.peek? = some token) {next : Cursor}
      (leads : cursor.advance.LeadsTo next) : next.rest.length < depth :=
    Nat.lt_of_lt_of_le ((Cursor.precedes_advance here).trans_leadsTo leads).length_lt
      (Nat.le_of_lt_succ enough)
  cases reads with
  | empty here => simp only [readNested, here]
  | print here value completes =>
      simp only [readNested, here, readValue_eq_afterValue value, completes.complete_eq]
  | input here completes => simp only [readNested, here, completes.complete_eq]
  | ifFault here test recovers =>
      simp only [readNested, here, test.readCondition_eq, giveUp, recovers.eq_recover]
  | ifThen here test runs other =>
      simp only [readNested, here, test.readCondition_eq, readBranches,
        runs.readNested_eq (nested here test.leadsTo), if_neg other]
  | ifElse here test runs follows elses =>
      have before := test.leadsTo.trans (runs.goesOn.leadsTo.trans (Cursor.leadsTo_advance _))
      simp only [readNested, here, test.readCondition_eq, readBranches,
        runs.readNested_eq (nested here test.leadsTo), if_pos follows,
        elses.readNested_eq (nested here before)]
  | block here all closes =>
      simp only [readNested, here, readBlock,
        all.readMany_eq (nested here (.refl _)) (Nat.le_refl _), if_pos closes]
  | unclosed here all other recovers =>
      simp only [readNested, here, readBlock,
        all.readMany_eq (nested here (.refl _)) (Nat.le_refl _), if_neg other,
        recovers.eq_recover]
  | strayElse here recovers => simp only [readNested, here, giveUp, recovers.eq_recover]
  | evaluate other value completes =>
      rw [readNested_of_notMem_signs other, readValue_eq_afterValue value, completes.complete_eq]

theorem ReadManyTo.readMany_eq {cursor next : Cursor} {statements : List Statement}
    {events : List Event} (all : ReadManyTo cursor statements next events) {depth count : Nat}
    (deep : cursor.rest.length < depth) (enough : cursor.rest.length ≤ count) :
    readMany (readNested depth) count cursor = (statements, next) := by
  cases all with
  | nil closes =>
      cases count with
      | zero => rfl
      | succ count =>
          rw [readMany, if_pos (by simpa [Cursor.isClosing_iff] using closes)]
  | cons begins head tail =>
      have fewer := (head.goesOn.precedes begins).length_lt
      obtain ⟨count, rfl⟩ := Nat.exists_eq_succ_of_ne_zero (n := count) (by omega)
      have further : readMany (readNested depth) count _ = _ :=
        tail.readMany_eq (fewer.trans deep) (by omega)
      rw [readMany, if_neg (by simpa [Cursor.isClosing_iff] using begins),
        head.readNested_eq deep]
      simp only [further]

end

theorem ReadsTo.read_eq {cursor next : Cursor} {statement : Statement} {events : List Event}
    (reads : ReadsTo cursor statement next events) : read cursor = (statement, next) :=
  reads.readNested_eq (Nat.lt_succ_self _)

/-! ### What happens advances -/

/-- A call for what an `if` runs advances, wherever it is made. -/
theorem ReadsTo.advances_branch {opening cursor next : Cursor} {statement : Statement}
    {events : List Event} (reads : ReadsTo cursor statement next events)
    (here : opening.peek? = some .ifKeyword) (before : opening.advance.LeadsTo cursor) :
    (Event.statement (.branch opening) cursor next).Advances :=
  ⟨congrArg Prod.snd reads.read_eq, reads.goesOn.precedes, fun _ =>
    ⟨opening, rfl, here, (Cursor.precedes_advance here).trans_leadsTo before⟩⟩

/-- A turn that calls for a statement advances, and so does the call. -/
theorem ReadsTo.advances_turn {cursor next : Cursor} {statement : Statement}
    {events others : List Event} (reads : ReadsTo cursor statement next events)
    (begins : ¬cursor.IsClosing) (loop : Script.Loop) (site : Script.Site)
    (within : ∀ event ∈ others, event.Advances) :
    ∀ event ∈ Event.turn loop cursor next true :: .statement site cursor next :: others,
      event.Advances :=
  List.forall_mem_cons.2 ⟨fun _ => reads.goesOn.precedes begins, List.forall_mem_cons.2
    ⟨⟨congrArg Prod.snd reads.read_eq, reads.goesOn.precedes, fun closing => absurd closing begins⟩,
      within⟩⟩

mutual

theorem ReadsTo.advances {cursor next : Cursor} {statement : Statement} {events : List Event}
    (reads : ReadsTo cursor statement next events) :
    ∀ event ∈ events, event.Advances := by
  cases reads with
  | empty here => exact List.forall_mem_nil _
  | print here value completes => exact completes.advances
  | input here completes => exact completes.advances
  | ifFault here test recovers => exact recovers.advances_cons
  | ifThen here test runs other =>
      exact List.forall_mem_cons.2 ⟨runs.advances_branch here test.leadsTo, runs.advances⟩
  | ifElse here test runs follows elses =>
      have before := test.leadsTo.trans (runs.goesOn.leadsTo.trans (Cursor.leadsTo_advance _))
      exact List.forall_mem_cons.2 ⟨runs.advances_branch here test.leadsTo,
        List.forall_mem_append.2 ⟨runs.advances, List.forall_mem_cons.2
          ⟨elses.advances_branch here before, elses.advances⟩⟩⟩
  | block here all closes => exact all.advances
  | unclosed here all other recovers =>
      exact List.forall_mem_append.2 ⟨all.advances, recovers.advances_cons⟩
  | strayElse here recovers => exact recovers.advances_cons
  | evaluate other value completes => exact completes.advances

theorem ReadManyTo.advances {cursor next : Cursor} {statements : List Statement}
    {events : List Event} (all : ReadManyTo cursor statements next events) :
    ∀ event ∈ events, event.Advances := by
  cases all with
  | nil closes => exact List.forall_mem_nil _
  | cons begins head tail =>
      exact head.advances_turn begins .block .block
        (List.forall_mem_append.2 ⟨head.advances, tail.advances⟩)

end

/-! ### Every reading ends -/

theorem exists_completesTo (outcome : Outcome Statement) :
    ∃ statement next events, CompletesTo outcome statement next events := by
  cases outcome with
  | parsed statement next => exact ⟨_, _, _, .parsed statement next⟩
  | failed fragments error middle =>
      obtain ⟨next, events, recovers⟩ := middle.exists_recoversTo
      exact ⟨_, _, _, .failed fragments error recovers⟩

theorem exists_conditionReadsTo (cursor : Cursor) : ∃ outcome, ConditionReadsTo cursor outcome := by
  by_cases opens : cursor.peek? = some .leftParen
  · have inner := Expression.readsTo_read cursor.advance
    cases read : Expression.read cursor.advance with
    | parsed condition next =>
        rw [read] at inner
        by_cases closes : next.peek? = some .rightParen
        · exact ⟨_, .parens opens inner closes⟩
        · exact ⟨_, .parensOpen opens inner closes⟩
    | failed fragments error next =>
        rw [read] at inner
        exact ⟨_, .parensFault opens inner⟩
  · exact ⟨_, .none opens⟩

/-- The reading of a statement ends. -/
def Ends (cursor : Cursor) : Prop :=
  ∃ statement next events, ReadsTo cursor statement next events

theorem ends_of_if {cursor : Cursor} (here : cursor.peek? = some .ifKeyword)
    (nested : ∀ next, cursor.advance.LeadsTo next → Ends next) : Ends cursor := by
  obtain ⟨outcome, test⟩ := exists_conditionReadsTo cursor.advance
  cases outcome with
  | parsed condition middle =>
      obtain ⟨body, last, events, runs⟩ := nested middle test.leadsTo
      by_cases follows : last.peek? = some .elseKeyword
      · have before := test.leadsTo.trans (runs.goesOn.leadsTo.trans last.leadsTo_advance)
        obtain ⟨otherwise, next, others, elses⟩ := nested last.advance before
        exact ⟨_, _, _, .ifElse here test runs follows elses⟩
      · exact ⟨_, _, _, .ifThen here test runs follows⟩
  | failed fragments error middle =>
      obtain ⟨next, events, recovers⟩ := middle.exists_recoversTo
      exact ⟨_, _, _, .ifFault here test recovers⟩

/-- The statements of a block are read to an end if each of them is, since it reads a token. -/
theorem exists_readManyTo {cursor : Cursor}
    (each : ∀ next : Cursor, cursor.LeadsTo next → Ends next) :
    ∃ statements next events, ReadManyTo cursor statements next events := by
  induction length : cursor.rest.length using Nat.strong_induction_on generalizing cursor with
  | _ length induction =>
      subst length
      by_cases closes : cursor.IsClosing
      · exact ⟨[], cursor, [], .nil closes⟩
      -- Only here is a statement sure to read a token; a call of an `if` may read none.
      obtain ⟨first, middle, events, head⟩ := each cursor (.refl cursor)
      obtain ⟨rest, next, others, tail⟩ :=
        induction _ (head.goesOn.precedes closes).length_lt
          (fun other leads => each other (head.goesOn.leadsTo.trans leads)) rfl
      exact ⟨first :: rest, next, _, .cons closes head tail⟩

theorem ends_of_leftBrace {cursor : Cursor} (here : cursor.peek? = some .leftBrace)
    (nested : ∀ next, cursor.advance.LeadsTo next → Ends next) : Ends cursor := by
  obtain ⟨statements, middle, events, all⟩ := exists_readManyTo nested
  by_cases closes : middle.peek? = some .rightBrace
  · exact ⟨_, _, _, .block here all closes⟩
  · obtain ⟨next, others, recovers⟩ := middle.exists_recoversTo
    exact ⟨_, _, _, .unclosed here all closes recovers⟩

/-- What a statement calls for is called for behind its first token. -/
theorem ends (cursor : Cursor) : Ends cursor := by
  -- Nothing nests at a place where no token is read first, so the tokens left are the measure.
  induction length : cursor.rest.length using Nat.strong_induction_on generalizing cursor with
  | _ length induction =>
      subst length
      have nested {token : Token} (here : cursor.peek? = some token) (next : Cursor)
          (leads : cursor.advance.LeadsTo next) : Ends next :=
        induction _ ((Cursor.precedes_advance here).trans_leadsTo leads).length_lt next rfl
      by_cases sign : ∃ token ∈ signs, cursor.peek? = some token
      · obtain ⟨token, member, here⟩ := sign
        simp only [signs, List.mem_cons, List.not_mem_nil, or_false] at member
        rcases member with rfl | rfl | rfl | rfl | rfl | rfl
        · exact ⟨_, _, _, .empty here⟩
        · obtain ⟨statement, next, events, completes⟩ := exists_completesTo
            (afterValue .semicolonAfterPrint print (Expression.read cursor.advance))
          exact ⟨_, _, _, .print here (Expression.readsTo_read _) completes⟩
        · obtain ⟨statement, next, events, completes⟩ :=
            exists_completesTo (readInput cursor.advance)
          exact ⟨_, _, _, .input here completes⟩
        · exact ends_of_if here (nested here)
        · exact ends_of_leftBrace here (nested here)
        · obtain ⟨next, events, recovers⟩ := cursor.exists_recoversTo
          exact ⟨_, _, _, .strayElse here recovers⟩
      · obtain ⟨statement, next, events, completes⟩ := exists_completesTo
          (afterValue .semicolonAfterExpression evaluate (Expression.read cursor))
        exact ⟨_, _, _, .evaluate (fun token member here => sign ⟨token, member, here⟩)
          (Expression.readsTo_read cursor) completes⟩

end Statement

/-! ## Scripts -/

namespace Script

variable {cursor next : Cursor} {statements : List Statement} {events : List Event}

theorem exists_readManyTo (cursor : Cursor) :
    ∃ statements next events, ReadManyTo cursor statements next events := by
  induction length : cursor.rest.length using Nat.strong_induction_on generalizing cursor with
  | _ length induction =>
      subst length
      by_cases ended : cursor.atEnd = true
      · exact ⟨[], cursor, [], .nil ended⟩
      by_cases here : cursor.peek? = some .rightBrace
      · obtain ⟨rest, next, events, tail⟩ :=
          induction _ (Cursor.precedes_advance here).length_lt cursor.advance rfl
        exact ⟨_, next, _, .stray here tail⟩
      have begins : ¬cursor.IsClosing := by
        rw [Cursor.isClosing_iff, not_or]
        exact ⟨ended, here⟩
      obtain ⟨first, middle, events, head⟩ := Statement.ends cursor
      obtain ⟨rest, next, others, tail⟩ :=
        induction _ (head.goesOn.precedes begins).length_lt middle rfl
      exact ⟨first :: rest, next, _, .cons begins head tail⟩

theorem ReadManyTo.advances (all : ReadManyTo cursor statements next events) :
    ∀ event ∈ events, event.Advances := by
  induction all with
  | nil ended => exact List.forall_mem_nil _
  | stray here tail induction =>
      exact List.forall_mem_cons.2 ⟨fun _ => Cursor.precedes_advance here, induction⟩
  | cons begins head tail induction =>
      exact head.advances_turn begins .script .script
        (List.forall_mem_append.2 ⟨head.advances, induction⟩)

theorem ReadManyTo.readMany_eq (all : ReadManyTo cursor statements next events) {count : Nat}
    (enough : cursor.rest.length ≤ count) : readMany count cursor = (statements, next) := by
  induction all generalizing count with
  | nil ended =>
      cases count with
      | zero => rfl
      | succ count => rw [readMany, if_pos ended]
  | @stray cursor next rest events here tail induction =>
      have fewer := (Cursor.precedes_advance here).length_lt
      obtain ⟨count, rfl⟩ := Nat.exists_eq_succ_of_ne_zero (n := count) (by omega)
      have goesOn : ¬cursor.atEnd = true := by simp [Cursor.atEnd, here]
      have further : readMany count cursor.advance = (rest, next) := induction (by omega)
      rw [readMany, if_neg goesOn, readStatement, if_pos here]
      simp only [further]
  | @cons cursor middle next first rest events others begins head tail induction =>
      have fewer := (head.goesOn.precedes begins).length_lt
      obtain ⟨count, rfl⟩ := Nat.exists_eq_succ_of_ne_zero (n := count) (by omega)
      have further : readMany count middle = (rest, next) := induction (by omega)
      rw [Cursor.isClosing_iff, not_or] at begins
      rw [readMany, if_neg begins.1, readStatement, if_neg begins.2, head.read_eq]
      simp only [further]

/-- What is read by the rules is what the tokens make up. -/
theorem ReadManyTo.ofTokens_eq {tokens : List PlacedToken} {last : Cursor}
    (all : ReadManyTo (.start tokens) statements last events) :
    ofTokens tokens = ⟨statements, last.nodeLine⟩ := by
  have read : readMany tokens.length (.start tokens) = _ := all.readMany_eq (Nat.le_refl _)
  rw [ofTokens, read]

/-- Whatever tokens there are, they are read to an end by the rules, which know no bounds, and what
comes of it is always the script that the tokens make up. On the way, every call for a statement
reads a token, but for those that an `if` in front of them makes where nothing begins; a recovery
skips neither the end of the script nor a closing brace; and a turn of a loop reads a token or is
the last one. -/
theorem readsTo_ofTokens (tokens : List PlacedToken) :
    (∃ events, ReadsTo tokens (ofTokens tokens) events) ∧
      ∀ script events, ReadsTo tokens script events →
        script = ofTokens tokens ∧ ∀ event ∈ events, event.Advances := by
  constructor
  · obtain ⟨statements, last, events, all⟩ := exists_readManyTo (.start tokens)
    exact ⟨events, all.ofTokens_eq ▸ .intro all⟩
  · rintro script events ⟨all⟩
    exact ⟨all.ofTokens_eq.symm, all.advances⟩

end Script

end StackScript
