import StackScript.Machine.Trace
import StackScript.Proofs.Machine.Bounds

/-!
# Counted steps

The trace of a run shows the instructions that are begun within bounds: those that the turns of the
run lead to while the bounds hold. A step is counted before the bounds are looked at, so the
instruction at which a run ends for a bound is counted although it is not begun. That is the only
difference between the number of steps and the length of the trace.
-/

namespace StackScript.Machine

open Heights

/-- Whether a fault is that of a bound. -/
def Fault.isLimit : Fault → Bool
  | stackLimit _ | cellLimit _ => true
  | _ => false

/-- The number of instructions that were refused for a bound, which is the last one or none. -/
def Outcome.refused (outcome : Outcome) : Nat :=
  match outcome.result with
  | .ok () => 0
  | .error fault => if fault.isLimit then 1 else 0

theorem Exceeds.isLimit {limits : Limits} {state : State} {fault : Fault}
    (exceeds : Exceeds limits state fault) : fault.isLimit = true := by
  cases exceeds <;> rfl

theorem Exceeds.not_within {limits : Limits} {state : State} {fault : Fault}
    (exceeds : Exceeds limits state fault) : ¬Within limits state := by
  intro within
  cases exceeds with
  | stack high => exact Nat.not_lt_of_le within.stack high
  | cells large => exact Nat.not_lt_of_le within.cells large

/-- What an instruction refuses by itself is never a bound. -/
theorem Refuses.isLimit_eq_false {ip : Nat} {state : State} {instruction : Instruction}
    {fault : Fault} (refuses : Refuses ip state instruction fault) : fault.isLimit = false := by
  cases refuses <;> rfl

/-! ## One instruction -/

section Instruction

variable {limits : Limits} {ip : Nat} {state next : State} {instruction : Instruction}
variable {fault : Fault} {rest : List Instruction}

theorem run_begin_of_within (within : Within limits state) :
    (begin limits).run state = .ok () state.begun := by
  rw [run_begin, if_neg (Nat.not_lt_of_le within.stack), if_neg (Nat.not_lt_of_le within.cells)]

theorem run_begin_of_not_within (outside : ¬Within limits state) :
    ∃ fault, Exceeds limits state fault ∧ (begin limits).run state = .error fault state.begun := by
  rw [run_begin]
  by_cases high : limits.stack < state.stack.length
  · exact ⟨_, .stack high, if_pos high⟩
  · have large : limits.cells < state.pool.size := by
      by_contra fits
      exact outside ⟨Nat.le_of_not_lt high, Nat.le_of_not_lt fits⟩
    exact ⟨_, .cells large, by rw [if_neg high, if_pos large]⟩

/-- Where a bound does not hold, the next instruction is not begun. -/
theorem run_attempt_of_not_within (ip : Nat) (instruction : Instruction)
    (outside : ¬Within limits state) :
    ∃ fault, fault.isLimit = true ∧
      (attempt limits ip instruction).run state = .error fault state.begun := by
  obtain ⟨fault, exceeds, refused⟩ := run_begin_of_not_within outside
  exact ⟨fault, exceeds.isLimit, by rw [attempt, EStateM.run_bind, refused]⟩

/-- An attempt fails for a bound exactly where one does not hold. -/
theorem isLimit_iff_of_attempt
    (failed : (attempt limits ip instruction).run state = .error fault next) :
    fault.isLimit = true ↔ ¬Within limits state := by
  constructor
  · intro isLimit within
    rcases (refuses_of_attempt failed).2 with ⟨-, exceeds⟩ | refuses
    · exact exceeds.not_within within
    · rw [refuses.isLimit_eq_false] at isLimit
      contradiction
  · intro outside
    obtain ⟨limit, isLimit, refused⟩ := run_attempt_of_not_within ip instruction outside
    rw [refused, EStateM.Result.error.injEq] at failed
    exact failed.1 ▸ isLimit

/-- An instruction that is begun within bounds is shown, and then those that it leads to. -/
theorem visitsFrom_of_within (within : Within limits state) :
    visitsFrom limits ip 0 (instruction :: rest) state =
      ⟨ip, instruction, state.stack⟩ ::
        match (step limits ip instruction).run state with
        | .error _ _ => []
        | .ok skipped next => visitsFrom limits (ip + 1) skipped rest next := by
  rw [visitsFrom, run_begin_of_within within]
  rfl

theorem visitsFrom_of_not_within (outside : ¬Within limits state) :
    visitsFrom limits ip 0 (instruction :: rest) state = [] := by
  obtain ⟨fault, -, refused⟩ := run_begin_of_not_within outside
  rw [visitsFrom, refused]

end Instruction

/-! ## Runs -/

/-- A run counts the instructions that it shows, and the one that it is refused for a bound. -/
theorem steps_runFrom (limits : Limits) (ip skipped : Nat) (rest : List Instruction)
    (state : State) :
    let ended := Outcome.of (runFrom limits ip skipped rest) state
    ended.state.steps =
      state.steps + (visitsFrom limits ip skipped rest state).length + ended.refused := by
  induction rest generalizing ip skipped state with
  | nil => cases skipped <;> rfl
  | cons instruction rest induction =>
      cases skipped with
      | succ skipped => exact induction (ip + 1) skipped state
      | zero =>
          rw [outcome_runFrom_cons]
          by_cases within : Within limits state
          · rw [visitsFrom_of_within within, run_step]
            cases done : (attempt limits ip instruction).run state with
            | error fault next =>
                have other : fault.isLimit ≠ true := fun isLimit =>
                  (isLimit_iff_of_attempt done).1 isLimit within
                have steps := (refuses_of_attempt done).1
                simpa [Outcome.refused, other] using steps
            | ok distance next =>
                have steps : next.steps = state.steps + 1 :=
                  (executes_of_attempt done).1.steps_eq
                by_cases forward : 0 < distance
                · have further := induction (ip + 1) (distance.toNat - 1) next
                  simp only [if_pos forward, List.length_cons] at further ⊢
                  omega
                · simpa [forward, Outcome.refused, Fault.isLimit] using steps
          · obtain ⟨fault, isLimit, refused⟩ :=
              run_attempt_of_not_within ip instruction within
            rw [visitsFrom_of_not_within within, run_step, refused]
            simp [Outcome.refused, isLimit, State.begun]

/-- The instructions that are shown come one behind the other. -/
theorem pairwise_visitsFrom (limits : Limits) (ip skipped : Nat) (rest : List Instruction)
    (state : State) :
    (∀ visit ∈ visitsFrom limits ip skipped rest state, ip ≤ visit.ip) ∧
      (visitsFrom limits ip skipped rest state).Pairwise (·.ip < ·.ip) := by
  induction rest generalizing ip skipped state with
  | nil => cases skipped <;> exact ⟨List.forall_mem_nil _, .nil⟩
  | cons instruction rest induction =>
      cases skipped with
      | succ skipped =>
          obtain ⟨behind, increasing⟩ := induction (ip + 1) skipped state
          exact ⟨fun visit member => Nat.le_of_succ_le (behind visit member), increasing⟩
      | zero =>
          by_cases within : Within limits state
          · rw [visitsFrom_of_within within]
            cases (step limits ip instruction).run state with
            | error fault next =>
                exact ⟨List.forall_mem_singleton.2 (Nat.le_refl ip), List.pairwise_singleton _ _⟩
            | ok skipped next =>
                obtain ⟨behind, increasing⟩ := induction (ip + 1) skipped next
                exact ⟨List.forall_mem_cons.2 ⟨Nat.le_refl ip,
                  fun visit member => Nat.le_of_succ_le (behind visit member)⟩,
                  List.pairwise_cons.2 ⟨behind, increasing⟩⟩
          · rw [visitsFrom_of_not_within within]
            exact ⟨List.forall_mem_nil _, .nil⟩

/-- A configuration in which an instruction is begun within bounds, as it is shown. -/
structure Shown (code : List Instruction) (limits : Limits) (config : Config) (visit : Visit) :
    Prop where
  ip : visit.ip = config.ip
  found : code[config.ip]? = some visit.instruction
  stack : visit.stack = config.state.stack
  within : Within limits config.state

section Turns

variable {limits : Limits} {code : List Instruction} {start config : Config} {visit : Visit}

/-- Where a run halts, there is no turn. -/
theorem Halts.not_turn {result : Except Fault Unit} {left : State} {next : Config}
    (halts : Halts limits code config result left) : ¬Turn limits code config next := by
  intro turn
  cases halts with
  | finished behind => exact not_turn_of_length_le behind turn
  | faulted found failed =>
      cases turn with
      | intro found' done lands =>
          obtain rfl := Option.some.inj (found.symm.trans found')
          rw [failed] at done
          contradiction
  | left found done negative =>
      cases turn with
      | intro found' done' lands =>
          obtain rfl := Option.some.inj (found.symm.trans found')
          rw [done, EStateM.Result.ok.injEq] at done'
          omega

/-- From a configuration within bounds on, its own instruction is shown, and what is shown behind
the turn. -/
theorem exists_shown_iff {instruction : Instruction} (found : code[config.ip]? = some instruction)
    (within : Within limits config.state) :
    (∃ later, Reaches limits code config later ∧ Shown code limits later visit) ↔
      visit = ⟨config.ip, instruction, config.state.stack⟩ ∨
        ∃ next, Turn limits code config next ∧
          ∃ later, Reaches limits code next later ∧ Shown code limits later visit := by
  constructor
  · rintro ⟨later, onward, shown⟩
    rcases onward.cases_head with rfl | ⟨next, turn, further⟩
    · left
      obtain ⟨ip, shownInstruction, stack⟩ := visit
      obtain ⟨rfl, there, rfl, -⟩ := shown
      obtain rfl : instruction = shownInstruction := Option.some.inj (found.symm.trans there)
      rfl
    · exact .inr ⟨next, turn, later, further, shown⟩
  · rintro (rfl | ⟨next, turn, later, further, shown⟩)
    · exact ⟨config, .refl, rfl, found, rfl, within⟩
    · exact ⟨later, .head turn further, shown⟩

/-- Where there is no turn and no instruction is begun within bounds, nothing is shown. -/
theorem not_exists_shown (stuck : ∀ next, ¬Turn limits code config next)
    (hidden : ¬Shown code limits config visit) :
    ¬∃ later, Reaches limits code config later ∧ Shown code limits later visit := by
  rintro ⟨later, onward, shown⟩
  rcases onward.cases_head with rfl | ⟨next, turn, -⟩
  · exact hidden shown
  · exact stuck next turn

/-- What holds behind some turn holds behind the turn that there is. -/
theorem Turn.exists_and_iff {next : Config} {holds : Config → Prop}
    (turn : Turn limits code config next) :
    (∃ other, Turn limits code config other ∧ holds other) ↔ holds next := by
  constructor
  · rintro ⟨other, turn', there⟩
    exact turn.unique turn' ▸ there
  · exact fun there => ⟨next, turn, there⟩

/-- Where turns only go forward, what is shown from a reachable configuration on is what the turns
from there lead to. -/
theorem mem_visitsFrom_iff
    (forward : ∀ {config next}, Reaches limits code start config → Turn limits code config next →
      config.ip < next.ip)
    {ip skipped : Nat} {rest : List Instruction} {state : State} (behind : code.drop ip = rest)
    (reach : Reaches limits code start ⟨ip + skipped, state⟩) :
    visit ∈ visitsFrom limits ip skipped rest state ↔
      ∃ config, Reaches limits code ⟨ip + skipped, state⟩ config ∧
        Shown code limits config visit := by
  induction rest generalizing ip skipped state with
  | nil =>
      have ended : code.length ≤ ip + skipped :=
        Nat.le_add_right_of_le (List.drop_eq_nil_iff.1 behind)
      have nothing : visitsFrom limits ip skipped [] state = [] := by cases skipped <;> rfl
      rw [nothing]
      refine iff_of_false List.not_mem_nil (not_exists_shown ?_ ?_)
      · exact fun next => not_turn_of_length_le ended
      · intro shown
        have found := shown.found
        rw [List.getElem?_eq_none ended] at found
        contradiction
  | cons instruction rest induction =>
      obtain ⟨found, later⟩ := drop_eq_cons behind
      cases skipped with
      | succ skipped =>
          rw [← Nat.add_assoc, Nat.add_right_comm] at reach ⊢
          exact induction later reach
      | zero =>
          by_cases within : Within limits state
          · rw [visitsFrom_of_within within, exists_shown_iff found within, List.mem_cons]
            refine or_congr_right ?_
            rw [run_step]
            cases done : (attempt limits ip instruction).run state with
            | error fault left =>
                refine iff_of_false List.not_mem_nil ?_
                rintro ⟨next, turn, -⟩
                exact Halts.not_turn (.faulted found done) turn
            | ok distance left =>
                by_cases negative : ip + distance < 0
                · have stuck : ¬0 < distance := by omega
                  simp only [if_neg stuck]
                  refine iff_of_false List.not_mem_nil ?_
                  rintro ⟨next, turn, -⟩
                  exact Halts.not_turn (.left found done negative) turn
                · have turn : Turn limits code ⟨ip, state⟩ ⟨(ip + distance).toNat, left⟩ :=
                    .intro found done (Int.toNat_of_nonneg (Int.not_lt.1 negative))
                  have further : ip < (ip + distance).toNat := forward reach turn
                  have positive : 0 < distance := by omega
                  have target : ip + 1 + (distance.toNat - 1) = (ip + distance).toNat := by omega
                  have onward := reach.tail turn
                  rw [← target] at turn onward
                  simp only [if_pos positive]
                  refine (induction later onward).trans (Iff.symm ?_)
                  exact turn.exists_and_iff
          · rw [visitsFrom_of_not_within within]
            refine iff_of_false List.not_mem_nil (not_exists_shown ?_ ?_)
            · exact fun next turn => within turn.within
            · exact fun shown => within shown.within

/-- The trace of an accepted program shows what its turns lead to. -/
theorem mem_visits_iff {program : Program} {heights : List (Option Nat)} {input : InputStream}
    {output : OutputStream}
    (accepted : Instruction.heights program.code program.cells.length = .ok heights) :
    visit ∈ visits limits program input output ↔
      ∃ config, Reaches limits program.code (.start program input output) config ∧
        Shown program.code limits config visit := by
  have forward {config next : Config}
      (reach : Reaches limits program.code (.start program input output) config)
      (turn : Turn limits program.code config next) : config.ip < next.ip :=
    (turn.safe accepted (reach.safe accepted)).1
  have checked := check_eq_ok_iff.2 ⟨heights, accepted⟩
  simp only [visits, checked]
  exact mem_visitsFrom_iff forward rfl .refl

/-- A run is refused an instruction for a bound exactly if it gets to one where a bound does not
hold. -/
theorem refused_eq_one_iff {last : Config} {outcome : Outcome}
    (reach : Reaches limits code start last)
    (halts : Halts limits code last outcome.result outcome.state) :
    outcome.refused = 1 ↔
      ∃ config, Reaches limits code start config ∧ config.ip < code.length ∧
        ¬Within limits config.state := by
  have atLast : outcome.refused = 1 ↔ last.ip < code.length ∧ ¬Within limits last.state := by
    obtain ⟨result, left⟩ := outcome
    cases halts with
    | finished behind =>
        exact iff_of_false Nat.zero_ne_one fun inside => Nat.not_lt_of_le behind inside.1
    | faulted found failed =>
        have inside := (List.getElem?_eq_some_iff.1 found).1
        rw [← isLimit_iff_of_attempt failed, Outcome.refused]
        simp [inside]
    | left found done negative =>
        obtain ⟨-, stack, cells⟩ := executes_of_attempt done
        exact iff_of_false Nat.zero_ne_one fun inside => inside.2 ⟨stack, cells⟩
  rw [atLast]
  constructor
  · exact fun inside => ⟨last, reach, inside⟩
  · rintro ⟨config, reach', inside, outside⟩
    -- Neither configuration has a turn, so they are the same one.
    have determined : Relator.RightUnique (Turn limits code) := fun _ _ _ => Turn.unique
    rcases eq_or_step determined reach' reach fun _ => halts.not_turn with same | ⟨next, turn⟩
    · exact same ▸ ⟨inside, outside⟩
    · exact absurd turn.within outside

end Turns

/-! ## Programs -/

/-- The instructions that a run shows are those that its turns lead to within bounds, one behind the
other. Its steps are as many, and one more if it ends at an instruction where a bound does not hold;
a program that is refused takes none. -/
theorem steps_eq_length_visits (limits : Limits) (program : Program) (input : InputStream)
    (output : OutputStream) :
    let shown := visits limits program input output
    let start := Config.start program input output
    let refused := (runChecked limits program input output).refused
    (program.check ≠ .ok () → shown = [] ∧ (run limits program input output).state.steps = 0) ∧
      (program.check = .ok () →
        (run limits program input output).state.steps = shown.length + refused ∧
        (refused = 1 ↔ ∃ config, Reaches limits program.code start config ∧
          config.ip < program.code.length ∧ ¬Within limits config.state) ∧
        (∀ visit, visit ∈ shown ↔ ∃ config, Reaches limits program.code start config ∧
          Shown program.code limits config visit) ∧
        shown.Pairwise (·.ip < ·.ip)) := by
  intro shown start refused
  constructor
  · intro other
    cases checked : program.check with
    | ok _ => exact absurd checked other
    | error fault =>
        refine ⟨?_, ?_⟩
        · simp only [shown, visits, checked]
        · simp only [run, checked, State.initial]
  · intro accepted
    obtain ⟨heights, found⟩ := check_eq_ok_iff.1 accepted
    have begun : shown = visitsFrom limits 0 0 program.code start.state := by
      simp only [shown, visits, accepted]
      rfl
    obtain ⟨last, reach, halts⟩ := runChecked_halts_of_accepted limits input output found
    refine ⟨?_, refused_eq_one_iff reach halts, fun visit => mem_visits_iff found, ?_⟩
    · rw [run_eq_flushed limits accepted input output, begun]
      exact (steps_runFrom limits 0 0 program.code start.state).trans
        (congrArg (· + refused) (Nat.zero_add _))
    · rw [begun]
      exact (pairwise_visitsFrom limits 0 0 program.code _).2

/-- A program that takes off a value where there is none. -/
def discarding : Program := ⟨[.discard], []⟩

theorem steps_eq_length_visits_pushing :
    pushing.check = .ok () ∧ discarding.check ≠ .ok () ∧
      (run ⟨0, 2⟩ pushing (.ofBytes []) .unbounded).state.steps =
        (visits ⟨0, 2⟩ pushing (.ofBytes []) .unbounded).length + 1 ∧
      (∃ config, Reaches ⟨0, 2⟩ pushing.code (.start pushing (.ofBytes []) .unbounded) config ∧
        config.ip < 2 ∧ ¬Within ⟨0, 2⟩ config.state) ∧
      (run .standard discarding (.ofBytes []) .unbounded).state.steps = 0 := by
  have accepted : pushing.check = .ok () := rfl
  have other : discarding.check ≠ .ok () := by decide
  obtain ⟨-, bounded⟩ := steps_eq_length_visits ⟨0, 2⟩ pushing (.ofBytes []) .unbounded
  obtain ⟨none, -⟩ := steps_eq_length_visits .standard discarding (.ofBytes []) .unbounded
  obtain ⟨counted, refused, -⟩ := bounded accepted
  exact ⟨accepted, other, counted, refused.1 rfl, (none other).2⟩

/-- The steps of a run are not always as many as the instructions that are begun within bounds. -/
theorem not_steps_eq_length_visits :
    ¬∀ (limits : Limits) (program : Program) (input : InputStream) (output : OutputStream),
      (run limits program input output).state.steps =
        (visits limits program input output).length := by
  intro holds
  exact absurd (holds ⟨0, 2⟩ pushing (.ofBytes []) .unbounded) (by decide)

end StackScript.Machine
