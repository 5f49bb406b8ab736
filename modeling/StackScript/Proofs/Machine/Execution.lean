import Mathlib.Logic.Relation
import StackScript.Proofs.Machine.Instructions
import StackScript.Proofs.Placement

/-!
# Runs, one instruction at a time

A configuration is an instruction number with the state that the machine is in. A turn does the
instruction of that number and goes on where it leads; a configuration without a turn halts, behind
the last instruction or at a fault. On code whose turns only go forward, `runFrom` ends just where
the turns do.
-/

namespace StackScript.Machine

/-- Where a run stands between two instructions. -/
structure Config where
  /-- The number of the next instruction. -/
  ip : Nat
  /-- The state of the machine. -/
  state : State

/-- The configuration in which a program is loaded. -/
def Config.start (program : Program) (input : InputStream) (output : OutputStream) : Config :=
  ⟨0, .loaded program input output⟩

/-- Begin an instruction and do it, and answer how far off the next one is. -/
def attempt (limits : Limits) (ip : Nat) (instruction : Instruction) : Action Int := do
  begin limits
  execute ip instruction

/-- An instruction is done, and the next one is at the distance that it answers. -/
inductive Turn (limits : Limits) (code : List Instruction) : Config → Config → Prop
  | intro {ip target : Nat} {state next : State} {instruction : Instruction} {distance : Int}
      (found : code[ip]? = some instruction)
      (done : (attempt limits ip instruction).run state = .ok distance next)
      (lands : (target : Int) = ip + distance) : Turn limits code ⟨ip, state⟩ ⟨target, next⟩

/-- Some turns lead from one configuration to another. -/
def Reaches (limits : Limits) (code : List Instruction) : Config → Config → Prop :=
  Relation.ReflTransGen (Turn limits code)

/-- Where each step is determined, whatever is reached is where all steps end, or it has a step. -/
theorem eq_or_step {α : Type} {step : α → α → Prop} (determined : Relator.RightUnique step)
    {start here last : α} (reach : Relation.ReflTransGen step start here)
    (finish : Relation.ReflTransGen step start last) (stuck : ∀ next, ¬step last next) :
    here = last ∨ ∃ next, step here next := by
  rcases Relation.ReflTransGen.total_of_right_unique determined reach finish with onward | onward
  · rcases onward.cases_head with same | ⟨next, taken, -⟩
    · exact .inl same
    · exact .inr ⟨next, taken⟩
  · rcases onward.cases_head with same | ⟨next, taken, -⟩
    · exact .inl same.symm
    · exact absurd taken (stuck next)

/-- A configuration in which a run ends, with its result and the state that is left. -/
inductive Halts (limits : Limits) (code : List Instruction) :
    Config → Except Fault Unit → State → Prop
  | finished {ip : Nat} {state : State} (behind : code.length ≤ ip) :
      Halts limits code ⟨ip, state⟩ (.ok ()) state
  | faulted {ip : Nat} {state next : State} {instruction : Instruction} {fault : Fault}
      (found : code[ip]? = some instruction)
      (failed : (attempt limits ip instruction).run state = .error fault next) :
      Halts limits code ⟨ip, state⟩ (.error fault) next
  | left {ip : Nat} {state next : State} {instruction : Instruction} {distance : Int}
      (found : code[ip]? = some instruction)
      (done : (attempt limits ip instruction).run state = .ok distance next)
      (negative : ip + distance < 0) :
      Halts limits code ⟨ip, state⟩ (.error (.jumpOutOfBounds ip)) next

/-- The state once an instruction has been begun. -/
def State.begun (state : State) : State :=
  { state with steps := state.steps + 1 }

/-- A bound that does not hold when an instruction is begun. -/
inductive Exceeds (limits : Limits) (state : State) : Fault → Prop
  | stack (high : limits.stack < state.stack.length) :
      Exceeds limits state (.stackLimit limits.stack)
  | cells (large : limits.cells < state.pool.size) :
      Exceeds limits state (.cellLimit limits.cells)

/-- An instruction is begun unless a bound does not hold. -/
theorem run_begin (limits : Limits) (state : State) :
    (begin limits).run state =
      if limits.stack < state.stack.length then .error (.stackLimit limits.stack) state.begun
      else if limits.cells < state.pool.size then .error (.cellLimit limits.cells) state.begun
      else .ok () state.begun := by
  by_cases high : limits.stack < state.stack.length
  · simp [begin, high, State.begun]
  · by_cases large : limits.cells < state.pool.size
    · simp [begin, high, large, State.begun]
    · simp [begin, high, large, State.begun]

theorem begin_ends (limits : Limits) (state : State) :
    Ends (begin limits) state
      (fun _ next => next = state.begun ∧
        state.stack.length ≤ limits.stack ∧ state.pool.size ≤ limits.cells)
      (fun fault next => next = state.begun ∧ Exceeds limits state fault) := by
  unfold Ends
  rw [run_begin]
  by_cases high : limits.stack < state.stack.length
  · rw [if_pos high]
    exact ⟨rfl, .stack high⟩
  · by_cases large : limits.cells < state.pool.size
    · rw [if_neg high, if_pos large]
      exact ⟨rfl, .cells large⟩
    · rw [if_neg high, if_neg large]
      exact ⟨rfl, Nat.le_of_not_lt high, Nat.le_of_not_lt large⟩

/-- An instruction that is begun is done by its rule, or a bound does not hold, or it refuses. -/
theorem attempt_ends (limits : Limits) (ip : Nat) (state : State) (instruction : Instruction) :
    Ends (attempt limits ip instruction) state
      (fun distance next => Executes state.begun instruction distance next ∧
        state.stack.length ≤ limits.stack ∧ state.pool.size ≤ limits.cells)
      (fun fault next => next.steps = state.steps + 1 ∧ next.pool = state.pool ∧
        (next = state.begun ∧ Exceeds limits state fault ∨
          Refuses ip state.begun instruction fault)) := by
  refine ends_bind ((begin_ends limits state).imp ?_ fun fault next stopped =>
    ⟨by rw [stopped.1]; rfl, by rw [stopped.1]; rfl, .inl stopped⟩)
  rintro _ _ ⟨rfl, within⟩
  exact (execute_ends ip state.begun instruction).imp (fun _ _ rule => ⟨rule, within⟩)
    fun _ _ refused => ⟨refused.steps, refused.pool, .inr refused.reason⟩

theorem executes_of_attempt {limits : Limits} {ip : Nat} {state next : State}
    {instruction : Instruction} {distance : Int}
    (done : (attempt limits ip instruction).run state = .ok distance next) :
    Executes state.begun instruction distance next ∧
      state.stack.length ≤ limits.stack ∧ state.pool.size ≤ limits.cells := by
  have ended := attempt_ends limits ip state instruction
  simpa only [Ends, done] using ended

theorem refuses_of_attempt {limits : Limits} {ip : Nat} {state next : State}
    {instruction : Instruction} {fault : Fault}
    (failed : (attempt limits ip instruction).run state = .error fault next) :
    next.steps = state.steps + 1 ∧
      (next = state.begun ∧ Exceeds limits state fault ∨
        Refuses ip state.begun instruction fault) := by
  have ended := attempt_ends limits ip state instruction
  simp only [Ends, failed] at ended
  exact ⟨ended.1, ended.2.2⟩

/-- An instruction that faults leaves the memory as it was. -/
theorem pool_of_attempt {limits : Limits} {ip : Nat} {state next : State}
    {instruction : Instruction} {fault : Fault}
    (failed : (attempt limits ip instruction).run state = .error fault next) :
    next.pool = state.pool := by
  have ended := attempt_ends limits ip state instruction
  simp only [Ends, failed] at ended
  exact ended.2.1

/-- Each turn is a step. -/
theorem Turn.steps_eq {limits : Limits} {code : List Instruction} {config next : Config}
    (turn : Turn limits code config next) : next.state.steps = config.state.steps + 1 := by
  cases turn with
  | intro found done lands => exact (executes_of_attempt done).1.steps_eq

/-- What holds at the start and is kept by each turn from a reachable configuration holds at every
reachable configuration. -/
theorem Reaches.induct {limits : Limits} {code : List Instruction} {start : Config}
    (holds : Config → Prop) (first : holds start)
    (turns : ∀ {config next}, Reaches limits code start config → holds config →
      Turn limits code config next → holds next) {config : Config}
    (reach : Reaches limits code start config) : holds config := by
  induction reach with
  | refl => exact first
  | tail earlier turn induction => exact turns earlier induction turn

/-! ## Runs and turns -/

section Forward

variable {limits : Limits} {code : List Instruction} {start : Config}

/-- A step is an attempt that has to lead forward. -/
theorem run_step (limits : Limits) (ip : Nat) (instruction : Instruction) (state : State) :
    (step limits ip instruction).run state =
      match (attempt limits ip instruction).run state with
      | .ok distance next =>
          if 0 < distance then .ok (distance.toNat - 1) next else .error (.jumpOutOfBounds ip) next
      | .error fault next => .error fault next := by
  simp only [step, attempt, EStateM.run_bind]
  cases (begin limits).run state with
  | error fault next => rfl
  | ok _ next =>
      simp only
      cases (execute ip instruction).run next with
      | error fault next => rfl
      | ok distance next =>
          simp only
          split <;> rfl

/-- A run does the next instruction, and goes on behind the instructions that it passes over. -/
theorem outcome_runFrom_cons (limits : Limits) (ip : Nat) (instruction : Instruction)
    (rest : List Instruction) (state : State) :
    Outcome.of (runFrom limits ip 0 (instruction :: rest)) state =
      match (step limits ip instruction).run state with
      | .ok skipped next => Outcome.of (runFrom limits (ip + 1) skipped rest) next
      | .error fault next => ⟨.error fault, next⟩ := by
  rw [runFrom, Outcome.of, EStateM.run_bind]
  cases (step limits ip instruction).run state with
  | ok skipped next => rfl
  | error fault next => rfl

/-- Where turns only go forward, a run from a reachable configuration ends in a configuration that
can be reached and that halts. -/
theorem runFrom_halts
    (forward : ∀ {config next}, Reaches limits code start config → Turn limits code config next →
      config.ip < next.ip)
    (rest : List Instruction) (ip skipped : Nat) (state : State) (behind : code.drop ip = rest)
    (reach : Reaches limits code start ⟨ip + skipped, state⟩) :
    ∃ config, Reaches limits code start config ∧
      Halts limits code config (Outcome.of (runFrom limits ip skipped rest) state).result
        (Outcome.of (runFrom limits ip skipped rest) state).state := by
  induction rest generalizing ip skipped state with
  | nil =>
      have ended : code.length ≤ ip := List.drop_eq_nil_iff.1 behind
      exact ⟨_, reach, .finished (Nat.le_add_right_of_le ended)⟩
  | cons instruction rest induction =>
      obtain ⟨found, later⟩ := drop_eq_cons behind
      cases skipped with
      | succ skipped =>
          refine induction (ip + 1) skipped state later ?_
          rwa [Nat.add_right_comm, Nat.add_assoc]
      | zero =>
          rw [outcome_runFrom_cons, run_step]
          cases done : (attempt limits ip instruction).run state with
          | error fault next => exact ⟨_, reach, .faulted found done⟩
          | ok distance next =>
              by_cases negative : ip + distance < 0
              · have stuck : ¬ 0 < distance := by omega
                simp only [if_neg stuck]
                exact ⟨_, reach, .left found done negative⟩
              · have turn : Turn limits code ⟨ip, state⟩ ⟨(ip + distance).toNat, next⟩ :=
                  .intro found done (Int.toNat_of_nonneg (Int.not_lt.1 negative))
                have further : ip < (ip + distance).toNat := forward reach turn
                have positive : 0 < distance := by omega
                simp only [if_pos positive]
                refine induction (ip + 1) (distance.toNat - 1) next later ?_
                have target : ip + 1 + (distance.toNat - 1) = (ip + distance).toNat := by omega
                rw [target]
                exact reach.tail turn

end Forward

/-- Where the turns of an accepted program only go forward, its run ends where the turns do. -/
theorem runChecked_halts {limits : Limits} {program : Program} {input : InputStream}
    {output : OutputStream}
    (forward : ∀ {config next}, Reaches limits program.code (.start program input output) config →
      Turn limits program.code config next → config.ip < next.ip) :
    ∃ config, Reaches limits program.code (.start program input output) config ∧
      Halts limits program.code config (runChecked limits program input output).result
        (runChecked limits program input output).state :=
  runFrom_halts forward program.code 0 0 _ rfl .refl

/-- What a run comes to when what has been written is handed on at its end: the flush changes the
output only, and it replaces the result only if it fails. -/
def Outcome.flushed (ended : Outcome) : Outcome where
  result :=
    match ended.state.output.flush.1 with
    | .ok () => ended.result
    | .error fault => .error (.stream fault)
  state := { ended.state with output := ended.state.output.flush.2 }

/-- The last flush keeps the result unless it fails itself. -/
theorem Outcome.flushed_cases (ended : Outcome) :
    ended.flushed.result = ended.result ∨
      ∃ fault, ended.state.output.flush.1 = .error fault ∧
        ended.flushed.result = .error (.stream fault) := by
  cases flushed : ended.state.output.flush.1 with
  | ok _ => exact .inl (by simp only [Outcome.flushed, flushed])
  | error fault => exact .inr ⟨fault, rfl, by simp only [Outcome.flushed, flushed]⟩

theorem Outcome.result_of_flushed {ended : Outcome} (finished : ended.flushed.result = .ok ()) :
    ended.result = .ok () := by
  rcases ended.flushed_cases with kept | ⟨fault, -, failed⟩
  · rw [← kept, finished]
  · rw [finished] at failed
    contradiction

/-- The run of a program that is accepted ends with the last flush. -/
theorem run_eq_flushed (limits : Limits) {program : Program} (accepted : program.check = .ok ())
    (input : InputStream) (output : OutputStream) :
    run limits program input output = (runChecked limits program input output).flushed := by
  simp only [run, accepted, Outcome.of, Outcome.flushed, flush, withOutput, EStateM.run_bind,
    EStateM.run_get, EStateM.run_set]
  rcases (runChecked limits program input output).state.output.flush with
    ⟨⟨fault⟩ | ⟨⟩, flushed⟩ <;> rfl

end StackScript.Machine
