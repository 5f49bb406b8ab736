import StackScript.Proofs.Machine.Safety

/-!
# Bounds along a run

The bounds of a run are looked at before each instruction, and an instruction adds at most a value
and a cell. So they hold wherever an instruction is done, but not behind the last one, which nothing
follows: a run may come to its end with one value or one cell too many. That takes a last
instruction that makes a new value; behind any other one the bounds hold too.
-/

namespace StackScript.Machine

open Heights

/-- There are no more values and no more cells than the bounds allow. -/
structure Within (limits : Limits) (state : State) : Prop where
  stack : state.stack.length ≤ limits.stack
  cells : state.pool.size ≤ limits.cells

/-- Whether an instruction puts a new value in a cell of its own on the stack. -/
def makesValue : Instruction → Bool
  | .push _ | .add | .boolToString | .integerToString | .stringToInteger => true
  | _ => false

/-- Without a new value, neither the stack nor the pool grows. -/
theorem Executes.le_of_makesValue {state next : State} {instruction : Instruction} {distance : Int}
    (rule : Executes state instruction distance next) (makes : makesValue instruction = false) :
    next.stack.length ≤ state.stack.length ∧ next.pool.size ≤ state.pool.size := by
  cases rule with
  | push | add | boolToString | integerToString | stringToInteger => contradiction
  | nop | jump => exact ⟨Nat.le_refl _, Nat.le_refl _⟩
  | getTop | input => exact ⟨Nat.le_refl _, Nat.le_of_eq (Pool.size_set _ _ _)⟩
  | discard shape | print shape | jumpIfFalse shape | equal shape | boolEqual shape =>
      simp [State.freeing, shape]

section Turns

variable {limits : Limits} {code : List Instruction} {start config next last : Config}

/-- An instruction is done only where the bounds hold. -/
theorem Turn.within (turn : Turn limits code config next) : Within limits config.state := by
  cases turn with
  | intro found done lands =>
      obtain ⟨-, stack, cells⟩ := executes_of_attempt done
      exact ⟨stack, cells⟩

/-- A configuration has one turn at most. -/
theorem Turn.unique {other : Config} (turn : Turn limits code config next)
    (turn' : Turn limits code config other) : next = other := by
  cases turn with
  | intro found done lands =>
      cases turn' with
      | intro found' done' lands' =>
          rw [found, Option.some.injEq] at found'
          subst found'
          rw [done, EStateM.Result.ok.injEq] at done'
          obtain ⟨rfl, rfl⟩ := done'
          rw [← lands, Int.ofNat_inj] at lands'
          rw [lands']

/-- No turn leads on from behind the last instruction. -/
theorem not_turn_of_length_le (behind : code.length ≤ config.ip) :
    ¬ Turn limits code config next := by
  intro turn
  cases turn with
  | intro found done lands =>
      rw [List.getElem?_eq_none behind] at found
      contradiction

/-- A run that comes behind the last instruction has a turn wherever else it has been. -/
theorem Reaches.eq_or_turn (reach : Reaches limits code start config)
    (finish : Reaches limits code start last) (behind : code.length ≤ last.ip) :
    config = last ∨ ∃ next, Turn limits code config next := by
  have determined : Relator.RightUnique (Turn limits code) := fun _ _ _ => Turn.unique
  exact eq_or_step determined reach finish fun _ => not_turn_of_length_le behind

/-- Behind a turn there is at most one value and one cell too many. -/
theorem Turn.length_le (turn : Turn limits code config next) :
    next.state.stack.length ≤ limits.stack + 1 ∧ next.state.pool.size ≤ limits.cells + 1 := by
  have within := turn.within
  have grows := turn.grows
  exact ⟨Nat.le_trans grows.1 (Nat.succ_le_succ within.stack),
    Nat.le_trans grows.2 (Nat.succ_le_succ within.cells)⟩

/-- A turn that leads just behind code whose last instruction makes no value keeps to the bounds: it
does that instruction, or it jumps. -/
theorem Turn.within_next (turn : Turn limits code config next) (behind : next.ip = code.length)
    {final : Instruction} (ends : code.getLast? = some final) (makes : makesValue final = false) :
    Within limits next.state := by
  have within := turn.within
  cases turn with
  | @intro ip target state next instruction distance found done lands =>
      have rule := (executes_of_attempt done).1
      have steady : makesValue instruction = false := by
        rcases rule.distance_cases with ⟨rfl, -⟩ | ⟨offset, jumps, -⟩
        · have final : code.length - 1 = ip := by
            simp only at behind
            omega
          rw [List.getLast?_eq_getElem?, final, found, Option.some.injEq] at ends
          rw [ends]
          exact makes
        · cases instruction <;> first | rfl | contradiction
      have kept := rule.le_of_makesValue steady
      exact ⟨Nat.le_trans kept.1 within.stack, Nat.le_trans kept.2 within.cells⟩

end Turns

/-- In a run that ends well, the bounds hold in every configuration but the one behind the last
instruction. There may be one value and one cell too many there, if an instruction has been done at
all, and none if the last instruction of the program makes no value. -/
theorem bounds_hold_before_end {limits : Limits} {program : Program} {input : InputStream}
    {output : OutputStream} (ended : (run limits program input output).result = .ok ()) :
    ∃ last, Reaches limits program.code (.start program input output) last ∧
      last.ip = program.code.length ∧
      (run limits program input output).state.stack = last.state.stack ∧
      (run limits program input output).state.pool = last.state.pool ∧
      (∀ config, Reaches limits program.code (.start program input output) config →
        config = last ∨ Within limits config.state) ∧
      (program.code ≠ [] → last.state.stack.length ≤ limits.stack + 1 ∧
        last.state.pool.size ≤ limits.cells + 1) ∧
      ∀ final, program.code.getLast? = some final → makesValue final = false →
        Within limits last.state := by
  cases checked : program.check with
  | error refusal =>
      rw [result_run_of_refused checked] at ended
      contradiction
  | ok _ =>
      obtain ⟨heights, accepted⟩ := check_eq_ok_iff.1 checked
      obtain ⟨last, halted, reach, halts, flushed⟩ := run_halts limits input output accepted
      rw [flushed] at ended ⊢
      rcases halts.cases_of_accepted accepted (reach.safe accepted) with
        ⟨-, behind, left⟩ | ⟨instruction, fault, failed, -⟩
      · have arrived : program.code = [] ∨
            ∃ config, Turn limits program.code config last := by
          rcases reach.cases_tail with start | ⟨config, -, turn⟩
          · left
            rw [start] at behind
            exact List.length_eq_zero_iff.1 behind.symm
          · exact .inr ⟨config, turn⟩
        refine ⟨last, reach, behind, congrArg (·.stack) left, congrArg (·.pool) left, ?_, ?_, ?_⟩
        · intro config reach'
          rcases reach'.eq_or_turn reach (Nat.le_of_eq behind.symm) with same | ⟨next, turn⟩
          · exact .inl same
          · exact .inr turn.within
        · intro some'
          rcases arrived with none' | ⟨config, turn⟩
          · exact absurd none' some'
          · exact turn.length_le
        · intro final ends makes
          rcases arrived with none' | ⟨config, turn⟩
          · rw [none'] at ends
            contradiction
          · exact turn.within_next behind ends makes
      · rw [Outcome.result_of_flushed ended] at failed
        contradiction

/-- A program that makes two values and ends. -/
def pushing : Program := ⟨[.push 0, .push 0], [.integer 1]⟩

theorem bounds_hold_before_end_pushing :
    (run ⟨1, 2⟩ pushing (.ofBytes []) .unbounded).result = .ok () ∧
      ∃ last, Reaches ⟨1, 2⟩ pushing.code (.start pushing (.ofBytes []) .unbounded) last ∧
        last.ip = 2 ∧ last.state.stack.length = 1 + 1 ∧ last.state.pool.size = 2 + 1 ∧
        Within ⟨1, 2⟩ (State.loaded pushing (.ofBytes []) .unbounded) := by
  have ended : (run ⟨1, 2⟩ pushing (.ofBytes []) .unbounded).result = .ok () := rfl
  obtain ⟨last, reach, behind, stack, pool, within, -⟩ := bounds_hold_before_end ended
  refine ⟨ended, last, reach, behind, ?_, ?_, ?_⟩
  · rw [← stack]
    rfl
  · rw [← pool]
    rfl
  · rcases within _ .refl with same | within
    · rw [← same] at behind
      contradiction
    · exact within

/-- The bounds do not hold in all of every run that ends well, although the program is accepted. -/
theorem not_within_at_end :
    ¬ ∀ (limits : Limits) (program : Program) (input : InputStream) (output : OutputStream),
      program.check = .ok () → (run limits program input output).result = .ok () →
        ∀ config, Reaches limits program.code (.start program input output) config →
          Within limits config.state := by
  intro holds
  have first : Turn ⟨1, 2⟩ pushing.code (.start pushing (.ofBytes []) .unbounded)
      ⟨1, [.cell 1], ⟨[.integer 1, .integer 1]⟩, 1, .ofBytes [], .unbounded⟩ := .intro rfl rfl rfl
  have second : Turn ⟨1, 2⟩ pushing.code
      ⟨1, [.cell 1], ⟨[.integer 1, .integer 1]⟩, 1, .ofBytes [], .unbounded⟩
      ⟨2, [.cell 2, .cell 1], ⟨[.integer 1, .integer 1, .integer 1]⟩, 2, .ofBytes [], .unbounded⟩ :=
    .intro rfl rfl rfl
  have within := holds ⟨1, 2⟩ pushing (.ofBytes []) .unbounded rfl rfl _
    (.tail (.tail .refl first) second)
  exact absurd within.stack (by decide)

end StackScript.Machine
