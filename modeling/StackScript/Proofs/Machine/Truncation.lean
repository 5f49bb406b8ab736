import StackScript.Proofs.Machine.Output

/-!
# Runs that stop early

Wider bounds do not change a run that narrower ones do not stop, and they let one that is stopped go
on. A run whose output is closed after some bytes is the run on an output that is never closed, up
to the first byte that there is no room for.
-/

namespace StackScript.Machine

variable {limits wider : Limits}

/-! ## Narrower bounds -/

/-- What an action comes to within bounds, beside what it comes to within wider ones: the same, or a
bound stops it before the other one is done. -/
inductive Bounded {α : Type} (limits : Limits) :
    EStateM.Result Fault State α → EStateM.Result Fault State α → Prop
  | same (result : EStateM.Result Fault State α) : Bounded limits result result
  | stopped {fault : Fault} {next : State} {result : EStateM.Result Fault State α}
      (exceeds : Exceeds limits next fault)
      (continues : next.output.Continues (left result).output) :
      Bounded limits (.error fault next) result

/-- Wider bounds change a step only if a narrower one stops it as it is begun. -/
theorem step_cases (stack : limits.stack ≤ wider.stack) (cells : limits.cells ≤ wider.cells)
    (ip : Nat) (instruction : Instruction) (state : State) :
    (step wider ip instruction).run state = (step limits ip instruction).run state ∨
      ∃ fault, Exceeds limits state.begun fault ∧
        (step limits ip instruction).run state = .error fault state.begun := by
  simp only [step, EStateM.run_bind, run_begin]
  by_cases high : limits.stack < state.stack.length
  · exact .inr ⟨_, .stack high, by rw [if_pos high]⟩
  · by_cases large : limits.cells < state.pool.size
    · exact .inr ⟨_, .cells large, by rw [if_neg high, if_pos large]⟩
    · have high' : ¬ wider.stack < state.stack.length := by omega
      have large' : ¬ wider.cells < state.pool.size := by omega
      rw [if_neg high, if_neg large, if_neg high', if_neg large']
      exact .inl rfl

theorem bounded_runFrom (stack : limits.stack ≤ wider.stack) (cells : limits.cells ≤ wider.cells)
    (rest : List Instruction) (ip skipped : Nat) (state : State) :
    Bounded limits ((runFrom limits ip skipped rest).run state)
      ((runFrom wider ip skipped rest).run state) := by
  induction rest generalizing ip skipped state with
  | nil => exact .same _
  | cons instruction rest induction =>
      cases skipped with
      | succ skipped => exact induction (ip + 1) skipped state
      | zero =>
          rcases step_cases stack cells ip instruction state with same | ⟨fault, exceeds, stopped⟩
          · rw [runFrom, runFrom, EStateM.run_bind, EStateM.run_bind, same]
            cases (step limits ip instruction).run state with
            | ok skipped next => exact induction (ip + 1) skipped next
            | error fault next => exact .same _
          · -- The narrower run ends here. Whatever the wider one does, it only adds to the output.
            have longer := (truncates_runFrom wider (instruction :: rest) ip 0).continues state
            rw [runFrom, EStateM.run_bind, stopped]
            exact .stopped exceeds longer

/-! ## Runs on open streams -/

/-- On streams that never fail, a run from a state never ends at a stream. -/
theorem ends_runFrom_of_endless (limits : Limits) (rest : List Instruction) (ip skipped : Nat)
    (state : State) (endless : Endless state.input state.output) :
    Ends (runFrom limits ip skipped rest) state (fun _ _ => True)
      (fun fault _ => ∀ closed, fault ≠ .stream closed) := by
  induction rest generalizing ip skipped state with
  | nil => exact ends_pure trivial
  | cons instruction rest induction =>
      cases skipped with
      | succ skipped => exact induction (ip + 1) skipped state endless
      | zero =>
          have begun := attempt_ends limits ip state instruction
          rw [runFrom]
          refine ends_bind ?_
          unfold Ends at begun ⊢
          rw [run_step]
          cases done : (attempt limits ip instruction).run state with
          | ok distance next =>
              simp only [done] at begun ⊢
              have later : Endless next.input next.output := begun.1.endless endless
              by_cases forward : 0 < distance
              · rw [if_pos forward]
                exact induction (ip + 1) (distance.toNat - 1) next later
              · rw [if_neg forward]
                simp
          | error fault next =>
              simp only [done] at begun ⊢
              rintro closed rfl
              obtain ⟨-, -, ⟨-, exceeds⟩ | refuses⟩ := begun
              · cases exceeds
              · have begun : Endless state.begun.input state.begun.output := endless
                exact not_refuses_stream begun closed refuses

/-! ## Whole runs -/

section Runs

variable {program : Program} {input : InputStream} {output : OutputStream}

theorem state_outcome (action : Action Unit) (state : State) :
    (Outcome.of action state).state = left (action.run state) := by
  unfold Outcome.of
  cases action.run state <;> rfl

/-- Where flushes do not fail, the last one changes nothing. -/
theorem run_eq_runChecked (accepted : program.check = .ok ()) (flushes : output.flushes = none) :
    run limits program input output = runChecked limits program input output := by
  have continues := (truncates_runFrom limits program.code 0 0).continues
    (.loaded program input output)
  have last : (runChecked limits program input output).state.output.flushes = none := by
    rw [runChecked, state_outcome]
    exact continues.flushes flushes
  simp only [run, accepted, Outcome.of, run_flush last]

/-- A run within bounds is the run within wider ones, or a bound stops it. -/
theorem run_cases_of_le (stack : limits.stack ≤ wider.stack) (cells : limits.cells ≤ wider.cells)
    (program : Program) (input : InputStream) (flushes : output.flushes = none) :
    let outcome := run limits program input output
    let longer := run wider program input output
    longer = outcome ∨
      (∃ fault, outcome.result = .error fault ∧ Exceeds limits outcome.state fault) ∧
        outcome.state.output.Continues longer.state.output := by
  intro outcome longer
  cases checked : program.check with
  | error fault =>
      left
      simp only [outcome, longer, run, checked]
  | ok =>
      have bounded := bounded_runFrom stack cells program.code 0 0 (.loaded program input output)
      simp only [outcome, longer, run_eq_runChecked checked flushes, runChecked, Outcome.of]
      generalize (runFrom limits 0 0 program.code).run (.loaded program input output) = first
        at bounded
      generalize (runFrom wider 0 0 program.code).run (.loaded program input output) = second
        at bounded
      cases bounded with
      | same => exact .inl rfl
      | @stopped fault next _ exceeds continues =>
          refine .inr ⟨⟨fault, rfl, exceeds⟩, ?_⟩
          cases second <;> exact continues

/-- A run on an output that is closed after some bytes is the run on one that is never closed, or it
ends at the first byte that there is no room for. -/
theorem run_cases_of_room (limits : Limits) (program : Program) (input : InputStream)
    (room : Nat) :
    let outcome := run limits program input .unbounded
    let narrow := run limits program input ⟨#[], some room, none⟩
    outcome.state.output.written.size ≤ room ∧ narrow.result = outcome.result ∧
        narrow.state = outcome.state.upTo room ∨
      room < outcome.state.output.written.size ∧ narrow.result = .error (.stream .writeClosed) ∧
        narrow.state.output.written.toList = outcome.state.output.written.toList.take room := by
  intro outcome narrow
  cases checked : program.check with
  | error fault =>
      left
      simp only [outcome, narrow, run, checked]
      exact ⟨Nat.zero_le room, trivial, rfl⟩
  | ok =>
      have cut := (truncates_runFrom limits program.code 0 0).cut room
        (.loaded program input .unbounded) rfl rfl (Nat.zero_le room)
      have loaded : (State.loaded program input .unbounded).upTo room =
          .loaded program input ⟨#[], some room, none⟩ := rfl
      rw [loaded] at cut
      have wide : outcome = runChecked limits program input .unbounded :=
        run_eq_runChecked checked rfl
      have closed : narrow = runChecked limits program input ⟨#[], some room, none⟩ :=
        run_eq_runChecked checked rfl
      rw [wide, closed, runChecked, runChecked, Outcome.of, Outcome.of]
      generalize (runFrom limits 0 0 program.code).run (.loaded program input .unbounded) = first
        at cut
      generalize (runFrom limits 0 0 program.code).run
        (.loaded program input ⟨#[], some room, none⟩) = second at cut
      cases cut with
      | ok fits => exact .inl ⟨fits, rfl, rfl⟩
      | error fits => exact .inl ⟨fits, rfl, rfl⟩
      | closed beyond cut flushes =>
          right
          cases first <;> exact ⟨beyond, rfl, cut⟩

/-- On streams that never fail, no run ends at a stream. -/
theorem not_stream_of_endless (limits : Limits) (program : Program)
    (endless : Endless input output) (closed : StreamFault) :
    (run limits program input output).result ≠ .error (.stream closed) := by
  cases checked : program.check with
  | error fault => simp [run, checked]
  | ok =>
      have ended := ends_runFrom_of_endless limits program.code 0 0
        (.loaded program input output) endless
      rw [run_eq_runChecked checked endless.flushes, runChecked, Outcome.of]
      unfold Ends at ended
      cases result : (runFrom limits 0 0 program.code).run (.loaded program input output) with
      | ok value next => simp
      | error fault next =>
          simp only [result] at ended
          simpa using ended closed

end Runs

/-- A run that no bound stops is the same within wider bounds, and what a run has written is the
first part of what it writes within wider bounds. On an output that is closed after some bytes, just
the first bytes are written of those that are written on one that is never closed; the run ends at a
stream if these are more than there is room for, and otherwise in the same way and in the same
state, but for the room that is left. -/
theorem early_stops_truncate (program : Program) (limits wider : Limits)
    (stack : limits.stack ≤ wider.stack) (cells : limits.cells ≤ wider.cells)
    (input : InputStream) :
    (∀ output : OutputStream, output.flushes = none →
      let outcome := run limits program input output
      let longer := run wider program input output
      ((∀ bound, outcome.result ≠ .error (.stackLimit bound)) →
        (∀ bound, outcome.result ≠ .error (.cellLimit bound)) → longer = outcome) ∧
      outcome.state.output.written.toList <+: longer.state.output.written.toList) ∧
    (input.closed = false → ∀ room,
      let outcome := run limits program input .unbounded
      let narrow := run limits program input ⟨#[], some room, none⟩
      narrow.state.output.written.toList = outcome.state.output.written.toList.take room ∧
      ((∃ fault, narrow.result = .error (.stream fault)) ↔
        room < outcome.state.output.written.size) ∧
      (outcome.state.output.written.size ≤ room →
        narrow.result = outcome.result ∧ narrow.state = outcome.state.upTo room)) := by
  constructor
  · intro output flushes outcome longer
    rcases run_cases_of_le stack cells program input flushes with
      same | ⟨⟨fault, stopped, exceeds⟩, continues⟩
    · exact ⟨fun _ _ => same, (show longer = outcome from same) ▸ List.prefix_refl _⟩
    · refine ⟨fun stack cells => ?_, continues.written⟩
      cases exceeds with
      | stack => exact absurd stopped (stack _)
      | cells => exact absurd stopped (cells _)
  · intro reads room outcome narrow
    have endless (fault : StreamFault) : outcome.result ≠ .error (.stream fault) :=
      not_stream_of_endless limits program ⟨reads, rfl, rfl⟩ fault
    rcases run_cases_of_room limits program input room with
      ⟨fits, result, state⟩ | ⟨beyond, result, written⟩
    · refine ⟨?_, ?_, fun _ => ⟨result, state⟩⟩
      · rw [List.take_of_length_le (by rwa [Array.length_toList]), state]
        rfl
      · rw [result]
        refine iff_of_false ?_ (Nat.not_lt_of_le fits)
        rintro ⟨fault, failed⟩
        exact endless fault failed
    · refine ⟨written, ⟨fun _ => beyond, fun _ => ⟨_, result⟩⟩, fun fits => ?_⟩
      exact absurd beyond (Nat.not_lt_of_le fits)

/-- A program that writes the same line three times, with two values on the stack before the last
two. -/
def repeating : Program :=
  ⟨[.push 0, .print, .push 0, .push 0, .print, .print], [.string "hi"]⟩

theorem early_stops_truncate_repeating :
    let stopped := run ⟨1, 9⟩ repeating (.ofBytes []) .unbounded
    let longer := run ⟨2, 9⟩ repeating (.ofBytes []) .unbounded
    let narrow := run ⟨1, 9⟩ repeating (.ofBytes []) ⟨#[], some 2, none⟩
    1 ≤ 2 ∧ 9 ≤ 9 ∧ (InputStream.ofBytes []).closed = false ∧
      stopped.result = .error (.stackLimit 1) ∧ stopped.state.output.written.size = 3 ∧
      stopped.state.output.written.toList <+: longer.state.output.written.toList ∧
      narrow.state.output.written.toList = stopped.state.output.written.toList.take 2 ∧
      ∃ fault, narrow.result = .error (.stream fault) := by
  intro stopped longer narrow
  have size : stopped.state.output.written.size = 3 := by decide +kernel
  obtain ⟨bounds, rooms⟩ :=
    early_stops_truncate repeating ⟨1, 9⟩ ⟨2, 9⟩ (by decide) (by decide) (.ofBytes [])
  obtain ⟨written, closed, -⟩ := rooms rfl 2
  refine ⟨by decide, by decide, rfl, rfl, size, (bounds .unbounded rfl).2, written, ?_⟩
  exact closed.2 (size ▸ by decide)

end StackScript.Machine
