import StackScript.Proofs.Machine.Execution

/-!
# What becomes of the output

Instructions only add to what has been written, and nothing of it is read back. So on a stream that
is closed after some bytes, an action does what it does on one that is never closed, until the first
byte that there is no room for.
-/

namespace StackScript

namespace OutputStream

variable {output : OutputStream} {bytes : Nat} {line : List UInt8}

/-- Later, nothing that has been written is lost, and what is not bounded stays so. -/
structure Continues (output later : OutputStream) : Prop where
  written : output.written.toList <+: later.written.toList
  room : output.room = none → later.room = none
  flushes : output.flushes = none → later.flushes = none

theorem Continues.refl (output : OutputStream) : Continues output output :=
  ⟨List.prefix_refl _, id, id⟩

theorem Continues.trans {first second third : OutputStream} (early : Continues first second)
    (late : Continues second third) : Continues first third :=
  ⟨early.written.trans late.written, late.room ∘ early.room, late.flushes ∘ early.flushes⟩

/-- What is cut short stays so when more is written. -/
theorem Continues.take_eq {later : OutputStream} (continues : Continues output later)
    (beyond : bytes < output.written.size) :
    bytes < later.written.size ∧
      later.written.toList.take bytes = output.written.toList.take bytes := by
  obtain ⟨more, same⟩ := continues.written
  have length : output.written.size + more.length = later.written.size := by
    rw [← Array.length_toList, ← Array.length_toList, ← same, List.length_append]
  refine ⟨by omega, ?_⟩
  rw [← same, List.take_append_of_le_length (Nat.le_of_lt beyond)]

theorem continues_write (output : OutputStream) (line : List UInt8) :
    Continues output (output.write line).2 := by
  unfold write
  split
  · exact ⟨by simp, id, id⟩
  next room bounded =>
    refine ⟨by simp, fun endless => ?_, id⟩
    rw [bounded] at endless
    contradiction

theorem continues_flush (output : OutputStream) : Continues output output.flush.2 := by
  unfold flush
  split
  · exact .refl output
  · exact .refl output
  next left bounded =>
    refine ⟨List.prefix_refl _, id, fun endless => ?_⟩
    rw [bounded] at endless
    contradiction

/-- The stream closed as soon as a number of bytes has been written in all. -/
def upTo (output : OutputStream) (bytes : Nat) : OutputStream :=
  { output with room := some (bytes - output.written.size) }

/-- The stream with more bytes written. -/
def extend (output : OutputStream) (line : List UInt8) : OutputStream :=
  { output with written := output.written ++ line }

theorem size_extend (output : OutputStream) (line : List UInt8) :
    (output.extend line).written.size = output.written.size + line.length := by
  rw [extend, ← Array.length_toList, Array.toList_appendList, List.length_append,
    Array.length_toList]

theorem write_open (room : output.room = none) :
    output.write line = (.ok (), output.extend line) := by
  simp only [write, extend, room]

theorem write_upTo_of_le (fits : output.written.size + line.length ≤ bytes) :
    (output.upTo bytes).write line = (.ok (), (output.extend line).upTo bytes) := by
  have short : line.length ≤ bytes - output.written.size := by omega
  have left : bytes - output.written.size - line.length =
      bytes - (output.written.size + line.length) := by omega
  simp only [write, upTo, size_extend, List.take_of_length_le short, if_pos short, left]
  rfl

theorem write_upTo_of_lt (fits : output.written.size ≤ bytes)
    (beyond : bytes < output.written.size + line.length) :
    (output.upTo bytes).write line =
      (.error .writeClosed,
        { output.extend (line.take (bytes - output.written.size)) with room := some 0 }) := by
  have long : ¬ line.length ≤ bytes - output.written.size := by omega
  have left : bytes - output.written.size - line.length = 0 := by omega
  simp only [write, upTo, if_neg long, left]
  rfl

/-- Bytes that are written up to a number are the first ones of those that would be written. -/
theorem toList_extend_take (fits : output.written.size ≤ bytes) (line : List UInt8) :
    (output.extend (line.take (bytes - output.written.size))).written.toList =
      (output.extend line).written.toList.take bytes := by
  have before : output.written.toList.take bytes = output.written.toList :=
    List.take_of_length_le (by rwa [Array.length_toList])
  simp only [extend, Array.toList_appendList, List.take_append, before, Array.length_toList]

end OutputStream

namespace Machine

/-! ## Streams that never fail -/

/-- Neither reading nor writing nor flushing ever fails. -/
structure Endless (input : InputStream) (output : OutputStream) : Prop where
  reads : input.closed = false
  room : output.room = none
  flushes : output.flushes = none

namespace Endless

variable {input next : InputStream} {output later : OutputStream}

/-- A line is written to a stream that is still as open as before. -/
theorem writeLine? (endless : Endless input output) {text : Option String}
    {result : Except StreamFault Unit} (used : writeLine? output text = (result, later)) :
    result = .ok () ∧ Endless input later := by
  cases text with
  | none =>
      cases used
      exact ⟨rfl, endless⟩
  | some text =>
      rw [Machine.writeLine?, OutputStream.write, endless.room] at used
      cases used
      exact ⟨rfl, endless.reads, rfl, endless.flushes⟩

theorem flush (endless : Endless input output) {result : Except StreamFault Unit}
    (used : output.flush = (result, later)) : result = .ok () ∧ later = output := by
  rw [OutputStream.flush, endless.flushes] at used
  cases used
  exact ⟨rfl, rfl⟩

theorem readLine (endless : Endless input output) {result : Except StreamFault String}
    (read : input.readLine = (result, next)) :
    (∃ text, result = .ok text) ∧ Endless next output := by
  simp only [InputStream.readLine] at read
  split at read
  · cases read
    exact ⟨⟨_, rfl⟩, endless.reads, endless.room, endless.flushes⟩
  · rw [endless.reads] at read
    cases read
    exact ⟨⟨_, rfl⟩, rfl, endless.room, endless.flushes⟩

end Endless

theorem Executes.endless {state next : State} {instruction : Instruction} {distance : Int}
    (executes : Executes state instruction distance next)
    (endless : Endless state.input state.output) : Endless next.input next.output := by
  cases executes with
  | print shape found written => exact (endless.writeLine? written).2
  | input flushed read active =>
      obtain ⟨-, rfl⟩ := endless.flush flushed
      exact (endless.readLine read).2
  | _ => exact endless

/-- On streams that never fail, no stream is a reason to refuse. -/
theorem not_refuses_stream {ip : Nat} {state : State} {instruction : Instruction}
    (endless : Endless state.input state.output) (fault : StreamFault) :
    ¬ Refuses ip state instruction (.stream fault) := by
  intro refuses
  cases refuses with
  | write failed => exact absurd (endless.writeLine? failed).1 (by simp)
  | flush failed => exact absurd (endless.flush failed).1 (by simp)
  | read failed => exact absurd (endless.readLine failed).1 (by simp)

/-! ## Actions that do not write -/

section Blind

variable {α β : Type} {ip : Nat} {instruction : Instruction}

/-- The state with another output stream. -/
def State.onto (state : State) (output : OutputStream) : State :=
  { state with output := output }

/-- What an action comes to, with another output stream. -/
def resultOnto (output : OutputStream) :
    EStateM.Result Fault State α → EStateM.Result Fault State α
  | .ok value next => .ok value (next.onto output)
  | .error fault next => .error fault (next.onto output)

/-- An action that neither depends on the output stream nor changes it. -/
def Blind (action : Action α) : Prop :=
  ∀ (state : State) (output : OutputStream),
    action.run (state.onto output) = resultOnto output (action.run state)

theorem blind_pure (value : α) : Blind (pure value : Action α) := fun _ _ => rfl

theorem blind_throw (fault : Fault) : Blind (throw fault : Action α) := fun _ _ => rfl

theorem Blind.bind {first : Action β} {second : β → Action α} (blind : Blind first)
    (later : ∀ value, Blind (second value)) : Blind (first >>= second) := by
  intro state output
  rw [EStateM.run_bind, EStateM.run_bind, blind]
  cases first.run state with
  | ok value next => exact later value next output
  | error fault next => rfl

theorem blind_pop : Blind (pop ip instruction) := by
  rintro ⟨stack, pool, steps, input, old⟩ output
  cases stack <;> rfl

theorem blind_top : Blind (top ip instruction) := by
  rintro ⟨stack, pool, steps, input, old⟩ output
  cases stack <;> rfl

theorem blind_popCell : Blind (popCell ip instruction) := by
  refine blind_pop.bind fun value => ?_
  cases value with
  | cell index => exact blind_pure index
  | bool value => exact blind_throw _

theorem blind_popBool : Blind (popBool ip instruction) := by
  refine blind_pop.bind fun value => ?_
  cases value with
  | bool value => exact blind_pure value
  | cell index => exact blind_throw _

theorem blind_cell (index : Nat) : Blind (cell ip index) := by
  intro state output
  cases found : state.pool.get? index with
  | none =>
      have run (state : State) (inactive : state.pool.get? index = none) :
          (cell ip index).run state = .error (.badCell ip index) state := by
        simp only [cell, EStateM.run_bind, EStateM.run_get, inactive]
        rfl
      rw [run state found, run (state.onto output) found]
      rfl
  | some content =>
      have run (state : State) (active : state.pool.get? index = some content) :
          (cell ip index).run state = .ok content state := by
        simp only [cell, EStateM.run_bind, EStateM.run_get, active]
        rfl
      rw [run state found, run (state.onto output) found]
      rfl

theorem blind_store (slot : Nat) (content : Cell) : Blind (store ip slot content) :=
  (blind_cell slot).bind fun _ _ _ => rfl

theorem blind_push (value : Value) : Blind (push value) := fun _ _ => rfl

theorem blind_replace (content : Cell) (freed : List Nat) : Blind (replace content freed) :=
  fun _ _ => rfl

theorem blind_release (indices : List Nat) : Blind (release indices) := fun _ _ => rfl

theorem blind_readLine : Blind readLine := by
  rintro ⟨stack, pool, steps, input, old⟩ output
  simp only [readLine, State.onto, EStateM.run_bind, EStateM.run_get, EStateM.run_set]
  cases input.readLine.1 <;> rfl

theorem blind_begin (limits : Limits) : Blind (begin limits) := by
  intro state output
  rw [run_begin, run_begin]
  change (if limits.stack < state.stack.length then _ else
    if limits.cells < state.pool.size then _ else _) = _
  split
  · rfl
  · split <;> rfl

/-- All instructions but two leave the output alone. -/
theorem blind_execute (ip : Nat) (instruction : Instruction) (print : instruction ≠ .print)
    (input : ∀ slot, instruction ≠ .input slot) : Blind (execute ip instruction) := by
  have done {action : Action Unit} (blind : Blind action) :
      Blind (do action; return (1 : Int)) := blind.bind fun _ => blind_pure 1
  cases instruction with
  | nop => exact blind_pure 1
  | push slot => exact (blind_cell slot).bind fun content => done (blind_replace content [])
  | getTop slot =>
      refine done (blind_top.bind fun value => ?_)
      cases value with
      | cell index => exact (blind_cell index).bind fun content => blind_store slot content
      | bool value => exact blind_store slot _
  | discard => exact blind_pop.bind fun value => done (blind_release value.cells)
  | print => contradiction
  | input slot => exact absurd rfl (input slot)
  | jump offset => exact blind_pure _
  | jumpIfFalse offset =>
      refine blind_popBool.bind fun value => ?_
      cases value <;> exact blind_pure _
  | equal =>
      refine done (blind_popCell.bind fun right => blind_popCell.bind fun left => ?_)
      refine (blind_cell right).bind fun _ => (blind_cell left).bind fun _ => ?_
      exact (blind_release _).bind fun _ => blind_push _
  | boolEqual =>
      exact done (blind_pop.bind fun right => blind_pop.bind fun left => blind_push _)
  | add =>
      refine done (blind_popCell.bind fun right => blind_popCell.bind fun left => ?_)
      exact (blind_cell left).bind fun _ => (blind_cell right).bind fun _ => blind_replace _ _
  | boolToString => exact done (blind_popBool.bind fun value => blind_replace _ _)
  | integerToString =>
      exact done (blind_popCell.bind fun index => (blind_cell index).bind fun _ =>
        blind_replace _ _)
  | stringToInteger =>
      refine done (blind_pop.bind fun value => ?_)
      cases value with
      | bool value => exact blind_replace _ _
      | cell index => exact (blind_cell index).bind fun _ => blind_replace _ _

end Blind

/-! ## Closing the output early -/

/-- The state with its output closed as soon as a number of bytes has been written in all. -/
def State.upTo (state : State) (bytes : Nat) : State :=
  state.onto (state.output.upTo bytes)

/-- The state that an action leaves, whether or not it faults. -/
def left {α : Type} : EStateM.Result Fault State α → State
  | .ok _ next | .error _ next => next

/-- What an action comes to on an output that is closed after a number of bytes, beside what it
comes to on one that is not: the same if there is room for all that is written, and otherwise a
fault with as much as there is room for. -/
inductive CutShort {α : Type} (bytes : Nat) :
    EStateM.Result Fault State α → EStateM.Result Fault State α → Prop
  | ok {value : α} {next : State} (fits : next.output.written.size ≤ bytes) :
      CutShort bytes (.ok value next) (.ok value (next.upTo bytes))
  | error {fault : Fault} {next : State} (fits : next.output.written.size ≤ bytes) :
      CutShort bytes (.error fault next) (.error fault (next.upTo bytes))
  | closed {result : EStateM.Result Fault State α} {next : State}
      (beyond : bytes < (left result).output.written.size)
      (cut : next.output.written.toList = (left result).output.written.toList.take bytes)
      (flushes : next.output.flushes = none) :
      CutShort bytes result (.error (.stream .writeClosed) next)

/-- An action that only adds to the output, and that an output which is closed cuts short. -/
structure Truncates {α : Type} (action : Action α) : Prop where
  continues : ∀ state : State, state.output.Continues (left (action.run state)).output
  cut : ∀ bytes (state : State), state.output.room = none → state.output.flushes = none →
    state.output.written.size ≤ bytes →
      CutShort bytes (action.run state) (action.run (state.upTo bytes))

section Truncates

variable {α β : Type}

theorem Blind.output_eq {action : Action α} (blind : Blind action) (state : State) :
    (left (action.run state)).output = state.output := by
  have same := blind state state.output
  rw [show state.onto state.output = state from rfl] at same
  rw [same]
  cases action.run state <;> rfl

theorem Blind.truncates {action : Action α} (blind : Blind action) : Truncates action where
  continues state := by
    rw [blind.output_eq]
    exact .refl _
  cut bytes state room flushes fits := by
    have same := blind.output_eq state
    rw [State.upTo, blind]
    cases run : action.run state with
    | ok value next =>
        have kept : next.output = state.output := by rwa [run] at same
        rw [resultOnto, ← kept]
        exact .ok (kept ▸ fits)
    | error fault next =>
        have kept : next.output = state.output := by rwa [run] at same
        rw [resultOnto, ← kept]
        exact .error (kept ▸ fits)

theorem Truncates.bind {first : Action β} {second : β → Action α} (begins : Truncates first)
    (goes : ∀ value, Truncates (second value)) : Truncates (first >>= second) where
  continues state := by
    have early := begins.continues state
    rw [EStateM.run_bind]
    cases run : first.run state with
    | ok value next =>
        rw [run] at early
        exact early.trans ((goes value).continues next)
    | error fault next =>
        rw [run] at early
        exact early
  cut bytes state room flushes fits := by
    have early := begins.continues state
    have done := begins.cut bytes state room flushes fits
    rw [EStateM.run_bind, EStateM.run_bind]
    cases run : first.run state with
    | ok value next =>
        rw [run] at early done
        generalize first.run (state.upTo bytes) = narrow at done
        cases done with
        | ok fits =>
            exact (goes value).cut bytes next (early.room room) (early.flushes flushes) fits
        | closed beyond cut flushes =>
            -- The second action goes on only where nothing is closed, and only adds to the output.
            obtain ⟨later, same⟩ := ((goes value).continues next).take_eq beyond
            exact .closed later (cut.trans same.symm) flushes
    | error fault next =>
        rw [run] at done
        generalize first.run (state.upTo bytes) = narrow at done
        cases done with
        | error fits => exact .error fits
        | closed beyond cut flushes => exact .closed beyond cut flushes

theorem run_withOutput (use : OutputStream → Except StreamFault Unit × OutputStream)
    (state : State) :
    (withOutput use).run state =
      match use state.output with
      | (.ok (), output) => .ok () (state.onto output)
      | (.error fault, output) => .error (.stream fault) (state.onto output) := by
  simp only [withOutput, EStateM.run_bind, EStateM.run_get, EStateM.run_set]
  rcases use state.output with ⟨⟨fault⟩ | ⟨⟩, output⟩ <;> rfl

theorem output_withOutput (use : OutputStream → Except StreamFault Unit × OutputStream)
    (state : State) :
    (left ((withOutput use).run state)).output = (use state.output).2 := by
  rw [run_withOutput]
  rcases use state.output with ⟨⟨fault⟩ | ⟨⟩, output⟩ <;> rfl

theorem run_flush {state : State} (flushes : state.output.flushes = none) :
    flush.run state = .ok () state := by
  rw [flush, run_withOutput, OutputStream.flush, flushes]
  rfl

theorem truncates_flush : Truncates flush where
  continues state := by
    rw [flush, output_withOutput]
    exact state.output.continues_flush
  cut bytes state room flushes fits := by
    have closed : (state.upTo bytes).output.flushes = none := flushes
    rw [run_flush flushes, run_flush closed]
    exact .ok fits

theorem truncates_write (line : List UInt8) : Truncates (withOutput (·.write line)) where
  continues state := by
    rw [output_withOutput]
    exact state.output.continues_write line
  cut bytes state room flushes fits := by
    have narrow : (state.upTo bytes).output = state.output.upTo bytes := rfl
    have size := state.output.size_extend line
    rw [run_withOutput, run_withOutput, OutputStream.write_open room, narrow]
    by_cases short : state.output.written.size + line.length ≤ bytes
    · rw [OutputStream.write_upTo_of_le short]
      exact .ok (size ▸ short)
    · have beyond := Nat.lt_of_not_le short
      rw [OutputStream.write_upTo_of_lt fits beyond]
      exact .closed (size ▸ beyond) (OutputStream.toList_extend_take fits line) flushes

/-! ## Instructions and runs -/

theorem truncates_print (ip : Nat) : Truncates (executePrint ip) := by
  refine blind_pop.truncates.bind fun value => ?_
  have released : Truncates (release value.cells) := (blind_release value.cells).truncates
  cases value with
  | bool value => exact (truncates_write _).bind fun _ => released
  | cell index =>
      refine (blind_cell index).truncates.bind fun content => ?_
      cases content.text? with
      | none => exact released
      | some text => exact (truncates_write _).bind fun _ => released

theorem truncates_input (ip slot : Nat) : Truncates (executeInput ip slot) :=
  truncates_flush.bind fun _ => blind_readLine.truncates.bind fun _ =>
    (blind_store slot _).truncates

theorem truncates_execute (ip : Nat) (instruction : Instruction) :
    Truncates (execute ip instruction) := by
  by_cases print : instruction = .print
  · subst print
    exact (truncates_print ip).bind fun _ => (blind_pure 1).truncates
  · by_cases input : ∃ slot, instruction = .input slot
    · obtain ⟨slot, rfl⟩ := input
      exact (truncates_input ip slot).bind fun _ => (blind_pure 1).truncates
    · exact (blind_execute ip instruction print (not_exists.1 input)).truncates

theorem truncates_step (limits : Limits) (ip : Nat) (instruction : Instruction) :
    Truncates (step limits ip instruction) := by
  refine (blind_begin limits).truncates.bind fun _ => ?_
  refine (truncates_execute ip instruction).bind fun distance => ?_
  split
  · exact (blind_pure _).truncates
  · exact (blind_throw _).truncates

theorem truncates_runFrom (limits : Limits) (rest : List Instruction) (ip skipped : Nat) :
    Truncates (runFrom limits ip skipped rest) := by
  induction rest generalizing ip skipped with
  | nil =>
      rw [runFrom]
      exact (blind_pure ()).truncates
  | cons instruction rest induction =>
      cases skipped with
      | succ skipped => exact induction (ip + 1) skipped
      | zero =>
          rw [runFrom]
          exact (truncates_step limits ip instruction).bind fun skipped =>
            induction (ip + 1) skipped

end Truncates

end Machine

end StackScript
