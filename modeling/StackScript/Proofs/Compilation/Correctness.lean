import StackScript.Proofs.Compilation.TypeSafety
import StackScript.Proofs.Machine.Truncation
import StackScript.Proofs.Term.Simulation

/-!
# Correctness of compilation

Within its bounds, and as long as no stream fails, the run of the program of a script does what the
direct evaluation of the script says.
-/

namespace StackScript

open Machine

namespace Term.WellTyped

variable {table : SymbolTable} {term : Term} {limits : Limits} {input : InputStream}
variable {output : OutputStream}

/-- On streams that never fail, the data that is loaded is that of the world in which nothing has
happened. -/
theorem opened_loaded (table : SymbolTable) (code : List Instruction) (input : InputStream)
    (output : OutputStream) :
    (View.loaded ⟨code, table.cells⟩ input output).opened =
      (World.initial input output).view table [] := by
  rw [World.view, World.slots_initial]
  rfl

/-- A run that neither a stream nor a bound ends comes to its end, and leaves the world that the
script leaves. -/
theorem runs (typed : term.WellTyped table) (fits : term.Fits)
    (streams : ∀ fault, (run limits (term.program table) input output).result ≠
      .error (.stream fault))
    (stack : ∀ limit, (run limits (term.program table) input output).result ≠
      .error (.stackLimit limit))
    (cells : ∀ limit, (run limits (term.program table) input output).result ≠
      .error (.cellLimit limit)) :
    let outcome := run limits (term.program table) input output
    let world := term.perform table (.initial input output)
    outcome.result = .ok () ∧ outcome.state.output.written = world.output ∧
      outcome.state.input.bytes = world.input ∧
      ∀ slot < table.symbols.length, outcome.state.pool.get? slot = (world.slots table)[slot]? := by
  intro outcome world
  have finished : outcome.result = .ok () := by
    rcases typed.run_cases fits limits input output with
      finished | ⟨fault, closed⟩ | overflow | overflow
    · exact finished
    · exact absurd closed (streams fault)
    · exact absurd overflow (stack _)
    · exact absurd overflow (cells _)
  have accepted := typed.accepted fits
  obtain ⟨config, ended, reach, halts, flushed⟩ := run_halts limits input output accepted
  have same : outcome = ended.flushed := flushed
  obtain ⟨view, shape, proceeds, shows, -⟩ := typed.follows fits reach
  rcases halts.cases_of_accepted accepted (reach.safe accepted) with
    ⟨-, last, left⟩ | ⟨instruction, fault, failed, -⟩
  · -- Code stops at one place only, so what the run shows is what the evaluation leaves.
    have evaluates := typed.proceeds fits (.self term.code) (.initial input output) []
    have opened := proceeds.opened
    rw [opened_loaded] at opened
    have ends := Proceeds.unique opened evaluates (Nat.le_of_eq last.symm) (by simp)
    rw [Stage.mk.injEq] at ends
    have leaves : view.opened = world.view table [] := ends.2
    have state : outcome.state = { config.state with output := config.state.output.flush.2 } := by
      rw [same, ← left]
      rfl
    rw [state]
    refine ⟨finished, ?_, ?_, fun slot inside => ?_⟩
    · rw [written_flush, shows.output]
      exact congrArg (·.output.written) leaves
    · rw [shows.input]
      exact congrArg (·.input.bytes) leaves
    · have slots : view.slots = world.slots table := congrArg (·.slots) leaves
      rw [← slots]
      apply shows.slots slot
      rwa [slots, World.slots, List.length_mapIdx]
  · rw [same] at finished
    rw [Outcome.result_of_flushed finished] at failed
    contradiction

end Term.WellTyped

namespace Compilation

/-- The program of a script without diagnostics, unless an offset cannot be written, does what the
evaluation of the script says whenever neither a stream nor a bound ends its run: it comes to its
end, writes the same bytes, reads as many, and leaves the same in each variable. Streams that never
fail do not end it, and neither do bounds with a value and a cell for each instruction. -/
theorem run_eq_perform {text : String} {compilation : Compilation}
    (read : ofText? text = .ok compilation) (clean : compilation.draft.diagnostics.size = 0)
    (written : ∀ index, Program.ofText? text ≠ .error (.assembly (.displacementOverflow index))) :
    ∃ program, Program.ofText? text = .ok program ∧ ∀ limits input output,
      let outcome := run limits program input output
      let world := compilation.term.perform compilation.draft.symbols (.initial input output)
      (input.closed = false → output.room = none → output.flushes = none →
        ∀ fault, outcome.result ≠ .error (.stream fault)) ∧
      (program.code.length ≤ limits.stack →
        program.cells.length + program.code.length ≤ limits.cells →
        ∀ limit, outcome.result ≠ .error (.stackLimit limit) ∧
          outcome.result ≠ .error (.cellLimit limit)) ∧
      ((∀ fault, outcome.result ≠ .error (.stream fault)) →
        (∀ limit, outcome.result ≠ .error (.stackLimit limit)) →
        (∀ limit, outcome.result ≠ .error (.cellLimit limit)) →
        outcome.result = .ok () ∧ outcome.state.output.written = world.output ∧
          outcome.state.input.bytes = world.input ∧
          ∀ symbol, compilation.draft.symbols.content? symbol = some .identifier →
            (compilation.symbols.get? symbol).bind Symbol.slot = some symbol ∧
              outcome.state.pool.get? symbol = some (world.values symbol)) := by
  have typed := wellTyped read clean
  obtain ⟨fit, unfit⟩ := program?_cases read clean
  rw [ofText?_of_program? read] at written ⊢
  have fits : compilation.term.Fits := by
    by_contra far
    obtain ⟨index, failed⟩ := unfit far
    exact written index failed
  refine ⟨_, fit fits, fun limits input output => ⟨fun reads room flushes => ?_, ?_, ?_⟩⟩
  · exact not_stream_of_endless limits _ ⟨reads, room, flushes⟩
  · exact not_limit_of_le input output (typed.accepted fits)
  · intro streams stack cells
    obtain ⟨finished, same, consumed, slots⟩ := typed.runs fits streams stack cells
    refine ⟨finished, same, consumed, fun symbol named => ?_⟩
    have slot := World.slot_variable (compilation.term.perform compilation.draft.symbols
      (.initial input output)) named
    have inside := SymbolTable.lt_size_of_content? named
    exact ⟨SymbolTable.slot_assignSlots inside, (slots symbol inside).trans slot⟩

theorem run_eq_perform_successor :
    ∃ compilation program, ofText? successor = .ok compilation ∧
      compilation.draft.diagnostics.size = 0 ∧ Program.ofText? successor = .ok program ∧
      (run .standard program (.ofBytes [0x34, 0x31, 0x0A]) .unbounded).result = .ok () ∧
      (compilation.term.perform compilation.draft.symbols
        (.initial (.ofBytes [0x34, 0x31, 0x0A]) .unbounded)).output.toList =
          Text.Utf8.encode "next: 42\n" := by
  obtain ⟨compilation, read, clean, -⟩ := read_successor
  have facts : ((Program.ofText? successor).toOption.map fun program =>
      let outcome := run .standard program (.ofBytes [0x34, 0x31, 0x0A]) .unbounded
      (outcome.result.toOption, outcome.state.output.written.toList)) =
        some (some (), Text.Utf8.encode "next: 42\n") := by decide +kernel
  obtain ⟨program, made, ended⟩ := Option.map_eq_some_iff.1 facts
  rw [Prod.mk.injEq] at ended
  have made := Result.toOption_eq_some_iff.1 made
  have finished := Result.toOption_eq_some_iff.1 ended.1
  obtain ⟨program', made', agrees⟩ := run_eq_perform read clean (by simp [made])
  rw [made, Except.ok.injEq] at made'
  subst made'
  obtain ⟨-, -, ends⟩ := agrees .standard (.ofBytes [0x34, 0x31, 0x0A]) .unbounded
  obtain ⟨-, output, -⟩ := ends (by simp [finished]) (by simp [finished]) (by simp [finished])
  exact ⟨compilation, program, read, clean, made, finished, by rw [← output]; exact ended.2⟩

end Compilation

end StackScript
