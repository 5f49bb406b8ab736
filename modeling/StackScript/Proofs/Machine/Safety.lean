import StackScript.Proofs.Machine.Execution
import StackScript.Proofs.Machine.Ownership
import StackScript.Proofs.Program.Heights

/-!
# Safety of accepted programs

The heights that a program is accepted with are those of the stack in every run, so no instruction
finds too few values and every turn leads forward. With that, a run ends after as many instructions
as there are at most, and the stack owns distinct cells in use all the way. What is left that may go
wrong with a cell is the slot of an instruction, and it does only where the program began with a
free cell.
-/

namespace StackScript.Machine

open Heights

section Turns

variable {limits : Limits} {code : List Instruction} {table : List (Option Nat)} {cells : Nat}
variable {config next : Config}

/-- A turn of code with consistent heights goes forward, to an instruction whose height is that of
the stack then. -/
theorem Turn.height (consistent : Consistent cells code table)
    (known : table[config.ip]? = some (some config.state.stack.length))
    (turn : Turn limits code config next) :
    config.ip < next.ip ∧ table[next.ip]? = some (some next.state.stack.length) := by
  cases turn with
  | @intro ip target state next instruction distance found done lands =>
      have rule := (executes_of_attempt done).1
      have recorded := consistent.recorded found known
      have after : next.stack.length =
          state.stack.length - instruction.pops + instruction.pushes := rule.length_stack
      simp only [← after] at recorded ⊢
      rcases rule.distance_cases with ⟨rfl, falls⟩ | ⟨offset, jumps, rfl⟩
      · have following : target = ip + 1 := by omega
        have onward := recorded.onward falls
        rw [List.getElem?_drop, Nat.add_zero] at onward
        exact ⟨by omega, following ▸ onward⟩
      · obtain ⟨distance, offset, there⟩ := recorded.jump jumps
        have destination : target = ip + 1 + distance := by omega
        rw [List.getElem?_drop] at there
        exact ⟨by omega, destination ▸ there⟩

/-- A turn adds one value and one cell at most. -/
theorem Turn.grows (turn : Turn limits code config next) :
    next.state.stack.length ≤ config.state.stack.length + 1 ∧
      next.state.pool.size ≤ config.state.pool.size + 1 := by
  cases turn with
  | @intro ip target state next instruction distance found done lands =>
      have rule := (executes_of_attempt done).1
      have stack : next.stack.length =
          state.stack.length - instruction.pops + instruction.pushes := rule.length_stack
      have pushes : instruction.pushes ≤ 1 := by cases instruction <;> simp [Instruction.pushes]
      constructor
      · change next.stack.length ≤ state.stack.length + 1
        omega
      · exact rule.size_pool

/-- The cells that the next instruction abandons. -/
def Config.abandons (code : List Instruction) (config : Config) : List Nat :=
  (code[config.ip]?).elim [] (Machine.abandons · config.state.stack)

/-- A turn changes owners on top of the stack only, and it frees all that they owned but what the
instruction abandons. -/
theorem Turn.owners (turn : Turn limits code config next) :
    ∃ freed added kept,
      Owners config.state next.state (config.abandons code ++ freed) freed added kept := by
  cases turn with
  | @intro ip target state next instruction distance found done lands =>
      obtain ⟨freed, added, kept, owners⟩ := (executes_of_attempt done).1.owners
      have same : Config.abandons code ⟨ip, state⟩ = abandons instruction state.begun.stack := by
        simp only [Config.abandons, found, Option.elim_some]
        rfl
      rw [same]
      exact ⟨freed, added, kept, owners.before, owners.after, owners.subset,
        owners.distinct, owners.fresh, owners.active, owners.size⟩

end Turns

/-- What holds wherever the run of an accepted program gets to. -/
structure Safe (program : Program) (heights : List (Option Nat)) (config : Config) : Prop where
  /-- The stack has the height that was found for the next instruction. -/
  height : heights[config.ip]? = some (some config.state.stack.length)
  owned : Owned config.state
  /-- No more instructions have been begun than there are in front of the next one. -/
  steps : config.state.steps ≤ config.ip
  /-- The cells of the program are still there. -/
  size : program.cells.length ≤ config.state.pool.size

section Accepted

variable {limits : Limits} {program : Program} {heights : List (Option Nat)}
variable {input : InputStream} {output : OutputStream} {config next : Config}

theorem safe_start
    (accepted : Instruction.heights program.code program.cells.length = .ok heights) :
    Safe program heights (.start program input output) where
  height := (heights_consistent accepted).2.1
  owned := owned_loaded program input output
  steps := Nat.le_refl 0
  size := Nat.le_refl _

theorem Turn.safe (accepted : Instruction.heights program.code program.cells.length = .ok heights)
    (safe : Safe program heights config) (turn : Turn limits program.code config next) :
    config.ip < next.ip ∧ Safe program heights next := by
  obtain ⟨forward, height⟩ := turn.height (heights_consistent accepted).2.2 safe.height
  obtain ⟨freed, added, kept, owners⟩ := turn.owners
  refine ⟨forward, height, owners.owned safe.owned, ?_, Nat.le_trans safe.size owners.size⟩
  rw [turn.steps_eq]
  exact Nat.succ_le_of_lt (Nat.lt_of_le_of_lt safe.steps forward)

theorem Reaches.safe
    (accepted : Instruction.heights program.code program.cells.length = .ok heights)
    (reach : Reaches limits program.code (.start program input output) config) :
    Safe program heights config :=
  reach.induct (Safe program heights) (safe_start accepted) fun _ safe turn =>
    (turn.safe accepted safe).2

/-- The run of an accepted program is a chain of turns. -/
theorem runChecked_halts_of_accepted (limits : Limits) (input : InputStream)
    (output : OutputStream)
    (accepted : Instruction.heights program.code program.cells.length = .ok heights) :
    ∃ config, Reaches limits program.code (.start program input output) config ∧
      Halts limits program.code config (runChecked limits program input output).result
        (runChecked limits program input output).state :=
  runChecked_halts fun reach turn => (turn.safe accepted (reach.safe accepted)).1

/-- A run takes at most a value and a cell for each instruction in front of the next one. -/
theorem Reaches.within
    (accepted : Instruction.heights program.code program.cells.length = .ok heights)
    (reach : Reaches limits program.code (.start program input output) config) :
    config.state.stack.length ≤ config.ip ∧
      config.state.pool.size ≤ program.cells.length + config.ip := by
  induction reach with
  | refl => exact ⟨Nat.le_refl 0, Nat.le_refl _⟩
  | tail earlier turn induction =>
      have forward := (turn.safe accepted (Reaches.safe accepted earlier)).1
      have grows := turn.grows
      constructor
      · omega
      · omega

/-- Where no cell of the program is free, none becomes so, and temporary values stay apart. -/
theorem Reaches.rooted (full : ∀ cell ∈ program.cells, cell.isFree = false)
    (reach : Reaches limits program.code (.start program input output) config) :
    Rooted program.cells.length config.state := by
  refine reach.induct (fun config => Rooted program.cells.length config.state)
    (rooted_loaded full input output) ?_
  intro config next earlier rooted turn
  obtain ⟨freed, added, kept, owners⟩ := turn.owners
  exact owners.rooted rooted

/-- The faults that the run of an accepted program may end with. -/
inductive Allowed (limits : Limits) (program : Program) (config : Config) : Fault → Prop
  | exceeds {fault : Fault} (exceeds : Exceeds limits config.state fault) :
      Allowed limits program config fault
  | stream (fault : StreamFault) : Allowed limits program config (.stream fault)
  | kind {instruction : Instruction} {position : Nat} {value : Value} {kind : ValueKind}
      (found : program.code[config.ip]? = some instruction)
      (there : config.state.stack[position]? = some value)
      (wanted : (wants instruction)[position]? = some kind) (differs : value.kind ≠ kind) :
      Allowed limits program config (.typeMismatch config.ip instruction kind value.kind)
  | slot {instruction : Instruction} {slot : Nat}
      (found : program.code[config.ip]? = some instruction)
      (named : instruction.slot? = some slot)
      (free : config.state.pool.cells[slot]? = some .free) :
      Allowed limits program config (.badCell config.ip slot)

theorem allowed_of_attempt
    (accepted : Instruction.heights program.code program.cells.length = .ok heights)
    (safe : Safe program heights config) {instruction : Instruction} {fault : Fault} {left : State}
    (found : program.code[config.ip]? = some instruction)
    (failed : (attempt limits config.ip instruction).run config.state = .error fault left) :
    Allowed limits program config fault := by
  have consistent := (heights_consistent accepted).2.2
  rcases (refuses_of_attempt failed).2 with ⟨-, exceeds⟩ | refuses
  · exact .exceeds exceeds
  · cases refuses with
    | underflow short =>
        have enough := consistent.pops found safe.height
        exact absurd short (Nat.not_lt_of_le enough)
    | mismatch there wanted differs => exact .kind found there wanted differs
    | slot named inactive =>
        have inside := Nat.lt_of_lt_of_le (consistent.slot found named) safe.size
        exact .slot found named (Pool.getElem?_eq_free inside inactive)
    | @operand index held inactive =>
        have active := safe.owned.isSome_of_mem_take held
        have missing : config.state.pool.get? index = none := inactive
        rw [missing] at active
        contradiction
    | write | flush | read => exact .stream _

/-- A run of an accepted program halts behind the last instruction or at an instruction that cannot
be done; it never goes back in front of the first one. -/
theorem Halts.cases_of_accepted
    (accepted : Instruction.heights program.code program.cells.length = .ok heights)
    (safe : Safe program heights config) {result : Except Fault Unit} {left : State}
    (halts : Halts limits program.code config result left) :
    result = .ok () ∧ config.ip = program.code.length ∧ left = config.state ∨
      ∃ instruction fault, result = .error fault ∧ program.code[config.ip]? = some instruction ∧
        (attempt limits config.ip instruction).run config.state = .error fault left := by
  cases halts with
  | @finished ip state behind =>
      have within : ip < heights.length := (List.getElem?_eq_some_iff.1 safe.height).1
      rw [(heights_consistent accepted).1] at within
      exact .inl ⟨rfl, Nat.le_antisymm (Nat.le_of_lt_succ within) behind, rfl⟩
  | faulted found failed => exact .inr ⟨_, _, rfl, found, failed⟩
  | @left ip state left instruction distance found done negative =>
      have consistent := (heights_consistent accepted).2.2
      have recorded := consistent.recorded found safe.height
      rcases (executes_of_attempt done).1.distance_cases with ⟨rfl, -⟩ | ⟨offset, jumps, rfl⟩
      · omega
      · obtain ⟨distance, forward, -⟩ := recorded.jump jumps
        omega

/-- A run ends where it may: behind the last instruction, or with an allowed fault. -/
theorem Halts.allowed
    (accepted : Instruction.heights program.code program.cells.length = .ok heights)
    (safe : Safe program heights config) {result : Except Fault Unit} {left : State}
    (halts : Halts limits program.code config result left) :
    left.steps ≤ program.code.length ∧
      (result = .ok () ∧ config.ip = program.code.length ∧ left = config.state ∨
        ∃ fault, result = .error fault ∧ Allowed limits program config fault) := by
  rcases halts.cases_of_accepted accepted safe with
    ⟨finished, last, rfl⟩ | ⟨instruction, fault, same, found, failed⟩
  · exact ⟨last ▸ safe.steps, .inl ⟨finished, last, rfl⟩⟩
  · have inside : config.ip < program.code.length := (List.getElem?_eq_some_iff.1 found).1
    refine ⟨?_, .inr ⟨fault, same, allowed_of_attempt accepted safe found failed⟩⟩
    rw [(refuses_of_attempt failed).1]
    exact Nat.succ_le_of_lt (Nat.lt_of_le_of_lt safe.steps inside)

theorem result_run_of_refused {fault : HeightFault} (refused : program.check = .error fault) :
    (run limits program input output).result = .error (.refused fault) := by
  simp only [run, refused]

/-- The run of an accepted program halts in a configuration that it has reached. -/
theorem run_halts (limits : Limits) (input : InputStream) (output : OutputStream)
    (accepted : Instruction.heights program.code program.cells.length = .ok heights) :
    ∃ (config : Config) (ended : Outcome),
      Reaches limits program.code (.start program input output) config ∧
      Halts limits program.code config ended.result ended.state ∧
      run limits program input output = ended.flushed := by
  obtain ⟨config, reach, halts⟩ := runChecked_halts_of_accepted limits input output accepted
  have checked := check_eq_ok_iff.2 ⟨heights, accepted⟩
  exact ⟨config, _, reach, halts, run_eq_flushed limits checked input output⟩

/-- What the run of an accepted program comes to, the last flush included. -/
theorem run_ends (limits : Limits) (input : InputStream) (output : OutputStream)
    (accepted : Instruction.heights program.code program.cells.length = .ok heights) :
    (run limits program input output).state.steps ≤ program.code.length ∧
      ∃ config, Reaches limits program.code (.start program input output) config ∧
        ((run limits program input output).result = .ok () ∧ config.ip = program.code.length ∨
          ∃ fault, (run limits program input output).result = .error fault ∧
            Allowed limits program config fault) := by
  obtain ⟨config, ended, reach, halts, same⟩ := run_halts limits input output accepted
  obtain ⟨steps, ending⟩ := halts.allowed accepted (reach.safe accepted)
  rw [same]
  refine ⟨steps, config, reach, ?_⟩
  rcases ended.flushed_cases with kept | ⟨fault, -, failed⟩
  · rw [kept]
    exact ending.imp (fun finished => ⟨finished.1, finished.2.1⟩) id
  · exact .inr ⟨_, failed, .stream fault⟩

/-- Bounds with a value and a cell for each instruction, besides the cells of the program, do not
end its run. -/
theorem not_limit_of_le (input : InputStream) (output : OutputStream)
    (accepted : Instruction.heights program.code program.cells.length = .ok heights)
    (stack : program.code.length ≤ limits.stack)
    (cells : program.cells.length + program.code.length ≤ limits.cells) (limit : Nat) :
    (run limits program input output).result ≠ .error (.stackLimit limit) ∧
      (run limits program input output).result ≠ .error (.cellLimit limit) := by
  obtain ⟨-, config, reach, ⟨finished, -⟩ | ⟨fault, failed, allowed⟩⟩ :=
    run_ends limits input output accepted
  · simp [finished]
  · have within := reach.within accepted
    have inside := (List.getElem?_eq_some_iff.1 (reach.safe accepted).height).1
    rw [(heights_consistent accepted).1] at inside
    rw [failed]
    cases allowed with
    | exceeds exceeds =>
        cases exceeds with
        | stack high => omega
        | cells large => omega
    | stream | kind | slot => simp

/-- A fault that ends a run refuses the program, or it is one that an accepted program may end with.
-/
theorem fault_cases {fault : Fault}
    (failed : (run limits program input output).result = .error fault) :
    (∃ refusal, fault = .refused refusal) ∨
      ∃ heights config, Instruction.heights program.code program.cells.length = .ok heights ∧
        Reaches limits program.code (.start program input output) config ∧
        Allowed limits program config fault := by
  cases checked : program.check with
  | error refusal =>
      rw [result_run_of_refused checked, Except.error.injEq] at failed
      exact .inl ⟨refusal, failed.symm⟩
  | ok _ =>
      obtain ⟨heights, accepted⟩ := check_eq_ok_iff.1 checked
      obtain ⟨-, config, reach, ⟨finished, -⟩ | ⟨fault', failed', allowed⟩⟩ :=
        run_ends limits input output accepted
      · rw [finished] at failed
        contradiction
      · rw [failed', Except.error.injEq] at failed
        exact .inr ⟨heights, config, accepted, reach, failed ▸ allowed⟩

/-- A bad cell is the slot of the instruction that it ends a run at, and it is free there. -/
theorem free_of_badCell {ip index : Nat}
    (ended : (run limits program input output).result = .error (.badCell ip index)) :
    ∃ config instruction, Reaches limits program.code (.start program input output) config ∧
      config.ip = ip ∧ program.code[ip]? = some instruction ∧ instruction.slot? = some index ∧
      config.state.pool.cells[index]? = some .free := by
  rcases fault_cases ended with ⟨refusal, same⟩ | ⟨heights, config, accepted, reach, allowed⟩
  · contradiction
  · cases allowed with
    | exceeds exceeds => cases exceeds
    | slot found named free => exact ⟨config, _, reach, rfl, found, named, free⟩

end Accepted

/-- Neither too few values nor a jump out of bounds ever ends a run. Where a program is accepted,
the heights found for it are those of the stack in every configuration of a run, which is a chain of
turns that go forward and ends after as many instructions as there are at most; the stack owns
distinct cells in use, and only the slot of an instruction may be free, which takes a free cell to
begin with. -/
theorem run_safe (limits : Limits) (program : Program) (input : InputStream)
    (output : OutputStream) :
    (∀ ip instruction, (run limits program input output).result ≠
      .error (.stackUnderflow ip instruction)) ∧
    (∀ ip, (run limits program input output).result ≠ .error (.jumpOutOfBounds ip)) ∧
    ∀ heights, Instruction.heights program.code program.cells.length = .ok heights →
      (∀ config, Reaches limits program.code (.start program input output) config →
        Safe program heights config ∧
        ∀ next, Turn limits program.code config next → config.ip < next.ip) ∧
      (∃ config, Reaches limits program.code (.start program input output) config ∧
        Halts limits program.code config (runChecked limits program input output).result
          (runChecked limits program input output).state) ∧
      (run limits program input output).state.steps ≤ program.code.length ∧
      (∀ ip index, (run limits program input output).result = .error (.badCell ip index) →
        ∃ config instruction,
          Reaches limits program.code (.start program input output) config ∧ config.ip = ip ∧
          program.code[ip]? = some instruction ∧ instruction.slot? = some index ∧
          config.state.pool.cells[index]? = some .free) ∧
      ((∀ cell ∈ program.cells, cell.isFree = false) →
        ∀ ip index, (run limits program input output).result ≠ .error (.badCell ip index)) := by
  refine ⟨fun ip instruction ended => ?_, fun ip ended => ?_, fun heights accepted => ?_⟩
  · rcases fault_cases ended with ⟨refusal, same⟩ | ⟨heights, config, accepted, reach, allowed⟩
    · contradiction
    · cases allowed with
      | exceeds exceeds => cases exceeds
  · rcases fault_cases ended with ⟨refusal, same⟩ | ⟨heights, config, accepted, reach, allowed⟩
    · contradiction
    · cases allowed with
      | exceeds exceeds => cases exceeds
  · refine ⟨fun config reach => ⟨reach.safe accepted, fun next turn => ?_⟩,
      runChecked_halts_of_accepted limits input output accepted,
      (run_ends limits input output accepted).1,
      fun ip index ended => free_of_badCell ended, fun full ip index ended => ?_⟩
    · exact (turn.safe accepted (reach.safe accepted)).1
    · obtain ⟨config, instruction, reach, -, found, named, free⟩ := free_of_badCell ended
      have inside := (heights_consistent accepted).2.2.slot found named
      have active := (reach.rooted full).active index inside
      obtain ⟨content, there⟩ := Option.isSome_iff_exists.1 active
      obtain ⟨same, kept⟩ := Pool.get?_eq_some_iff.1 there
      rw [free, Option.some.injEq] at same
      rw [← same] at kept
      contradiction

/-- A program that compares its first cell with itself and writes the second one if they agree. -/
def comparison : Program :=
  ⟨[.push 0, .push 0, .equal, .jumpIfFalse 3, .push 1, .print, .nop], [.string "a", .integer 3]⟩

theorem run_safe_comparison :
    Instruction.heights comparison.code comparison.cells.length =
        .ok [some 0, some 1, some 2, some 1, some 0, some 1, some 0, some 0] ∧
      (∀ cell ∈ comparison.cells, cell.isFree = false) ∧
      (run .standard comparison (.ofBytes []) .unbounded).state.steps ≤ comparison.code.length ∧
      ∀ ip index, (run .standard comparison (.ofBytes []) .unbounded).result ≠
        .error (.badCell ip index) := by
  have accepted : Instruction.heights comparison.code comparison.cells.length =
      .ok [some 0, some 1, some 2, some 1, some 0, some 1, some 0, some 0] := by rfl
  have full : ∀ cell ∈ comparison.cells, cell.isFree = false := by simp [comparison, Cell.isFree]
  obtain ⟨-, -, safe⟩ := run_safe .standard comparison (.ofBytes []) .unbounded
  obtain ⟨-, -, steps, -, never⟩ := safe _ accepted
  exact ⟨accepted, full, steps, never full⟩

end StackScript.Machine
