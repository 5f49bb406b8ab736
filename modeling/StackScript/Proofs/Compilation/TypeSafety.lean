import StackScript.Proofs.Compilation
import StackScript.Proofs.Machine.Steps
import StackScript.Proofs.Machine.Typing

/-!
# Type safety

The program of a script runs into the bounds of its run or into a closed stream, or it comes to its
end. Wherever an expression has been evaluated, a value of its static type is on top of the stack.
-/

namespace StackScript

open Machine

/-- What a static type says of a value: a boolean, a cell that holds an integer, or any cell that is
in use. -/
def Machine.Value.Matches (pool : Pool) : Value → Ty → Prop
  | .bool _, .bool => True
  | .cell index, .integer => ∃ value, pool.get? index = some (.integer value)
  | .cell index, .string => (pool.get? index).isSome
  | _, _ => False

/-- A value that stands for a datum of a type matches it. -/
theorem Machine.matches_of_is {pool : Pool} {value : Value} {datum : Datum} {type : Ty}
    (denotes : datum? pool value = some datum) (is : datum.Is type) : value.Matches pool type := by
  cases value with
  | bool value =>
      cases denotes
      cases type <;> first | exact trivial | contradiction
  | cell index =>
      obtain ⟨content, found, rfl⟩ := Option.map_eq_some_iff.1 denotes
      cases type with
      | string => exact Option.isSome_of_eq_some found
      | integer =>
          cases content with
          | integer value => exact ⟨value, found⟩
          | free | unknown | string => contradiction
      | void | bool | unknown => cases content <;> contradiction

/-- No symbol's cell is free. -/
theorem SymbolTable.isFree_of_mem_cells {table : SymbolTable} :
    ∀ cell ∈ table.cells, cell.isFree = false := by
  intro cell member
  obtain ⟨symbol, -, rfl⟩ := List.mem_map.1 member
  cases symbol.content <;> rfl

/-- The cells of a table are those that its symbols ask for. -/
theorem SymbolTable.getElem?_cells {table : SymbolTable} {slot : Nat} {content : Content}
    (known : table.content? slot = some content) : table.cells[slot]? = some content.cell := by
  obtain ⟨symbol, there, rfl⟩ := Option.map_eq_some_iff.1 known
  have found : table.symbols[slot]? = some symbol := there
  rw [cells, List.getElem?_map, found, Option.map_some]

namespace Term.WellTyped

variable {table : SymbolTable} {term : Term} {limits : Limits} {input : InputStream}
variable {output : OutputStream} {config : Config}

/-- Every configuration of the run of a well-typed script follows the script's code. -/
theorem follows (typed : term.WellTyped table) (fits : term.Fits)
    (reach : Reaches limits term.code (.start (term.program table) input output) config) :
    Follows table term.code (term.shapes [] ++ [some []])
      (.loaded (term.program table) input output) config := by
  refine reach.follows (typed.flow fits []) ?_
  exact ⟨_, [], .refl, shows_loaded SymbolTable.isFree_of_mem_cells input output,
    ⟨.nil, table.length_cells, fun _ _ known _ => SymbolTable.getElem?_cells known⟩,
    getElem?_zero_shapes term [] _⟩

/-- A run of a well-typed script ends behind the last instruction, at a bound or at a closed
stream. -/
theorem run_cases (typed : term.WellTyped table) (fits : term.Fits) (limits : Limits)
    (input : InputStream) (output : OutputStream) :
    let outcome := run limits (term.program table) input output
    outcome.result = .ok () ∨ (∃ fault, outcome.result = .error (.stream fault)) ∨
      outcome.result = .error (.stackLimit limits.stack) ∨
      outcome.result = .error (.cellLimit limits.cells) := by
  have flow := typed.flow fits []
  obtain ⟨-, config, reach, ⟨finished, -⟩ | ⟨fault, failed, allowed⟩⟩ :=
    run_ends limits input output (typed.accepted fits)
  · exact .inl finished
  · have follows := typed.follows fits reach
    right
    rw [failed]
    cases allowed with
    | stream fault => exact .inl ⟨fault, rfl⟩
    | exceeds exceeds =>
        cases exceeds with
        | stack => exact .inr (.inl rfl)
        | cells => exact .inr (.inr rfl)
    | kind found there wanted differs =>
        obtain ⟨fault, same⟩ :=
          stream_of_refuses flow follows found (.mismatch there wanted differs)
        contradiction
    | @slot instruction slot found named free =>
        have inactive : config.state.begun.pool.get? slot = none := by
          rw [Pool.get?, State.begun, free]
          rfl
        obtain ⟨fault, same⟩ := stream_of_refuses flow follows found (.slot named inactive)
        contradiction

/-- Behind the code of an expression, a value of its type is on top of the stack, above the values
that the expression was begun with. -/
theorem matches_of_reaches (typed : term.WellTyped table) (fits : term.Fits) {part : Term}
    {offset : Nat} {shape : Shape} (held : Part term offset shape part)
    (expression : part.kind.isStatement = false)
    (reach : Reaches limits term.code (.start (term.program table) input output) config)
    (here : config.ip = offset + part.code.length) :
    ∃ value rest, config.state.stack = value :: rest ∧ value.Matches config.state.pool part.type ∧
      rest.length = shape.length := by
  obtain ⟨view, shape', -, shows, viewed, there⟩ := typed.follows fits reach
  obtain ⟨-, -, stands⟩ := held.stands typed
  rw [here, stands.ended, Option.some.injEq, Option.some.injEq, leaves, expression] at there
  subst there
  obtain ⟨datum, data, is, below, same⟩ := List.forall₂_cons_right_iff.1 viewed.stack
  have denote := shows.data
  rw [same] at denote
  obtain ⟨value, rest, denotes, others, held⟩ := List.forall₂_cons_right_iff.1 denote
  exact ⟨value, rest, held, matches_of_is denotes is, others.length_eq.trans below.length_eq⟩

end Term.WellTyped

namespace Compilation

/-- Whatever the bounds and the streams, a run of the program of a script ends behind its last
instruction, at one of the bounds or at a closed stream. It halts in a configuration that its turns
have reached, and only the last flush is still to come. Wherever the run is behind the code of an
expression, a value of the static type of the expression is on top of the stack. -/
theorem run_sound {text : String} {compilation : Compilation}
    (read : ofText? text = .ok compilation) {program : Program}
    (made : compilation.program? = .ok program) (limits : Limits) (input : InputStream)
    (output : OutputStream) :
    ((run limits program input output).result = .ok () ∨
      (∃ fault, (run limits program input output).result = .error (.stream fault)) ∨
      (run limits program input output).result = .error (.stackLimit limits.stack) ∨
      (run limits program input output).result = .error (.cellLimit limits.cells)) ∧
    (∃ (config : Config) (ended : Machine.Outcome),
      Reaches limits program.code (.start program input output) config ∧
      Halts limits program.code config ended.result ended.state ∧
      run limits program input output = ended.flushed) ∧
    ∀ config offset shape part,
      Reaches limits program.code (.start program input output) config →
      Term.Part compilation.term offset shape part → part.kind.isStatement = false →
      config.ip = offset + part.code.length →
      ∃ value rest, config.state.stack = value :: rest ∧
        value.Matches config.state.pool part.type ∧ rest.length = shape.length := by
  obtain ⟨typed, fits, rfl⟩ := eq_of_program? read made
  exact ⟨typed.run_cases fits limits input output,
    run_halts limits input output (typed.accepted fits),
    fun _ _ _ _ reach held expression here =>
      typed.matches_of_reaches fits held expression reach here⟩

/-- The sum that the script assigns to its second variable. -/
def successorSum : Term :=
  .add (.integerConstant 4) (.coerceToInteger (.identifier 0))

/-- What the script does with a line that is not empty. -/
def successorBody : Term :=
  .sequence (.evaluate (.assign 3 successorSum)) (.print (.add (.stringConstant 5) (.identifier 3)))

/-- The condition of the script, with its branches. -/
def successorChoice : Term :=
  .ifElse (.equals (.identifier 0) (.stringConstant 1)) (.print (.stringConstant 2)) successorBody

/-- What the script means. -/
def successorTerm : Term :=
  .sequence (.input 0) successorChoice

theorem part_successorSum {compilation : Compilation}
    (read : ofText? successor = .ok compilation) :
    Term.Part compilation.term 9 [] successorSum := by
  have facts : (ofText? successor).toOption.map (·.term) = some successorTerm := by decide +kernel
  rw [read] at facts
  have same : compilation.term = successorTerm := Option.some.inj facts
  rw [same]
  have script : Term.Part successorTerm 0 [] successorTerm := .whole
  have choice : Term.Part _ 1 [] successorChoice := script.inside (.tail _ (.head _))
  have body : Term.Part _ 9 [] successorBody := choice.inside (.tail _ (.tail _ (.head _)))
  have statement : Term.Part _ 9 [] (.evaluate (.assign 3 successorSum)) := body.inside (.head _)
  have assignment : Term.Part _ 9 [] (.assign 3 successorSum) := statement.inside (.head _)
  exact assignment.inside (.head _)

/-- On a line with a number the run comes behind the sum, with one value on the stack. -/
theorem reaches_successorSum {program : Program} (made : Program.ofText? successor = .ok program) :
    ∃ config,
      Reaches .standard program.code (.start program (.ofBytes [0x34, 0x31, 0x0A]) .unbounded)
        config ∧
      config.ip = 9 + successorSum.code.length ∧ config.state.stack = [.cell 7] := by
  have facts : ((Program.ofText? successor).toOption.map fun program =>
      (program.check.toOption, decide (⟨13, .getTop 3, [.cell 7]⟩ ∈
        visits .standard program (.ofBytes [0x34, 0x31, 0x0A]) .unbounded))) =
        some (some (), true) := by decide +kernel
  rw [made] at facts
  obtain ⟨checked, shown⟩ := Prod.mk.inj (Option.some.inj facts)
  obtain ⟨heights, accepted⟩ := Heights.check_eq_ok_iff.1 (Result.toOption_eq_some_iff.1 checked)
  obtain ⟨config, reach, shown⟩ := (mem_visits_iff accepted).1 (of_decide_eq_true shown)
  exact ⟨config, reach, shown.ip.symm, shown.stack.symm⟩

theorem run_sound_successor :
    ∃ compilation program config value, ofText? successor = .ok compilation ∧
      compilation.program? = .ok program ∧
      (∀ limits input output, (run limits program input output).result = .ok () ∨
        (∃ fault, (run limits program input output).result = .error (.stream fault)) ∨
        (run limits program input output).result = .error (.stackLimit limits.stack) ∨
        (run limits program input output).result = .error (.cellLimit limits.cells)) ∧
      Reaches .standard program.code (.start program (.ofBytes [0x34, 0x31, 0x0A]) .unbounded)
        config ∧
      Term.Part compilation.term 9 [] successorSum ∧
      config.ip = 9 + successorSum.code.length ∧ config.state.stack = [value] ∧
      value.Matches config.state.pool .integer := by
  obtain ⟨compilation, read, clean, length⟩ := read_successor
  have fits : compilation.term.Fits := by
    apply Term.fits_of_length
    rw [← LinkedCode.length_ofTerm, length]
    decide
  have made := (program?_cases read clean).1 fits
  have part := part_successorSum read
  obtain ⟨config, reach, here, -⟩ :=
    reaches_successorSum ((ofText?_of_program? read).trans made)
  obtain ⟨-, -, held⟩ := run_sound read made .standard (.ofBytes [0x34, 0x31, 0x0A]) .unbounded
  obtain ⟨value, rest, stack, is, empty⟩ := held config 9 [] successorSum reach part rfl here
  obtain rfl := List.length_eq_zero_iff.1 empty
  exact ⟨compilation, _, config, value, read, made, fun limits input output =>
    (run_sound read made limits input output).1, reach, part, here, stack, is⟩

end Compilation

end StackScript
