import StackScript.Proofs.Machine.Instructions
import StackScript.Proofs.Text.LeadingInteger

/-!
# Integers as text and back

An integer in a cell survives its conversion to a string and back: its decimal text is read as the
integer that it was written from. Each conversion takes a cell that is not in use and frees that of
its operand, so no other value of the memory is touched.
-/

namespace StackScript.Machine

section Conversions

variable {state : State} {rest : List Value}

/-- Where a new value is placed and some cells are freed, these hold nothing, one new cell holds the
value, and the others hold what they held. -/
theorem get?_placing {content : Cell} (kept : content.isFree = false) (freed : List Nat)
    (stack : List Value) (index : Nat) :
    (state.placing content freed stack).pool.get? index =
      if index ∈ freed then none
      else if index = (state.pool.allocate content).2 then some content
      else state.pool.get? index := by
  rw [State.placing, Pool.get?_foldl_release, Pool.get?_allocate kept]

/-- The conversion to a string succeeds on every cell in use. -/
theorem run_integerToString {index : Nat} {content : Cell} (ip : Nat)
    (shape : state.stack = .cell index :: rest)
    (found : state.pool.get? index = some content) :
    (execute ip .integerToString).run state =
      .ok 1 (state.placing (.string (content.text?.getD "")) [index] rest) := by
  simp only [execute, executeIntegerToString, popCell, pop, cell, replace, EStateM.run_bind,
    EStateM.run_get, EStateM.run_set, EStateM.run_pure, shape, found]
  rfl

/-- The conversion to an integer succeeds on every cell in use. -/
theorem run_stringToInteger {index : Nat} {content : Cell} (ip : Nat)
    (shape : state.stack = .cell index :: rest)
    (found : state.pool.get? index = some content) :
    (execute ip .stringToInteger).run state =
      .ok 1 (state.placing (.integer content.toInteger) [index] rest) := by
  simp only [execute, executeStringToInteger, pop, cell, replace, EStateM.run_bind,
    EStateM.run_get, EStateM.run_set, EStateM.run_pure, shape, found]
  rfl

/-- An integer is the integer of its text. -/
theorem toInteger_text (value : Int64) :
    (Cell.string ((Cell.integer value).text?.getD "")).toInteger = value := by
  have other : ∀ c, "".toList.head? = some c → c.isDigit = false := by simp
  have read := Text.leadingInteger_decimal_append value other
  rwa [String.append_empty] at read

/-- The conversions of an integer to a string and back succeed in turn. They leave the integer in a
cell that was the operand's own or not in use, free the operand's own cell if it is another one, and
change nothing else. -/
theorem integer_restored {index : Nat} {value : Int64} (first second : Nat)
    (shape : state.stack = .cell index :: rest)
    (found : state.pool.get? index = some (.integer value)) :
    ∃ middle last fresh,
      (execute first .integerToString).run state = .ok 1 middle ∧
      (execute second .stringToInteger).run middle = .ok 1 last ∧
      last = { state with stack := .cell fresh :: rest, pool := last.pool } ∧
      last.pool.get? fresh = some (.integer value) ∧
      (fresh = index ∨ state.pool.get? fresh = none) ∧
      ∀ other ≠ fresh,
        last.pool.get? other = if other = index then none else state.pool.get? other := by
  let text : Cell := .string ((Cell.integer value).text?.getD "")
  let middle := state.placing text [index] rest
  let written := (state.pool.allocate text).2
  let last := middle.placing (.integer text.toInteger) [written] rest
  let fresh := (middle.pool.allocate (.integer text.toInteger)).2
  have restored : text.toInteger = value := toInteger_text value
  have unused : state.pool.get? written = none := state.pool.get?_allocate_fresh text
  have apart : written ≠ index := by
    intro same
    rw [same, found] at unused
    contradiction
  have between (other : Nat) : middle.pool.get? other =
      if other ∈ [index] then none else if other = written then some text
      else state.pool.get? other := get?_placing rfl [index] rest other
  have there : middle.pool.get? written = some text := by
    rw [between, if_neg (by simpa using apart), if_pos rfl]
  have behind (other : Nat) : last.pool.get? other =
      if other ∈ [written] then none else if other = fresh then some (.integer text.toInteger)
      else middle.pool.get? other := get?_placing rfl [written] rest other
  have missing : middle.pool.get? fresh = none := middle.pool.get?_allocate_fresh _
  have moved : fresh ≠ written := by
    intro same
    rw [same, there] at missing
    contradiction
  refine ⟨middle, last, fresh, run_integerToString first shape found,
    run_stringToInteger second rfl there, rfl, ?_, ?_, fun other differs => ?_⟩
  · rw [behind, if_neg (by simpa using moved), if_pos rfl, restored]
  · by_cases same : fresh = index
    · exact .inl same
    · rw [between, if_neg (by simpa using same), if_neg moved] at missing
      exact .inr missing
  · rw [behind, between, if_neg differs]
    simp only [List.mem_singleton]
    by_cases here : other = written
    · rw [if_pos here, here, if_neg apart, unused]
    · rw [if_neg here, if_neg here]

end Conversions

/-- What a text is read as is the number that it starts with, or the nearest end of the range. So
the decimal text of an integer is read as that integer, whatever follows it but a digit, and an
integer in a cell comes back from its conversion to a string: both conversions succeed, and the rest
of the memory, the stack and the streams are as before. -/
theorem integers_read_back :
    (∀ text : String,
      (Text.leadingInteger text).toInt = Text.clamped (Text.leadingNumber text.toList)) ∧
    (∀ (value : Int64) (suffix : String),
      (∀ c, suffix.toList.head? = some c → c.isDigit = false) →
        Text.leadingInteger (Text.decimal value.toInt ++ suffix) = value) ∧
    ∀ (first second : Nat) (state : State) (index : Nat) (rest : List Value) (value : Int64),
      state.stack = .cell index :: rest → state.pool.get? index = some (.integer value) →
        ∃ middle last fresh,
          (execute first .integerToString).run state = .ok 1 middle ∧
          (execute second .stringToInteger).run middle = .ok 1 last ∧
          last = { state with stack := .cell fresh :: rest, pool := last.pool } ∧
          last.pool.get? fresh = some (.integer value) ∧
          (fresh = index ∨ state.pool.get? fresh = none) ∧
          ∀ other ≠ fresh,
            last.pool.get? other = if other = index then none else state.pool.get? other := by
  refine ⟨Text.toInt_leadingInteger, fun value suffix other => ?_, ?_⟩
  · exact Text.leadingInteger_decimal_append value other
  · intro first second state index rest value shape found
    exact integer_restored first second shape found

/-- The least integer on top of the stack, its cell between two others. -/
def leastOnTop : State :=
  ⟨[.cell 1, .bool true], ⟨[.unknown, .integer Int64.minValue, .string "x"]⟩, 0, .ofBytes [],
    .unbounded⟩

theorem integers_read_back_least :
    (∀ c, " km".toList.head? = some c → c.isDigit = false) ∧
      Text.leadingInteger (Text.decimal Int64.minValue.toInt ++ " km") = Int64.minValue ∧
      leastOnTop.pool.get? 1 = some (.integer Int64.minValue) ∧
      ∃ middle last fresh,
        (execute 0 .integerToString).run leastOnTop = .ok 1 middle ∧
        (execute 1 .stringToInteger).run middle = .ok 1 last ∧
        last.stack = [.cell fresh, .bool true] ∧
        last.pool.get? fresh = some (.integer Int64.minValue) := by
  have other : ∀ c, " km".toList.head? = some c → c.isDigit = false := by
    rintro c same
    cases same
    rfl
  have found : leastOnTop.pool.get? 1 = some (.integer Int64.minValue) := rfl
  obtain ⟨-, suffixed, restored⟩ := integers_read_back
  obtain ⟨middle, last, fresh, written, read, same, there, -⟩ :=
    restored 0 1 leastOnTop 1 [.bool true] Int64.minValue rfl found
  refine ⟨other, suffixed Int64.minValue " km" other, found, middle, last, fresh, written, read,
    ?_, there⟩
  rw [same]

end StackScript.Machine
