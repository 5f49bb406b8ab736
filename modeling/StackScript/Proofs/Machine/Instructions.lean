import StackScript.Machine
import StackScript.Proofs.Datum
import StackScript.Proofs.Machine.Pool

/-!
# What instructions do

An instruction ends in one of two ways, and both are described here once. `Executes` has a rule for
each instruction and says what it leaves behind; `Refuses` says which fault an instruction may end
with and why. `execute_ends` is the only statement that looks inside `execute`.
-/

namespace StackScript.Machine

/-- An action that is begun in a state either answers as described or faults as described. -/
def Ends {α : Type} (action : Action α) (state : State) (answers : α → State → Prop)
    (faults : Fault → State → Prop) : Prop :=
  match action.run state with
  | .ok value next => answers value next
  | .error fault next => faults fault next

section Parts

variable {α β : Type} {state : State} {answers : α → State → Prop} {faults : Fault → State → Prop}

theorem ends_pure {value : α} (answered : answers value state) :
    Ends (pure value) state answers faults := answered

theorem ends_throw {fault : Fault} (faulted : faults fault state) :
    Ends (throw fault) state answers faults := faulted

/-- Actions in a row end as the second one does, unless the first one faults. -/
theorem ends_bind {first : Action β} {second : β → Action α}
    (ended : Ends first state (fun value next => Ends (second value) next answers faults) faults) :
    Ends (first >>= second) state answers faults := by
  unfold Ends at ended ⊢
  rw [EStateM.run_bind]
  cases run : first.run state with
  | ok value next => simpa only [run] using ended
  | error fault next => simpa only [run] using ended

/-- What an action ends with may be described less closely. -/
theorem Ends.imp {action : Action α} {answers' : α → State → Prop} {faults' : Fault → State → Prop}
    (ended : Ends action state answers faults)
    (answered : ∀ value next, answers value next → answers' value next)
    (faulted : ∀ fault next, faults fault next → faults' fault next) :
    Ends action state answers' faults' := by
  unfold Ends at ended ⊢
  cases run : action.run state with
  | ok value next => exact answered value next (by simpa only [run] using ended)
  | error fault next => exact faulted fault next (by simpa only [run] using ended)

theorem ends_get {answers : State → State → Prop} (answered : answers state state) :
    Ends get state answers faults := answered

theorem ends_set {answers : PUnit → State → Prop} {next : State} (answered : answers ⟨⟩ next) :
    Ends (set next) state answers faults := answered

theorem ends_modify {answers : PUnit → State → Prop} {change : State → State}
    (answered : answers ⟨⟩ (change state)) : Ends (modify change) state answers faults := answered

theorem ends_pop {answers : Value → State → Prop} {ip : Nat} {instruction : Instruction}
    (taken : ∀ value rest, state.stack = value :: rest →
      answers value { state with stack := rest })
    (empty : state.stack = [] → faults (.stackUnderflow ip instruction) state) :
    Ends (pop ip instruction) state answers faults := by
  refine ends_bind (ends_get ?_)
  cases shape : state.stack with
  | nil => exact ends_throw (empty shape)
  | cons value rest => exact ends_bind (ends_set (ends_pure (taken value rest shape)))

theorem ends_top {answers : Value → State → Prop} {ip : Nat} {instruction : Instruction}
    (seen : ∀ value rest, state.stack = value :: rest → answers value state)
    (empty : state.stack = [] → faults (.stackUnderflow ip instruction) state) :
    Ends (top ip instruction) state answers faults := by
  refine ends_bind (ends_get ?_)
  cases shape : state.stack with
  | nil => exact ends_throw (empty shape)
  | cons value rest => exact ends_pure (seen value rest shape)

theorem ends_popCell {answers : Nat → State → Prop} {ip : Nat} {instruction : Instruction}
    (taken : ∀ index rest, state.stack = .cell index :: rest →
      answers index { state with stack := rest })
    (empty : state.stack = [] → faults (.stackUnderflow ip instruction) state)
    (differs : ∀ value rest, state.stack = .bool value :: rest →
      faults (.typeMismatch ip instruction .cell .bool) { state with stack := rest }) :
    Ends (popCell ip instruction) state answers faults := by
  refine ends_bind (ends_pop (fun value rest shape => ?_) empty)
  cases value with
  | cell index => exact ends_pure (taken index rest shape)
  | bool value => exact ends_throw (differs value rest shape)

theorem ends_popBool {answers : Bool → State → Prop} {ip : Nat} {instruction : Instruction}
    (taken : ∀ value rest, state.stack = .bool value :: rest →
      answers value { state with stack := rest })
    (empty : state.stack = [] → faults (.stackUnderflow ip instruction) state)
    (differs : ∀ index rest, state.stack = .cell index :: rest →
      faults (.typeMismatch ip instruction .bool .cell) { state with stack := rest }) :
    Ends (popBool ip instruction) state answers faults := by
  refine ends_bind (ends_pop (fun value rest shape => ?_) empty)
  cases value with
  | bool value => exact ends_pure (taken value rest shape)
  | cell index => exact ends_throw (differs index rest shape)

theorem ends_cell {answers : Cell → State → Prop} {ip index : Nat}
    (found : ∀ content, state.pool.get? index = some content → answers content state)
    (inactive : state.pool.get? index = none → faults (.badCell ip index) state) :
    Ends (cell ip index) state answers faults := by
  refine ends_bind (ends_get ?_)
  cases look : state.pool.get? index with
  | none => exact ends_throw (inactive look)
  | some content => exact ends_pure (found content look)

theorem ends_store {answers : Unit → State → Prop} {ip slot : Nat} {content : Cell}
    (stored : (state.pool.get? slot).isSome →
      answers () { state with pool := state.pool.set slot content })
    (inactive : state.pool.get? slot = none → faults (.badCell ip slot) state) :
    Ends (store ip slot content) state answers faults := by
  refine ends_bind (ends_cell (fun old found => ?_) inactive)
  exact ends_modify (stored (by rw [found, Option.isSome_some]))

theorem ends_withOutput {answers : Unit → State → Prop}
    {use : OutputStream → Except StreamFault Unit × OutputStream}
    (used : ∀ output, use state.output = (.ok (), output) →
      answers () { state with output := output })
    (failed : ∀ fault output, use state.output = (.error fault, output) →
      faults (.stream fault) { state with output := output }) :
    Ends (withOutput use) state answers faults := by
  refine ends_bind (ends_get ?_)
  rcases result : use state.output with ⟨⟨fault⟩ | ⟨⟩, output⟩
  · exact ends_bind (ends_set (ends_throw (failed fault output result)))
  · exact ends_bind (ends_set (ends_pure (used output result)))

theorem ends_readLine {answers : String → State → Prop}
    (read : ∀ text input, state.input.readLine = (.ok text, input) →
      answers text { state with input := input })
    (failed : ∀ fault input, state.input.readLine = (.error fault, input) →
      faults (.stream fault) { state with input := input }) :
    Ends readLine state answers faults := by
  refine ends_bind (ends_get ?_)
  rcases result : state.input.readLine with ⟨⟨fault⟩ | ⟨text⟩, input⟩
  · exact ends_bind (ends_set (ends_throw (failed fault input result)))
  · exact ends_bind (ends_set (ends_pure (read text input result)))

end Parts

/-! ## Instructions that succeed -/

/-- What a value of the stack stands for, unless it names a cell that is not in use. -/
def datum? (pool : Pool) : Value → Option Datum
  | .cell index => (pool.get? index).map .cell
  | .bool value => some (.bool value)

/-- The state with another stack, and some cells freed. -/
def State.freeing (state : State) (freed : List Nat) (stack : List Value) : State :=
  { state with stack := stack, pool := freed.foldl Pool.release state.pool }

/-- The state with a new value in a cell of its own on top of a stack, and some cells freed after
the new one is taken. -/
def State.placing (state : State) (content : Cell) (freed : List Nat) (stack : List Value) :
    State :=
  { state with
    stack := .cell (state.pool.allocate content).2 :: stack
    pool := freed.foldl Pool.release (state.pool.allocate content).1 }

/-- Write a line of text, if there is one. -/
def writeLine? (output : OutputStream) : Option String → Except StreamFault Unit × OutputStream
  | some text => output.write (Text.Utf8.encode (text ++ "\n"))
  | none => (.ok (), output)

/-- Flushing a stream writes nothing. -/
theorem written_flush (output : OutputStream) : output.flush.2.written = output.written := by
  rw [OutputStream.flush]
  split <;> rfl

/-- An instruction that is done in a state, how far off the next one is, and the state it leaves. -/
inductive Executes (state : State) : Instruction → Int → State → Prop
  | nop : Executes state .nop 1 state
  | push {slot : Nat} {content : Cell} (found : state.pool.get? slot = some content) :
      Executes state (.push slot) 1 (state.placing content [] state.stack)
  | getTop {slot : Nat} {value : Value} {rest : List Value} {datum : Datum}
      (shape : state.stack = value :: rest) (found : datum? state.pool value = some datum)
      (active : (state.pool.get? slot).isSome) :
      Executes state (.getTop slot) 1 { state with pool := state.pool.set slot datum.stored }
  | discard {value : Value} {rest : List Value} (shape : state.stack = value :: rest) :
      Executes state .discard 1 (state.freeing value.cells rest)
  | print {value : Value} {rest : List Value} {datum : Datum} {output : OutputStream}
      (shape : state.stack = value :: rest) (found : datum? state.pool value = some datum)
      (written : writeLine? state.output datum.text? = (.ok (), output)) :
      Executes state .print 1 { state.freeing value.cells rest with output := output }
  | input {slot : Nat} {text : String} {output : OutputStream} {input : InputStream}
      (flushed : state.output.flush = (.ok (), output))
      (read : state.input.readLine = (.ok text, input))
      (active : (state.pool.get? slot).isSome) :
      Executes state (.input slot) 1
        { state with
          pool := state.pool.set slot (.string text)
          input := input
          output := output }
  | jump {offset : Int32} : Executes state (.jump offset) offset.toInt state
  | jumpIfFalse {offset : Int32} {value : Bool} {rest : List Value}
      (shape : state.stack = .bool value :: rest) :
      Executes state (.jumpIfFalse offset) (if value then 1 else offset.toInt)
        (state.freeing [] rest)
  | equal {right left : Nat} {rest : List Value} {rightContent leftContent : Cell}
      (shape : state.stack = .cell right :: .cell left :: rest)
      (rightFound : state.pool.get? right = some rightContent)
      (leftFound : state.pool.get? left = some leftContent) :
      Executes state .equal 1
        (state.freeing [right, left] (.bool (rightContent.agrees leftContent) :: rest))
  | boolEqual {right left : Value} {rest : List Value}
      (shape : state.stack = right :: left :: rest) :
      Executes state .boolEqual 1 (state.freeing [] (.bool (right = left) :: rest))
  | add {right left : Nat} {rest : List Value} {rightContent leftContent : Cell}
      (shape : state.stack = .cell right :: .cell left :: rest)
      (rightFound : state.pool.get? right = some rightContent)
      (leftFound : state.pool.get? left = some leftContent) :
      Executes state .add 1 (state.placing (leftContent.add rightContent) [right, left] rest)
  | boolToString {value : Bool} {rest : List Value} (shape : state.stack = .bool value :: rest) :
      Executes state .boolToString 1 (state.placing (.string (boolText value)) [] rest)
  | integerToString {index : Nat} {rest : List Value} {content : Cell}
      (shape : state.stack = .cell index :: rest)
      (found : state.pool.get? index = some content) :
      Executes state .integerToString 1
        (state.placing (.string (content.text?.getD "")) [index] rest)
  | stringToInteger {value : Value} {rest : List Value} {datum : Datum}
      (shape : state.stack = value :: rest) (found : datum? state.pool value = some datum) :
      Executes state .stringToInteger 1
        (state.placing (.integer datum.toInteger) value.cells rest)

/-! ## Instructions that fault -/

/-- The kinds that an instruction asks of the values it takes, the top first; without an entry,
either kind will do. -/
def wants : Instruction → List ValueKind
  | .equal | .add => [.cell, .cell]
  | .jumpIfFalse _ | .boolToString => [.bool]
  | .integerToString => [.cell]
  | _ => []

/-- A fault that an instruction ends with in a state, and what is wrong there. -/
inductive Refuses (ip : Nat) (state : State) (instruction : Instruction) : Fault → Prop
  | underflow (short : state.stack.length < instruction.pops) :
      Refuses ip state instruction (.stackUnderflow ip instruction)
  | mismatch {position : Nat} {value : Value} {kind : ValueKind}
      (there : state.stack[position]? = some value)
      (wanted : (wants instruction)[position]? = some kind) (differs : value.kind ≠ kind) :
      Refuses ip state instruction (.typeMismatch ip instruction kind value.kind)
  | slot {slot : Nat} (named : instruction.slot? = some slot)
      (inactive : state.pool.get? slot = none) :
      Refuses ip state instruction (.badCell ip slot)
  | operand {index : Nat} (held : .cell index ∈ state.stack.take instruction.pops)
      (inactive : state.pool.get? index = none) :
      Refuses ip state instruction (.badCell ip index)
  | write {text : String} {fault : StreamFault} {output : OutputStream}
      (failed : writeLine? state.output (some text) = (.error fault, output)) :
      Refuses ip state instruction (.stream fault)
  | flush {fault : StreamFault} {output : OutputStream}
      (failed : state.output.flush = (.error fault, output)) :
      Refuses ip state instruction (.stream fault)
  | read {fault : StreamFault} {input : InputStream}
      (failed : state.input.readLine = (.error fault, input)) :
      Refuses ip state instruction (.stream fault)

/-- An instruction ends with a fault for which there is a reason; no step is counted for it, and the
memory is as it was. -/
structure Faults (ip : Nat) (state : State) (instruction : Instruction) (fault : Fault)
    (next : State) : Prop where
  reason : Refuses ip state instruction fault
  steps : next.steps = state.steps
  pool : next.pool = state.pool

/-- An instruction is done by its rule, or it faults for one of the reasons there are. -/
abbrev Described (ip : Nat) (state : State) (instruction : Instruction) : Prop :=
  Ends (execute ip instruction) state
    (fun distance next => Executes state instruction distance next)
    (Faults ip state instruction)

theorem datum?_cell {pool : Pool} {index : Nat} {content : Cell}
    (found : pool.get? index = some content) :
    datum? pool (.cell index) = some (.cell content) := by
  rw [datum?, found, Option.map_some]

/-- Too few values make an instruction fault. -/
theorem faults_of_short {ip : Nat} {state next : State} {instruction : Instruction}
    (short : state.stack.length < instruction.pops) (steps : next.steps = state.steps)
    (pool : next.pool = state.pool) :
    Faults ip state instruction (.stackUnderflow ip instruction) next :=
  ⟨.underflow short, steps, pool⟩

/-- A value of the wrong kind on top makes an instruction fault. -/
theorem faults_of_kind {ip : Nat} {state next : State} {instruction : Instruction} {value : Value}
    {rest : List Value} {kind : ValueKind} (shape : state.stack = value :: rest)
    (wanted : (wants instruction)[0]? = some kind) (differs : value.kind ≠ kind)
    (steps : next.steps = state.steps) (pool : next.pool = state.pool) :
    Faults ip state instruction (.typeMismatch ip instruction kind value.kind) next := by
  have there : state.stack[0]? = some value := by rw [shape, List.getElem?_cons_zero]
  exact ⟨.mismatch there wanted differs, steps, pool⟩

theorem described_push (ip : Nat) (state : State) (slot : Nat) :
    Described ip state (.push slot) := by
  refine ends_bind (ends_cell (fun content found => ?_)
    (fun inactive => ⟨.slot rfl inactive, rfl, rfl⟩))
  exact ends_bind (ends_modify (ends_pure (.push found)))

theorem described_getTop (ip : Nat) (state : State) (slot : Nat) :
    Described ip state (.getTop slot) := by
  refine ends_bind (ends_bind (ends_top (fun value rest shape => ?_) (fun empty => ?_)))
  · cases value with
    | bool value =>
        refine ends_store (fun active => ?_) (fun inactive => ⟨.slot rfl inactive, rfl, rfl⟩)
        exact ends_pure (.getTop shape rfl active)
    | cell index =>
        refine ends_bind (ends_cell (fun content found => ?_) (fun inactive => ?_))
        · refine ends_store (fun active => ?_) (fun inactive => ⟨.slot rfl inactive, rfl, rfl⟩)
          exact ends_pure (.getTop shape (datum?_cell found) active)
        · exact ⟨.operand (by simp [shape, Instruction.pops]) inactive, rfl, rfl⟩
  · exact faults_of_short (by simp [empty, Instruction.pops]) rfl rfl

theorem described_discard (ip : Nat) (state : State) : Described ip state .discard := by
  refine ends_bind (ends_pop (fun value rest shape => ?_) (fun empty => ?_))
  · exact ends_bind (ends_modify (ends_pure (.discard shape)))
  · exact faults_of_short (by simp [empty, Instruction.pops]) rfl rfl

theorem described_print (ip : Nat) (state : State) : Described ip state .print := by
  refine ends_bind (ends_bind (ends_pop (fun value rest shape => ?_) (fun empty => ?_)))
  · cases value with
    | bool value =>
        refine ends_bind (ends_withOutput (fun output written => ?_)
          (fun fault output failed => ?_))
        · exact ends_modify (ends_pure (.print shape rfl written))
        · exact ⟨.write failed, rfl, rfl⟩
    | cell index =>
        refine ends_bind (ends_bind (ends_cell (fun content found => ?_) (fun inactive => ?_)))
        · cases text : content.text? with
          | none =>
              refine ends_modify (ends_pure (.print shape (datum?_cell found) ?_))
              rw [Datum.text?, text]
              rfl
          | some line =>
              refine ends_bind (ends_withOutput (fun output written => ?_)
                (fun fault output failed => ?_))
              · refine ends_modify (ends_pure (.print shape (datum?_cell found) ?_))
                rw [Datum.text?, text]
                exact written
              · exact ⟨.write failed, rfl, rfl⟩
        · exact ⟨.operand (by simp [shape, Instruction.pops]) inactive, rfl, rfl⟩
  · exact faults_of_short (by simp [empty, Instruction.pops]) rfl rfl

theorem described_input (ip : Nat) (state : State) (slot : Nat) :
    Described ip state (.input slot) := by
  refine ends_bind (ends_bind (ends_withOutput (fun output flushed => ?_)
    (fun fault output failed => ⟨.flush failed, rfl, rfl⟩)))
  refine ends_bind (ends_readLine (fun text input read => ?_)
    (fun fault input failed => ⟨.read failed, rfl, rfl⟩))
  refine ends_store (fun active => ?_) (fun inactive => ⟨.slot rfl inactive, rfl, rfl⟩)
  exact ends_pure (.input flushed read active)

theorem described_jumpIfFalse (ip : Nat) (state : State) (offset : Int32) :
    Described ip state (.jumpIfFalse offset) := by
  refine ends_bind (ends_popBool (fun value rest shape => ?_) (fun empty => ?_)
    (fun index rest shape => ?_))
  · cases value with
    | true => exact ends_pure (.jumpIfFalse shape)
    | false => exact ends_pure (.jumpIfFalse shape)
  · exact faults_of_short (by simp [empty, Instruction.pops]) rfl rfl
  · exact faults_of_kind shape rfl (by simp [Value.kind]) rfl rfl

/-- The operands of a comparison or sum of cells: both are cells in use. -/
theorem ends_popCells {α : Type} {ip : Nat} {state : State} {instruction : Instruction}
    {answers : α → State → Prop} {continuation : Nat → Nat → Action α}
    (pops : instruction.pops = 2) (kinds : wants instruction = [.cell, .cell])
    (taken : ∀ right left rest, state.stack = .cell right :: .cell left :: rest →
      Ends (continuation right left) { state with stack := rest } answers
        (Faults ip state instruction)) :
    Ends (do
        let right ← popCell ip instruction
        let left ← popCell ip instruction
        continuation right left) state answers
      (Faults ip state instruction) := by
  refine ends_bind (ends_popCell (fun right rest shape => ?_) (fun empty => ?_)
    (fun value rest shape => ?_))
  · refine ends_bind (ends_popCell (fun left rest' shape' => ?_) (fun empty => ?_)
      (fun value rest' shape' => ?_))
    · exact taken right left rest' (by rw [shape, ← shape'])
    · refine faults_of_short ?_ rfl rfl
      rw [shape, show rest = [] from empty, pops]
      exact Nat.lt_succ_self 1
    · have second : state.stack[1]? = some (.bool value) := by
        rw [shape, show rest = _ from shape']
        rfl
      exact ⟨.mismatch second (by rw [kinds]; rfl) (by simp [Value.kind]), rfl, rfl⟩
  · exact faults_of_short (by simp [empty, pops]) rfl rfl
  · exact faults_of_kind shape (by rw [kinds]; rfl) (by simp [Value.kind]) rfl rfl

theorem described_equal (ip : Nat) (state : State) : Described ip state .equal := by
  refine ends_bind (ends_popCells rfl rfl (fun right left rest shape => ?_))
  refine ends_bind (ends_cell (fun rightContent rightFound => ?_) (fun inactive => ?_))
  · refine ends_bind (ends_cell (fun leftContent leftFound => ?_) (fun inactive => ?_))
    · refine ends_bind (ends_modify (ends_modify (ends_pure ?_)))
      exact .equal shape rightFound leftFound
    · exact ⟨.operand (by simp [shape, Instruction.pops]) inactive, rfl, rfl⟩
  · exact ⟨.operand (by simp [shape, Instruction.pops]) inactive, rfl, rfl⟩

theorem described_boolEqual (ip : Nat) (state : State) : Described ip state .boolEqual := by
  refine ends_bind (ends_bind (ends_pop (fun right rest shape => ?_) (fun empty => ?_)))
  · refine ends_bind (ends_pop (fun left rest' shape' => ?_) (fun empty => ?_))
    · refine ends_modify (ends_pure (.boolEqual ?_))
      rw [shape, ← shape']
    · refine faults_of_short ?_ rfl rfl
      rw [shape, show rest = [] from empty]
      exact Nat.lt_succ_self 1
  · exact faults_of_short (by simp [empty, Instruction.pops]) rfl rfl

theorem described_add (ip : Nat) (state : State) : Described ip state .add := by
  refine ends_bind (ends_popCells rfl rfl (fun right left rest shape => ?_))
  refine ends_bind (ends_cell (fun leftContent leftFound => ?_) (fun inactive => ?_))
  · refine ends_bind (ends_cell (fun rightContent rightFound => ?_) (fun inactive => ?_))
    · exact ends_modify (ends_pure (.add shape rightFound leftFound))
    · exact ⟨.operand (by simp [shape, Instruction.pops]) inactive, rfl, rfl⟩
  · exact ⟨.operand (by simp [shape, Instruction.pops]) inactive, rfl, rfl⟩

theorem described_boolToString (ip : Nat) (state : State) :
    Described ip state .boolToString := by
  refine ends_bind (ends_bind (ends_popBool (fun value rest shape => ?_) (fun empty => ?_)
    (fun index rest shape => ?_)))
  · exact ends_modify (ends_pure (.boolToString shape))
  · exact faults_of_short (by simp [empty, Instruction.pops]) rfl rfl
  · exact faults_of_kind shape rfl (by simp [Value.kind]) rfl rfl

theorem described_integerToString (ip : Nat) (state : State) :
    Described ip state .integerToString := by
  refine ends_bind (ends_bind (ends_popCell (fun index rest shape => ?_) (fun empty => ?_)
    (fun value rest shape => ?_)))
  · refine ends_bind (ends_cell (fun content found => ?_) (fun inactive => ?_))
    · exact ends_modify (ends_pure (.integerToString shape found))
    · exact ⟨.operand (by simp [shape, Instruction.pops]) inactive, rfl, rfl⟩
  · exact faults_of_short (by simp [empty, Instruction.pops]) rfl rfl
  · exact faults_of_kind shape rfl (by simp [Value.kind]) rfl rfl

theorem described_stringToInteger (ip : Nat) (state : State) :
    Described ip state .stringToInteger := by
  refine ends_bind (ends_bind (ends_pop (fun value rest shape => ?_) (fun empty => ?_)))
  · cases value with
    | bool value => exact ends_modify (ends_pure (.stringToInteger shape rfl))
    | cell index =>
        refine ends_bind (ends_cell (fun content found => ?_) (fun inactive => ?_))
        · exact ends_modify (ends_pure (.stringToInteger shape (datum?_cell found)))
        · exact ⟨.operand (by simp [shape, Instruction.pops]) inactive, rfl, rfl⟩
  · exact faults_of_short (by simp [empty, Instruction.pops]) rfl rfl

/-- Every instruction is done by its rule or refuses for a reason. -/
theorem execute_ends (ip : Nat) (state : State) (instruction : Instruction) :
    Described ip state instruction := by
  cases instruction with
  | nop => exact ends_pure .nop
  | push slot => exact described_push ip state slot
  | getTop slot => exact described_getTop ip state slot
  | discard => exact described_discard ip state
  | print => exact described_print ip state
  | input slot => exact described_input ip state slot
  | jump offset => exact ends_pure .jump
  | jumpIfFalse offset => exact described_jumpIfFalse ip state offset
  | equal => exact described_equal ip state
  | boolEqual => exact described_boolEqual ip state
  | add => exact described_add ip state
  | boolToString => exact described_boolToString ip state
  | integerToString => exact described_integerToString ip state
  | stringToInteger => exact described_stringToInteger ip state

/-! ## What all instructions have in common -/

namespace Executes

variable {state next : State} {instruction : Instruction} {distance : Int}

/-- No instruction is a step by itself: steps are counted when an instruction is begun. -/
theorem steps_eq (rule : Executes state instruction distance next) : next.steps = state.steps := by
  cases rule <;> rfl

/-- The stack grows by what the instruction leaves and shrinks by what it takes. -/
theorem length_stack (rule : Executes state instruction distance next) :
    next.stack.length = state.stack.length - instruction.pops + instruction.pushes := by
  cases rule <;>
    simp_all [Instruction.pops, Instruction.pushes, State.freeing, State.placing]

/-- The next instruction is the following one or the one that a jump goes to. -/
theorem distance_cases (rule : Executes state instruction distance next) :
    distance = 1 ∧ instruction.fallsThrough = true ∨
      ∃ offset, instruction.offset? = some offset ∧ distance = offset.toInt := by
  cases rule with
  | jump => exact .inr ⟨_, rfl, rfl⟩
  | @jumpIfFalse offset value rest shape =>
      cases value with
      | true => exact .inl ⟨rfl, rfl⟩
      | false => exact .inr ⟨offset, rfl, rfl⟩
  | _ => exact .inl ⟨rfl, rfl⟩

end Executes

end StackScript.Machine
