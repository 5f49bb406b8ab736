import Mathlib.Data.List.Forall2
import StackScript.Proofs.Machine.Execution
import StackScript.Proofs.Machine.Ownership

/-!
# What a state shows

A view says what the values of the stack and the first cells of the memory hold, and not where the
values are kept. As long as every value has a cell of its own apart from the first ones,
instructions do to views what they do to states.
-/

namespace StackScript

namespace Machine

/-- The data of a state. -/
structure View where
  /-- What the values of the stack stand for, the top first. -/
  stack : List Datum
  /-- What the first cells hold. -/
  slots : List Cell
  /-- Where the program reads. -/
  input : InputStream
  /-- Where the program writes. -/
  output : OutputStream

/-- An instruction that is done to a view, how far off the next one is, and the view it leaves. -/
inductive Does (view : View) : Instruction → Int → View → Prop
  | nop : Does view .nop 1 view
  | push {slot : Nat} {content : Cell} (found : view.slots[slot]? = some content) :
      Does view (.push slot) 1 { view with stack := .cell content :: view.stack }
  | getTop {slot : Nat} {datum : Datum} {rest : List Datum} (shape : view.stack = datum :: rest) :
      Does view (.getTop slot) 1 { view with slots := view.slots.set slot datum.stored }
  | discard {datum : Datum} {rest : List Datum} (shape : view.stack = datum :: rest) :
      Does view .discard 1 { view with stack := rest }
  | print {datum : Datum} {rest : List Datum} {output : OutputStream}
      (shape : view.stack = datum :: rest)
      (written : writeLine? view.output datum.text? = (.ok (), output)) :
      Does view .print 1 { view with stack := rest, output := output }
  | input {slot : Nat} {text : String} {output : OutputStream} {input : InputStream}
      (flushed : view.output.flush = (.ok (), output))
      (read : view.input.readLine = (.ok text, input)) :
      Does view (.input slot) 1
        { view with
          slots := view.slots.set slot (.string text)
          input := input
          output := output }
  | jump {offset : Int32} : Does view (.jump offset) offset.toInt view
  | jumpIfFalse {offset : Int32} {value : Bool} {rest : List Datum}
      (shape : view.stack = .bool value :: rest) :
      Does view (.jumpIfFalse offset) (if value then 1 else offset.toInt)
        { view with stack := rest }
  | equal {right left : Cell} {rest : List Datum}
      (shape : view.stack = .cell right :: .cell left :: rest) :
      Does view .equal 1 { view with stack := .bool (right.agrees left) :: rest }
  | boolEqual {right left : Datum} {rest : List Datum}
      (shape : view.stack = right :: left :: rest) :
      Does view .boolEqual 1 { view with stack := .bool (right.sameBool left) :: rest }
  | add {right left : Cell} {rest : List Datum}
      (shape : view.stack = .cell right :: .cell left :: rest) :
      Does view .add 1 { view with stack := .cell (left.add right) :: rest }
  | boolToString {value : Bool} {rest : List Datum} (shape : view.stack = .bool value :: rest) :
      Does view .boolToString 1 { view with stack := .cell (.string (boolText value)) :: rest }
  | integerToString {content : Cell} {rest : List Datum}
      (shape : view.stack = .cell content :: rest) :
      Does view .integerToString 1
        { view with stack := .cell (.string (content.text?.getD "")) :: rest }
  | stringToInteger {datum : Datum} {rest : List Datum} (shape : view.stack = datum :: rest) :
      Does view .stringToInteger 1 { view with stack := .cell (.integer datum.toInteger) :: rest }

/-- An instruction does one thing to a view. -/
theorem Does.unique {view first second : View} {instruction : Instruction} {near far : Int}
    (left : Does view instruction near first) (right : Does view instruction far second) :
    near = far ∧ first = second := by
  cases left <;> cases right <;> simp_all

/-- Where code stands between two instructions, with what there is to work on. -/
structure Stage where
  /-- The number of the next instruction. -/
  ip : Nat
  /-- The data by then. -/
  view : View

/-- An instruction of some code is done to a view. -/
inductive Advances (code : List Instruction) : Stage → Stage → Prop
  | intro {ip target : Nat} {view view' : View} {instruction : Instruction} {distance : Int}
      (found : code[ip]? = some instruction) (does : Does view instruction distance view')
      (lands : (target : Int) = ip + distance) : Advances code ⟨ip, view⟩ ⟨target, view'⟩

/-- Some instructions of some code are done to a view. -/
def Proceeds (code : List Instruction) : Stage → Stage → Prop :=
  Relation.ReflTransGen (Advances code)

/-- One more instruction. -/
theorem Proceeds.jump {code : List Instruction} {start : Stage} {ip target : Nat}
    {view view' : View} {instruction : Instruction} {distance : Int}
    (earlier : Proceeds code start ⟨ip, view⟩) (found : code[ip]? = some instruction)
    (does : Does view instruction distance view') (lands : (target : Int) = ip + distance) :
    Proceeds code start ⟨target, view'⟩ :=
  earlier.tail (.intro found does lands)

/-- One more instruction, behind which the next one follows. -/
theorem Proceeds.next {code : List Instruction} {start : Stage} {ip : Nat} {view view' : View}
    {instruction : Instruction} (earlier : Proceeds code start ⟨ip, view⟩)
    (found : code[ip]? = some instruction) (does : Does view instruction 1 view') :
    Proceeds code start ⟨ip + 1, view'⟩ :=
  earlier.jump found does rfl

theorem Advances.unique {code : List Instruction} {stage first second : Stage}
    (left : Advances code stage first) (right : Advances code stage second) : first = second := by
  cases left with
  | intro found does lands =>
      cases right with
      | intro found' does' lands' =>
          rw [found, Option.some.injEq] at found'
          subst found'
          obtain ⟨rfl, rfl⟩ := does.unique does'
          rw [← lands, Int.ofNat_inj] at lands'
          rw [lands']

/-- Code stops at one place only. -/
theorem Proceeds.unique {code : List Instruction} {start first second : Stage}
    (left : Proceeds code start first) (right : Proceeds code start second)
    (stops : code.length ≤ first.ip) (stops' : code.length ≤ second.ip) : first = second := by
  have stuck {stage next : Stage} (behind : code.length ≤ stage.ip) :
      ¬ Advances code stage next := by
    intro advances
    cases advances with
    | intro found =>
        rw [List.getElem?_eq_none behind] at found
        contradiction
  have determined : Relator.RightUnique (Advances code) := fun _ _ _ => Advances.unique
  rcases eq_or_step determined left right fun _ => stuck stops' with same | ⟨next, advances⟩
  · exact same
  · exact absurd advances (stuck stops)

/-- What the values of a stack stand for. -/
abbrev Denote (pool : Pool) : List Value → List Datum → Prop :=
  List.Forall₂ fun value datum => datum? pool value = some datum

/-- A state has the data of a view, each value in a cell of its own apart from the first ones. -/
structure Shows (state : State) (view : View) : Prop where
  data : Denote state.pool state.stack view.stack
  slots : ∀ slot < view.slots.length, state.pool.get? slot = view.slots[slot]?
  owned : Owned state
  rooted : Rooted view.slots.length state
  input : state.input = view.input
  output : state.output = view.output

section Changes

variable {state next : State} {view : View} {stack : List Value} {data : List Datum}
variable {dropped freed : List Nat}

theorem datum?_congr {pool other : Pool} {value : Value}
    (same : ∀ index ∈ value.cells, other.get? index = pool.get? index) :
    datum? other value = datum? pool value := by
  cases value with
  | bool value => rfl
  | cell index => rw [datum?, datum?, same index (List.mem_singleton_self index)]

/-- Values whose cells are kept go on standing for the same. -/
theorem Denote.congr {pool other : Pool}
    (same : ∀ index ∈ stackCells stack, other.get? index = pool.get? index)
    (denote : Denote pool stack data) : Denote other stack data := by
  induction denote with
  | nil => exact .nil
  | @cons value datum stack data here _ induction =>
      rw [stackCells_cons] at same
      refine .cons ?_ (induction fun index named => same index (List.mem_append_right _ named))
      rw [datum?_congr fun index named => same index (List.mem_append_left _ named), here]

/-- Cells that are dropped are none of those that stay. -/
theorem Shows.not_mem_freed (shows : Shows state view)
    (before : stackCells state.stack = dropped ++ stackCells stack) (subset : freed ⊆ dropped)
    {index : Nat} (stays : index ∈ stackCells stack ∨ index < view.slots.length) :
    index ∉ freed := by
  intro member
  have named : index ∈ dropped := subset member
  rcases stays with below | inside
  · have distinct : (dropped ++ stackCells stack).Nodup := before ▸ shows.owned.distinct
    exact List.disjoint_of_nodup_append distinct named below
  · have outside := shows.rooted.apart index (before ▸ List.mem_append_left _ named)
    exact absurd inside (Nat.not_lt_of_le outside)

theorem Shows.isSome_of_stays (shows : Shows state view)
    (before : stackCells state.stack = dropped ++ stackCells stack) {index : Nat}
    (stays : index ∈ stackCells stack ∨ index < view.slots.length) :
    (state.pool.get? index).isSome := by
  rcases stays with below | inside
  · exact shows.owned.active index (before ▸ List.mem_append_right _ below)
  · exact shows.rooted.active index inside

/-- Freeing cells of values that are taken off. -/
theorem Shows.freeing (shows : Shows state view)
    (before : stackCells state.stack = dropped ++ stackCells stack) (subset : freed ⊆ dropped)
    (denote : Denote state.pool stack data) :
    Shows (state.freeing freed stack) { view with stack := data } := by
  have owners := owners_freeing before subset
  have kept {index : Nat} (stays : index ∈ stackCells stack ∨ index < view.slots.length) :
      (state.freeing freed stack).pool.get? index = state.pool.get? index := by
    rw [State.freeing, Pool.get?_foldl_release,
      if_neg (shows.not_mem_freed before subset stays)]
  exact {
    data := denote.congr fun index named => kept (.inl named)
    slots := fun slot inside => (kept (.inr inside)).trans (shows.slots slot inside)
    owned := owners.owned shows.owned
    rooted := owners.rooted shows.rooted
    input := shows.input
    output := shows.output }

/-- Taking a new cell, and freeing cells of values that are taken off. -/
theorem Shows.placing (shows : Shows state view) {content : Cell}
    (used : content.isFree = false)
    (before : stackCells state.stack = dropped ++ stackCells stack) (subset : freed ⊆ dropped)
    (denote : Denote state.pool stack data) :
    Shows (state.placing content freed stack) { view with stack := .cell content :: data } := by
  have active : ∀ index ∈ freed, (state.pool.get? index).isSome := fun index member =>
    shows.owned.active index (before ▸ List.mem_append_left _ (subset member))
  have fresh := Pool.get?_allocate_fresh state.pool content
  have owners := owners_placing used before subset active
  have kept {index : Nat} (stays : index ∈ stackCells stack ∨ index < view.slots.length) :
      (state.placing content freed stack).pool.get? index = state.pool.get? index := by
    rw [State.placing, Pool.get?_foldl_release,
      if_neg (shows.not_mem_freed before subset stays), Pool.get?_allocate used, if_neg]
    rintro rfl
    have found := shows.isSome_of_stays before stays
    rw [fresh] at found
    contradiction
  have placed : datum? (state.placing content freed stack).pool
      (.cell (state.pool.allocate content).2) = some (.cell content) := by
    apply datum?_cell
    rw [State.placing, Pool.get?_foldl_release, if_neg, Pool.get?_allocate used, if_pos rfl]
    intro member
    have found := active _ member
    rw [fresh] at found
    contradiction
  exact {
    data := .cons placed (denote.congr fun index named => kept (.inl named))
    slots := fun slot inside => (kept (.inr inside)).trans (shows.slots slot inside)
    owned := owners.owned shows.owned
    rooted := owners.rooted shows.rooted
    input := shows.input
    output := shows.output }

/-- Storing in one of the first cells. -/
theorem Shows.set (shows : Shows state view) {slot : Nat} {content : Cell}
    (used : content.isFree = false) (inside : slot < view.slots.length)
    (same : next.stack = state.stack) (stored : next.pool = state.pool.set slot content)
    {input : InputStream} {output : OutputStream} (reads : next.input = input)
    (writes : next.output = output) :
    Shows next
      { view with
        slots := view.slots.set slot content
        input := input
        output := output } := by
  have active := shows.rooted.active slot inside
  have owners := owners_set used active same stored
  have there := Pool.lt_size_of_isSome active
  refine ⟨?_, fun other within => ?_, owners.owned shows.owned, ?_, reads, writes⟩
  · rw [same]
    apply shows.data.congr
    intro index named
    have outside := shows.rooted.apart index named
    rw [stored, Pool.get?_set used, if_neg]
    rintro ⟨rfl, -⟩
    exact absurd inside (Nat.not_lt_of_le outside)
  · rw [List.length_set] at within
    rw [stored, Pool.get?_set used, List.getElem?_set]
    by_cases here : other = slot
    · rw [if_pos ⟨here, there⟩, if_pos here.symm, if_pos inside]
    · rw [if_neg fun both => here both.1, if_neg fun same => here same.symm]
      exact shows.slots other within
  · rw [List.length_set]
    exact owners.rooted shows.rooted

/-- Writing changes the output only. -/
theorem Shows.writing (shows : Shows state view) (output : OutputStream) :
    Shows { state with output := output } { view with output := output } :=
  ⟨shows.data, shows.slots, ⟨shows.owned.distinct, shows.owned.active⟩,
    ⟨shows.rooted.active, shows.rooted.apart⟩, shows.input, rfl⟩

/-- Steps are not shown. -/
theorem Shows.begun (shows : Shows state view) : Shows state.begun view :=
  ⟨shows.data, shows.slots, ⟨shows.owned.distinct, shows.owned.active⟩,
    ⟨shows.rooted.active, shows.rooted.apart⟩, shows.input, shows.output⟩

/-- What the value on top stands for is on top of the view. -/
theorem Shows.top (shows : Shows state view) {value : Value}
    (shape : state.stack = value :: stack) :
    ∃ datum data, datum? state.pool value = some datum ∧ Denote state.pool stack data ∧
      view.stack = datum :: data := by
  have denote := shows.data
  rw [shape] at denote
  exact List.forall₂_cons_left_iff.1 denote

theorem Shows.topTwo (shows : Shows state view) {right left : Value}
    (shape : state.stack = right :: left :: stack) :
    ∃ datum datum' data, datum? state.pool right = some datum ∧
      datum? state.pool left = some datum' ∧ Denote state.pool stack data ∧
      view.stack = datum :: datum' :: data := by
  obtain ⟨datum, others, first, denote, same⟩ := shows.top shape
  obtain ⟨datum', data, second, below, rfl⟩ := List.forall₂_cons_left_iff.1 denote
  exact ⟨datum, datum', data, first, second, below, same⟩

/-- What the value on top is known to stand for is on top of the view. -/
theorem Shows.top_of_datum? (shows : Shows state view) {value : Value} {datum : Datum}
    (shape : state.stack = value :: stack) (found : datum? state.pool value = some datum) :
    ∃ data, Denote state.pool stack data ∧ view.stack = datum :: data := by
  obtain ⟨datum', data, here, denote, same⟩ := shows.top shape
  rw [found, Option.some.injEq] at here
  subst here
  exact ⟨data, denote, same⟩

theorem Shows.topTwo_of_datum? (shows : Shows state view) {right left : Value}
    {datum datum' : Datum} (shape : state.stack = right :: left :: stack)
    (found : datum? state.pool right = some datum)
    (found' : datum? state.pool left = some datum') :
    ∃ data, Denote state.pool stack data ∧ view.stack = datum :: datum' :: data := by
  obtain ⟨first, second, data, here, there, denote, same⟩ := shows.topTwo shape
  rw [found, Option.some.injEq] at here
  rw [found', Option.some.injEq] at there
  subst here there
  exact ⟨data, denote, same⟩

end Changes

/-- The same boolean is the same value: two values on the stack never name one cell. -/
theorem sameBool_eq {state : State} (owned : Owned state) {right left : Value} {rest : List Value}
    (shape : state.stack = right :: left :: rest) {datum datum' : Datum}
    (first : datum? state.pool right = some datum)
    (second : datum? state.pool left = some datum') :
    datum.sameBool datum' = decide (right = left) := by
  cases right with
  | bool right =>
      cases first
      cases left with
      | bool left =>
          cases second
          simp [Datum.sameBool]
      | cell index =>
          obtain ⟨content, -, rfl⟩ := Option.map_eq_some_iff.1 second
          simp [Datum.sameBool]
  | cell index =>
      obtain ⟨content, -, rfl⟩ := Option.map_eq_some_iff.1 first
      have differs : Value.cell index ≠ left := by
        rintro rfl
        have distinct := owned.distinct
        rw [shape] at distinct
        simp [Value.cells] at distinct
      rw [decide_eq_false differs]
      rfl

/-- An instruction that is done to a state is done to the view of the state. -/
theorem Executes.does {state next : State} {view : View} {instruction : Instruction}
    {distance : Int} (rule : Executes state instruction distance next) (shows : Shows state view)
    (inside : ∀ slot, instruction.slot? = some slot → slot < view.slots.length) :
    ∃ view', Does view instruction distance view' ∧ Shows next view' := by
  cases rule with
  | nop => exact ⟨view, .nop, shows⟩
  | jump => exact ⟨view, .jump, shows⟩
  | @push slot content found =>
      refine ⟨_, .push ((shows.slots slot (inside slot rfl)).symm.trans found), ?_⟩
      exact shows.placing (Pool.isFree_of_get?_eq_some found) (List.nil_append _).symm
        (List.Subset.refl []) shows.data
  | @getTop slot value rest datum shape found active =>
      obtain ⟨data, -, same⟩ := shows.top_of_datum? shape found
      refine ⟨_, .getTop same, ?_⟩
      refine shows.set (isFree_stored found) (inside slot rfl) ?_ ?_ shows.input shows.output
      · rfl
      · rfl
  | discard shape =>
      obtain ⟨datum, data, -, denote, same⟩ := shows.top shape
      refine ⟨_, .discard same, shows.freeing ?_ (List.Subset.refl _) denote⟩
      rw [shape, stackCells_cons]
  | @print value rest datum output shape found written =>
      obtain ⟨data, denote, same⟩ := shows.top_of_datum? shape found
      rw [shows.output] at written
      have before : stackCells state.stack = value.cells ++ stackCells rest := by
        rw [shape, stackCells_cons]
      exact ⟨_, .print same written,
        (shows.freeing before (List.Subset.refl _) denote).writing output⟩
  | @input slot text output input flushed read active =>
      rw [shows.output] at flushed
      rw [shows.input] at read
      refine ⟨_, .input flushed read, shows.set ?_ (inside slot rfl) ?_ ?_ ?_ ?_⟩
      all_goals rfl
  | @jumpIfFalse offset value rest shape =>
      obtain ⟨data, denote, same⟩ := shows.top_of_datum? shape rfl
      have before : stackCells state.stack = [] ++ stackCells rest := by
        rw [shape, stackCells_cons]
        rfl
      exact ⟨_, .jumpIfFalse same, shows.freeing before (List.Subset.refl _) denote⟩
  | @equal right left rest rightContent leftContent shape rightFound leftFound =>
      obtain ⟨data, denote, same⟩ :=
        shows.topTwo_of_datum? shape (datum?_cell rightFound) (datum?_cell leftFound)
      have before : stackCells state.stack =
          [right, left] ++ stackCells (.bool (rightContent.agrees leftContent) :: rest) := by
        rw [shape]
        rfl
      exact ⟨_, .equal same, shows.freeing before (List.Subset.refl _) (.cons rfl denote)⟩
  | @boolEqual right left rest shape =>
      obtain ⟨datum, datum', data, first, second, denote, same⟩ := shows.topTwo shape
      have before : stackCells state.stack =
          (right.cells ++ left.cells) ++ stackCells (.bool (right = left) :: rest) := by
        rw [shape, stackCells_cons, stackCells_cons, List.append_assoc]
        rfl
      refine ⟨_, .boolEqual same, ?_⟩
      rw [sameBool_eq shows.owned shape first second]
      exact shows.freeing before (List.nil_subset _) (.cons rfl denote)
  | @add right left rest rightContent leftContent shape rightFound leftFound =>
      obtain ⟨data, denote, same⟩ :=
        shows.topTwo_of_datum? shape (datum?_cell rightFound) (datum?_cell leftFound)
      have used := Cell.isFree_add (Pool.isFree_of_get?_eq_some leftFound) rightContent
      have before : stackCells state.stack = [right, left] ++ stackCells rest := by
        rw [shape]
        rfl
      exact ⟨_, .add same, shows.placing used before (List.Subset.refl _) denote⟩
  | @boolToString value rest shape =>
      obtain ⟨data, denote, same⟩ := shows.top_of_datum? shape rfl
      have before : stackCells state.stack = [] ++ stackCells rest := by
        rw [shape, stackCells_cons]
        rfl
      exact ⟨_, .boolToString same, shows.placing rfl before (List.Subset.refl _) denote⟩
  | @integerToString index rest content shape found =>
      obtain ⟨data, denote, same⟩ := shows.top_of_datum? shape (datum?_cell found)
      have before : stackCells state.stack = [index] ++ stackCells rest := by
        rw [shape]
        rfl
      exact ⟨_, .integerToString same, shows.placing rfl before (List.Subset.refl _) denote⟩
  | @stringToInteger value rest datum shape found =>
      obtain ⟨data, denote, same⟩ := shows.top_of_datum? shape found
      have before : stackCells state.stack = value.cells ++ stackCells rest := by
        rw [shape, stackCells_cons]
      exact ⟨_, .stringToInteger same, shows.placing rfl before (List.Subset.refl _) denote⟩

/-! ## Streams that never fail -/

/-- The same data, on streams that never fail. -/
def View.opened (view : View) : View :=
  { view with
    input := .ofBytes view.input.bytes
    output := ⟨view.output.written, none, none⟩ }

section Streams

variable {view view' : View} {instruction : Instruction} {distance : Int}

/-- What is written to a stream would be written to one that never fails. -/
theorem writeLine?_opened {output later : OutputStream} {text : Option String}
    (written : writeLine? output text = (.ok (), later)) :
    writeLine? ⟨output.written, none, none⟩ text = (.ok (), ⟨later.written, none, none⟩) := by
  cases text with
  | none =>
      cases written
      rfl
  | some text =>
      rw [writeLine?, OutputStream.write] at written ⊢
      cases room : output.room with
      | none =>
          rw [room] at written
          cases written
          rfl
      | some left =>
          rw [room, Prod.mk.injEq] at written
          obtain ⟨done, rfl⟩ := written
          have enough : (Text.Utf8.encode (text ++ "\n")).length ≤ left := by
            by_contra short
            rw [if_neg short] at done
            contradiction
          rw [List.take_of_length_le enough]

/-- What is read from a stream would be read from one that never fails. -/
theorem readLine_opened {input later : InputStream} {text : String}
    (read : input.readLine = (.ok text, later)) :
    (InputStream.ofBytes input.bytes).readLine = (.ok text, .ofBytes later.bytes) := by
  simp only [InputStream.readLine, InputStream.ofBytes] at read ⊢
  split at read
  · cases read
    rfl
  · rw [Prod.mk.injEq] at read
    obtain ⟨done, rfl⟩ := read
    cases closed : input.closed with
    | true =>
        rw [closed] at done
        contradiction
    | false =>
        rw [closed] at done
        cases done
        rfl

/-- What is done to a view is done to the same data on streams that never fail. -/
theorem Does.opened (does : Does view instruction distance view') :
    Does view.opened instruction distance view'.opened := by
  cases does with
  | nop => exact .nop
  | push found => exact .push found
  | getTop shape => exact .getTop shape
  | discard shape => exact .discard shape
  | print shape written => exact .print shape (writeLine?_opened written)
  | @input slot text output input flushed read =>
      have kept : output.written = view.output.written := by
        rw [← written_flush view.output, flushed]
      have does : Does view.opened (.input slot) 1 _ := .input rfl (readLine_opened read)
      simpa only [View.opened, kept] using does
  | jump => exact .jump
  | jumpIfFalse shape => exact .jumpIfFalse shape
  | equal shape => exact .equal shape
  | boolEqual shape => exact .boolEqual shape
  | add shape => exact .add shape
  | boolToString shape => exact .boolToString shape
  | integerToString shape => exact .integerToString shape
  | stringToInteger shape => exact .stringToInteger shape

theorem Proceeds.opened {code : List Instruction} {first last : Stage}
    (proceeds : Proceeds code first last) :
    Proceeds code ⟨first.ip, first.view.opened⟩ ⟨last.ip, last.view.opened⟩ := by
  induction proceeds with
  | refl => exact .refl
  | tail _ advances induction =>
      cases advances with
      | intro found does lands => exact induction.tail (.intro found does.opened lands)

end Streams

/-- The data of a program that is loaded. -/
def View.loaded (program : Program) (input : InputStream) (output : OutputStream) : View :=
  ⟨[], program.cells, input, output⟩

theorem shows_loaded {program : Program} (full : ∀ cell ∈ program.cells, cell.isFree = false)
    (input : InputStream) (output : OutputStream) :
    Shows (.loaded program input output) (.loaded program input output) where
  data := .nil
  slots _ inside := (get?_loaded full inside).trans (List.getElem?_eq_getElem inside).symm
  owned := owned_loaded program input output
  rooted := rooted_loaded full input output
  input := rfl
  output := rfl

end Machine

end StackScript
