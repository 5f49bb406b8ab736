import StackScript.Proofs.Compilation.TypeSafety
import StackScript.Proofs.Machine.Accounting

/-!
# The memory of compiled programs

The cells of the symbols of a script are never lent to values of the stack. Those of constants keep
what they hold at first, and those of variables are stored in by name only. No cell is abandoned,
since only booleans are compared by `boolEqual`, so a run that comes to its end leaves no cell in
use but those of the symbols.
-/

namespace StackScript

namespace Machine

/-- What is done to a view changes a slot only if it is done to that slot. -/
theorem Does.slot_cases {view view' : View} {instruction : Instruction} {distance : Int}
    (does : Does view instruction distance view') {slot : Nat}
    (changed : view'.slots[slot]? ≠ view.slots[slot]?) :
    instruction = .getTop slot ∨ instruction = .input slot := by
  cases does with
  | @getTop named datum rest shape =>
      by_cases same : named = slot
      · exact .inl (congrArg _ same)
      · exact absurd (List.getElem?_set_ne same) changed
  | @input named text output input flushed read =>
      by_cases same : named = slot
      · exact .inr (congrArg _ same)
      · exact absurd (List.getElem?_set_ne same) changed
  | _ => exact absurd rfl changed

/-- Values of the kind of booleans own no cells. -/
theorem cells_eq_nil {value : Value} (kind : value.kind = .bool) : value.cells = [] := by
  cases value with
  | bool value => rfl
  | cell index => cases kind

end Machine

open Machine

namespace Term.WellTyped

variable {table : SymbolTable} {term : Term} {limits : Limits} {input : InputStream}
variable {output : OutputStream} {config next : Config} {lost : List Nat}

/-- In the run of a script, `boolEqual` compares booleans only. -/
theorem abandons_eq_nil (typed : term.WellTyped table) (fits : term.Fits)
    (reach : Reaches limits term.code (.start (term.program table) input output) config) :
    config.abandons term.code = [] := by
  obtain ⟨view, shape, -, shows, viewed, there⟩ := typed.follows fits reach
  rw [Config.abandons]
  cases found : term.code[config.ip]? with
  | none => rfl
  | some instruction =>
      obtain ⟨after, takes, -⟩ := (typed.flow fits []).at found there
      have kinds := map_kind shows.data viewed.stack
      rw [Option.elim_some]
      unfold abandons
      split
      next right left rest same =>
        cases takes
        rw [same] at kinds
        simp only [List.map_cons, List.cons.injEq] at kinds
        rw [cells_eq_nil kinds.1, cells_eq_nil kinds.2.1, List.append_nil]
      next => rfl

/-- In the run of a script, no cell is ever abandoned. -/
theorem loses_nothing (typed : term.WellTyped table) (fits : term.Fits)
    (loses : Loses limits term.code (.start (term.program table) input output) config lost) :
    lost = [] := by
  induction loses with
  | refl => rfl
  | tail earlier _ induction => rw [typed.abandons_eq_nil fits earlier.reaches, induction]; rfl

/-- In the run of a script, the cells in use are those of the symbols and those that the stack
names. -/
theorem accounted (typed : term.WellTyped table) (fits : term.Fits)
    (reach : Reaches limits term.code (.start (term.program table) input output) config) :
    Accounted table.cells.length config.state [] := by
  have full : ∀ cell ∈ (term.program table).cells, cell.isFree = false :=
    SymbolTable.isFree_of_mem_cells
  obtain ⟨lost, loses⟩ := reach.loses
  obtain rfl := typed.loses_nothing fits loses
  exact Loses.accounted full loses

/-- Constants keep what they hold at first. -/
theorem get?_constant (typed : term.WellTyped table) (fits : term.Fits)
    (reach : Reaches limits term.code (.start (term.program table) input output) config)
    {slot : Nat} {content : Content} (known : table.content? slot = some content)
    (constant : content ≠ .identifier) :
    config.state.pool.get? slot = table.cells[slot]? := by
  obtain ⟨view, shape, -, shows, viewed, -⟩ := typed.follows fits reach
  have inside : slot < view.slots.length := by
    rw [viewed.size]
    exact SymbolTable.lt_size_of_content? known
  rw [shows.slots slot inside, viewed.constants slot content known constant,
    SymbolTable.getElem?_cells known]

/-- A turn changes the cell of a symbol only if it stores in it, and only that of a variable. -/
theorem slot_cases (typed : term.WellTyped table) (fits : term.Fits)
    (reach : Reaches limits term.code (.start (term.program table) input output) config)
    (turn : Turn limits term.code config next) {slot : Nat} (inside : slot < table.size)
    (changed : next.state.pool.get? slot ≠ config.state.pool.get? slot) :
    table.content? slot = some .identifier ∧
      (term.code[config.ip]? = some (.getTop slot) ∨
        term.code[config.ip]? = some (.input slot)) := by
  obtain ⟨view, shape, -, shows, viewed, there⟩ := typed.follows fits reach
  cases turn with
  | @intro ip target state after instruction distance found done lands =>
      obtain ⟨left, takes, -⟩ := (typed.flow fits []).at found there
      have within : ∀ slot, instruction.slot? = some slot → slot < view.slots.length :=
        fun slot named => viewed.size ▸ takes.slot_lt named
      obtain ⟨view', does, shows'⟩ := (executes_of_attempt done).1.does shows.begun within
      have viewed' := does.typed takes viewed
      have differs : view'.slots[slot]? ≠ view.slots[slot]? := by
        rw [← shows.slots slot (viewed.size ▸ inside), ← shows'.slots slot (viewed'.size ▸ inside)]
        exact changed
      rcases does.slot_cases differs with rfl | rfl
      · cases takes with
        | getTop named => exact ⟨named, .inl found⟩
      · cases takes with
        | input named => exact ⟨named, .inr found⟩

/-- The run of a script halts in a configuration that it has reached and keeps the memory of that
configuration; if it comes to its end, the stack is empty. -/
theorem ends_with_memory (typed : term.WellTyped table) (fits : term.Fits) (limits : Limits)
    (input : InputStream) (output : OutputStream) :
    let outcome := run limits (term.program table) input output
    ∃ (config : Config) (ended : Machine.Outcome),
      Reaches limits term.code (.start (term.program table) input output) config ∧
      Halts limits term.code config ended.result ended.state ∧ outcome = ended.flushed ∧
      outcome.state.pool = config.state.pool ∧
      (outcome.result = .ok () → outcome.state.stack = [] ∧ config.state.stack = []) := by
  intro outcome
  have accepted := typed.accepted fits
  obtain ⟨config, ended, reach, halts, flushed⟩ := run_halts limits input output accepted
  have same : outcome = ended.flushed := flushed
  have stack : outcome.state.stack = ended.state.stack := by rw [same]; rfl
  have pool : outcome.state.pool = ended.state.pool := by rw [same]; rfl
  have safe := reach.safe accepted
  refine ⟨config, ended, reach, halts, same, ?_⟩
  rcases halts.cases_of_accepted accepted safe with
    ⟨-, last, left⟩ | ⟨instruction, fault, failed, found, attempted⟩
  · have level : (heightsOf (term.shapes [] ++ [some []]))[(term.program table).code.length]? =
        some (some 0) :=
      getElem?_heightsOf.2 ⟨[], term.getElem?_shapes_append [] [some []] 0, rfl⟩
    have known := safe.height
    rw [last, level, Option.some.injEq, Option.some.injEq] at known
    have empty := List.length_eq_zero_iff.1 known.symm
    exact ⟨by rw [pool, left], fun _ => ⟨by rw [stack, left, empty], empty⟩⟩
  · refine ⟨by rw [pool, pool_of_attempt attempted], fun finished => ?_⟩
    rw [same] at finished
    rw [Outcome.result_of_flushed finished] at failed
    contradiction

end Term.WellTyped

namespace Compilation

/-- The symbols of a script have the slots that their numbers are, and stand for what they stood for
when the script was read. -/
theorem of_get?_symbols {compilation : Compilation} {id : SymbolId} {symbol : Symbol}
    (named : compilation.symbols.get? id = some symbol) :
    symbol.slot = some id ∧
      compilation.draft.symbols.content? id = some symbol.content := by
  rw [symbols, SymbolTable.get?, SymbolTable.assignSlots, List.getElem?_mapIdx] at named
  obtain ⟨entry, there, rfl⟩ := Option.map_eq_some_iff.1 named
  exact ⟨rfl, Option.map_eq_some_iff.2 ⟨entry, there, rfl⟩⟩

/-- In each configuration of a run of the program of a script, the cells of the symbols are in use,
those of constants hold what they hold at first, and the stack names none of them; a turn changes
the cell of a symbol only by storing in it, and then the symbol is a variable. The pool never has
more cells than there are symbols, values of the highest stack so far, and one. A run halts in a
configuration that its turns have reached and keeps the memory of that configuration, and only the
last flush is still to come; if it comes to its end, the stack is empty and the cells in use are
those of the symbols. -/
theorem memory_kept {text : String} {compilation : Compilation}
    (read : ofText? text = .ok compilation) {program : Program}
    (made : compilation.program? = .ok program) (limits : Limits) (input : InputStream)
    (output : OutputStream) :
    let start := Config.start program input output
    let outcome := run limits program input output
    program.cells.length = compilation.symbols.size ∧
    (∀ config, Reaches limits program.code start config →
      (∀ slot < program.cells.length, (config.state.pool.get? slot).isSome) ∧
      (∀ index ∈ stackCells config.state.stack, program.cells.length ≤ index) ∧
      (∀ id symbol, compilation.symbols.get? id = some symbol →
        symbol.slot = some id ∧ program.cells[id]? = some symbol.content.cell ∧
          (symbol.content ≠ .identifier →
            config.state.pool.get? id = some symbol.content.cell)) ∧
      (∀ next, Turn limits program.code config next → ∀ id symbol,
        compilation.symbols.get? id = some symbol →
          next.state.pool.get? id ≠ config.state.pool.get? id →
            symbol.content = .identifier ∧
              (program.code[config.ip]? = some (.getTop id) ∨
                program.code[config.ip]? = some (.input id))) ∧
      ∃ height, Climbs limits program.code start config height) ∧
    (∀ config height, Climbs limits program.code start config height →
      config.state.pool.size ≤ program.cells.length + height + 1) ∧
    (∃ (config : Config) (ended : Machine.Outcome), Reaches limits program.code start config ∧
      Halts limits program.code config ended.result ended.state ∧ outcome = ended.flushed ∧
      outcome.state.pool = config.state.pool) ∧
    (outcome.result = .ok () → outcome.state.stack = [] ∧
      (∀ index, (outcome.state.pool.get? index).isSome ↔ index < program.cells.length) ∧
      outcome.state.pool.active = program.cells.length) := by
  obtain ⟨typed, fits, rfl⟩ := eq_of_program? read made
  intro start outcome
  have length : (compilation.term.program compilation.draft.symbols).cells.length =
      compilation.draft.symbols.size := compilation.draft.symbols.length_cells
  obtain ⟨config, ended, reach, halts, flushed, same, finishes⟩ :=
    typed.ends_with_memory fits limits input output
  refine ⟨length.trans (SymbolTable.size_assignSlots _).symm, fun config reach => ?_,
    fun config height climbs => ?_, ⟨config, ended, reach, halts, flushed, same⟩,
    fun finished => ?_⟩
  · have rooted := reach.rooted SymbolTable.isFree_of_mem_cells
    refine ⟨rooted.active, rooted.apart, fun id symbol named => ?_,
      fun next turn id symbol named changed => ?_, reach.climbs⟩
    · obtain ⟨slot, known⟩ := of_get?_symbols named
      have cell := SymbolTable.getElem?_cells known
      refine ⟨slot, cell, fun constant => ?_⟩
      rw [typed.get?_constant fits reach known constant, cell]
    · obtain ⟨-, known⟩ := of_get?_symbols named
      have inside := SymbolTable.lt_size_of_content? known
      obtain ⟨assigned, stored⟩ := typed.slot_cases fits reach turn inside changed
      rw [known, Option.some.injEq] at assigned
      exact ⟨assigned, stored⟩
  · exact climbs.size_le rfl fun config reach => typed.accounted fits reach
  · obtain ⟨empty, cleared⟩ := finishes finished
    have accounted := typed.accounted fits reach
    refine ⟨empty, fun index => ?_, ?_⟩
    · rw [same, accounted.isSome_iff, cleared, stackCells_nil]
      simp only [List.not_mem_nil, or_false]
    · rw [same, accounted.active_eq, cleared]
      rfl

/-- The variable that the script reads a line for, and the constant that it adds. -/
theorem symbols_successor {compilation : Compilation} (read : ofText? successor = .ok compilation) :
    ∃ line one, compilation.symbols.get? 0 = some line ∧ compilation.symbols.get? 4 = some one ∧
      one.content = .integer 1 := by
  have facts : (ofText? successor).toOption.map (fun compilation =>
      ((compilation.symbols.get? 0).isSome, (compilation.symbols.get? 4).map (·.content))) =
        some (true, some (.integer 1)) := by decide +kernel
  rw [read] at facts
  obtain ⟨first, fifth⟩ := Prod.mk.inj (Option.some.inj facts)
  obtain ⟨line, lineKnown⟩ := Option.isSome_iff_exists.1 first
  obtain ⟨one, oneKnown, integer⟩ := Option.map_eq_some_iff.1 fifth
  exact ⟨line, one, lineKnown, oneKnown, integer⟩

/-- The first turn of the script stores the line that it reads. -/
theorem turn_successor {program : Program} (made : Program.ofText? successor = .ok program) :
    let start := Config.start program (.ofBytes [0x34, 0x31, 0x0A]) .unbounded
    ∃ next, Turn .standard program.code start next ∧
      start.state.pool.get? 0 = some .unknown ∧ next.state.pool.get? 0 = some (.string "41") := by
  intro start
  have facts : (Program.ofText? successor).toOption.map (fun program =>
      let start := State.loaded program (.ofBytes [0x34, 0x31, 0x0A]) .unbounded
      let first := Outcome.of (runFrom .standard 0 0 [.input 0]) start
      (program.code[0]?, start.pool.get? 0, first.result.toOption, first.state.pool.get? 0)) =
      some (some (.input 0), some .unknown, some (), some (.string "41")) := by decide +kernel
  rw [made] at facts
  obtain ⟨found, rest⟩ := Prod.mk.inj (Option.some.inj facts)
  obtain ⟨unknown, rest⟩ := Prod.mk.inj rest
  obtain ⟨ended, stored⟩ := Prod.mk.inj rest
  rw [outcome_runFrom_cons, run_step] at ended stored
  generalize done : (attempt .standard 0 (.input 0)).run (.loaded program _ _) = answer
    at ended stored
  cases answer with
  | error fault next => contradiction
  | ok distance next =>
      rcases (executes_of_attempt done).1.distance_cases with ⟨rfl, -⟩ | ⟨offset, jumps, -⟩
      · exact ⟨⟨1, next⟩, .intro found done rfl, unknown, stored⟩
      · contradiction

theorem memory_kept_successor :
    ∃ compilation program line one next config, ofText? successor = .ok compilation ∧
      compilation.program? = .ok program ∧ program.cells.length = compilation.symbols.size ∧
      let start := Config.start program (.ofBytes [0x34, 0x31, 0x0A]) .unbounded
      let outcome := run .standard program (.ofBytes [0x34, 0x31, 0x0A]) .unbounded
      (compilation.symbols.get? 0 = some line ∧ Turn .standard program.code start next ∧
        next.state.pool.get? 0 ≠ start.state.pool.get? 0 ∧ line.content = .identifier ∧
        (program.code[0]? = some (.getTop 0) ∨ program.code[0]? = some (.input 0))) ∧
      (compilation.symbols.get? 4 = some one ∧ one.content = .integer 1 ∧
        Reaches .standard program.code start config ∧
        config.ip = 9 + successorSum.code.length ∧
        config.state.pool.get? 4 = some (.integer 1)) ∧
      outcome.result = .ok () ∧ outcome.state.pool.active = program.cells.length := by
  obtain ⟨compilation, read, clean, -⟩ := read_successor
  have facts : ((Program.ofText? successor).toOption.map fun program =>
      (run .standard program (.ofBytes [0x34, 0x31, 0x0A]) .unbounded).result.toOption) =
        some (some ()) := by decide +kernel
  obtain ⟨program, made, ended⟩ := Option.map_eq_some_iff.1 facts
  have made := Result.toOption_eq_some_iff.1 made
  have finished := Result.toOption_eq_some_iff.1 ended
  obtain ⟨line, one, lineKnown, oneKnown, integer⟩ := symbols_successor read
  obtain ⟨next, turn, unknown, stored⟩ := turn_successor made
  obtain ⟨config, reach, here, -⟩ := reaches_successorSum made
  rw [ofText?_of_program? read] at made
  obtain ⟨length, kept, -, -, ends⟩ :=
    memory_kept read made .standard (.ofBytes [0x34, 0x31, 0x0A]) .unbounded
  have changed : next.state.pool.get? 0 ≠
      (Config.start program (.ofBytes [0x34, 0x31, 0x0A]) .unbounded).state.pool.get? 0 := by
    rw [stored, unknown]
    decide
  obtain ⟨-, -, -, turns, -⟩ := kept _ .refl
  obtain ⟨identifier, stores⟩ := turns next turn 0 line lineKnown changed
  obtain ⟨-, -, constants, -⟩ := kept config reach
  obtain ⟨-, -, holds⟩ := constants 4 one oneKnown
  rw [integer] at holds
  exact ⟨compilation, program, line, one, next, config, read, made, length,
    ⟨lineKnown, turn, changed, identifier, stores⟩,
    ⟨oneKnown, integer, reach, here, holds (by decide)⟩, finished, (ends finished).2.2⟩

end Compilation

end StackScript
