import StackScript.Proofs.Machine.View
import StackScript.Proofs.Program.Shapes
import StackScript.Program.OfLinked

/-!
# Typed runs

Static types say what values of the stack hold: a boolean, an integer, or, for strings, anything
that a cell in use may hold. Along code that flows, views are of the shapes of the code, so that
nothing but the bounds of the run and its streams ends it early.
-/

namespace StackScript

/-- A datum is of a static type. Whatever a cell holds passes for a string. -/
def Datum.Is : Datum → Ty → Prop
  | .bool _, .bool => True
  | .cell (.integer _), .integer => True
  | .cell _, .string => True
  | _, _ => False

theorem Datum.is_bool (value : Bool) : (Datum.bool value).Is .bool := trivial

theorem Datum.is_integer (value : Int64) : (Datum.cell (.integer value)).Is .integer := trivial

theorem Datum.is_string (content : Cell) : (Datum.cell content).Is .string := by
  cases content <;> exact trivial

/-- Only booleans are of the type of booleans. -/
theorem Datum.eq_bool {datum : Datum} (is : datum.Is .bool) : ∃ value, datum = .bool value := by
  cases datum with
  | bool value => exact ⟨value, rfl⟩
  | cell content => cases content <;> contradiction

theorem Datum.eq_cell {datum : Datum} {type : Ty} (is : datum.Is type) (other : type ≠ .bool) :
    ∃ content, datum = .cell content := by
  cases datum with
  | cell content => exact ⟨content, rfl⟩
  | bool value => cases type <;> contradiction

/-- The sum of two data of a type is of that type. -/
theorem Datum.is_add {left right : Cell} {type : Ty} (first : (Datum.cell left).Is type)
    (second : (Datum.cell right).Is type) : (Datum.cell (left.add right)).Is type := by
  cases type with
  | string => exact is_string _
  | integer => cases left <;> cases right <;> first | exact trivial | contradiction
  | void | bool | unknown => cases left <;> contradiction

theorem Datum.is_copy {content : Content} {cell : Cell}
    (constant : content ≠ .identifier → cell = content.cell) :
    (Datum.cell cell).Is content.type := by
  cases content with
  | identifier | string => exact is_string cell
  | integer value =>
      rw [constant (by simp)]
      exact is_integer value

namespace Machine

variable {table : SymbolTable} {shape after : Shape}

/-- A view is of a shape, and its slots are those of a table whose constants are in place. -/
structure View.Typed (table : SymbolTable) (shape : Shape) (view : View) : Prop where
  stack : List.Forall₂ Datum.Is view.stack shape
  size : view.slots.length = table.size
  constants : ∀ slot content, table.content? slot = some content → content ≠ .identifier →
    view.slots[slot]? = some content.cell

namespace View.Typed

variable {view : View}

theorem top {type : Ty} (typed : view.Typed table (type :: shape)) {datum : Datum}
    {rest : List Datum} (same : view.stack = datum :: rest) :
    datum.Is type ∧ List.Forall₂ Datum.Is rest shape := by
  have stack := typed.stack
  rw [same] at stack
  exact List.forall₂_cons.1 stack

theorem topTwo {type type' : Ty} (typed : view.Typed table (type :: type' :: shape))
    {right left : Datum} {rest : List Datum} (same : view.stack = right :: left :: rest) :
    right.Is type ∧ left.Is type' ∧ List.Forall₂ Datum.Is rest shape :=
  ⟨(typed.top same).1, List.forall₂_cons.1 (typed.top same).2⟩

/-- Another stack of another shape, and other streams. -/
theorem restack (typed : view.Typed table shape) {stack : List Datum}
    (is : List.Forall₂ Datum.Is stack after) (input : InputStream) (output : OutputStream) :
    View.Typed table after ⟨stack, view.slots, input, output⟩ :=
  ⟨is, typed.size, typed.constants⟩

/-- Variables may hold anything. -/
theorem set (typed : view.Typed table shape) {slot : Nat}
    (named : table.content? slot = some .identifier) (content : Cell) (input : InputStream)
    (output : OutputStream) :
    View.Typed table shape ⟨view.stack, view.slots.set slot content, input, output⟩ where
  stack := typed.stack
  size := by rw [List.length_set, typed.size]
  constants other constant found differs := by
    have apart : slot ≠ other := by
      rintro rfl
      rw [named, Option.some.injEq] at found
      exact differs found.symm
    rw [List.getElem?_set_ne apart]
    exact typed.constants other constant found differs

end View.Typed

/-- An instruction takes a view of one shape to one of the shape that it leads to. -/
theorem Does.typed {view view' : View} {instruction : Instruction} {distance : Int}
    (does : Does view instruction distance view') (takes : Takes table instruction shape after)
    (typed : view.Typed table shape) : view'.Typed table after := by
  cases takes with
  | nop | jump =>
      cases does
      exact typed
  | @push slot content shape known =>
      cases does with
      | @push _ cell found =>
          refine typed.restack (.cons (Datum.is_copy fun differs => ?_) typed.stack) _ _
          rw [typed.constants slot content known differs, Option.some.injEq] at found
          exact found.symm
  | getTop named =>
      cases does with
      | getTop shape => exact typed.set named _ _ _
  | input named =>
      cases does with
      | input flushed read => exact typed.set named _ _ _
  | discard =>
      cases does with
      | discard same => exact typed.restack (typed.top same).2 _ _
  | print =>
      cases does with
      | print same written => exact typed.restack (typed.top same).2 _ _
  | jumpIfFalse =>
      cases does with
      | jumpIfFalse same => exact typed.restack (typed.top same).2 _ _
  | equal =>
      cases does with
      | equal same =>
          obtain ⟨-, -, below⟩ := typed.topTwo same
          exact typed.restack (.cons (Datum.is_bool _) below) _ _
  | boolEqual =>
      cases does with
      | boolEqual same =>
          obtain ⟨-, -, below⟩ := typed.topTwo same
          exact typed.restack (.cons (Datum.is_bool _) below) _ _
  | add =>
      cases does with
      | add same =>
          obtain ⟨right, left, below⟩ := typed.topTwo same
          exact typed.restack (.cons (Datum.is_add left right) below) _ _
  | boolToString =>
      cases does with
      | boolToString same =>
          exact typed.restack (.cons (Datum.is_string _) (typed.top same).2) _ _
  | integerToString =>
      cases does with
      | integerToString same =>
          exact typed.restack (.cons (Datum.is_string _) (typed.top same).2) _ _
  | stringToInteger =>
      cases does with
      | stringToInteger same =>
          exact typed.restack (.cons (Datum.is_integer _) (typed.top same).2) _ _

/-! ## Kinds -/

end Machine

/-- The kind of the values of a type. -/
def Ty.kind : Ty → Machine.ValueKind
  | bool => .bool
  | _ => .cell

namespace Machine

theorem kind_eq {pool : Pool} {value : Value} {datum : Datum} {type : Ty}
    (denotes : datum? pool value = some datum) (is : datum.Is type) : value.kind = type.kind := by
  cases value with
  | bool value =>
      cases denotes
      cases type <;> first | rfl | contradiction
  | cell index =>
      obtain ⟨content, -, rfl⟩ := Option.map_eq_some_iff.1 denotes
      cases type <;> first | rfl | (cases content <;> contradiction)

/-- The types of a shape tell the kinds of the values. -/
theorem map_kind {pool : Pool} {stack : List Value} {data : List Datum}
    (denote : Denote pool stack data) (is : List.Forall₂ Datum.Is data shape) :
    stack.map Value.kind = shape.map Ty.kind := by
  induction denote generalizing shape with
  | nil =>
      cases is
      rfl
  | cons here _ induction =>
      cases is with
      | cons first below => rw [List.map_cons, List.map_cons, kind_eq here first, induction below]

/-- The kinds that an instruction asks for are those of the types that it takes. -/
theorem kind_of_wants {instruction : Instruction} (takes : Takes table instruction shape after)
    {position : Nat} {kind : ValueKind} (wanted : (wants instruction)[position]? = some kind) :
    (shape.map Ty.kind)[position]? = some kind := by
  have cell {type : Ty} (other : type ≠ .bool) : type.kind = .cell := by
    cases type <;> first | rfl | contradiction
  cases takes with
  | jumpIfFalse | boolToString =>
      obtain ⟨inside, rfl⟩ := List.getElem?_eq_some_iff.1 wanted
      obtain rfl : position = 0 := Nat.lt_one_iff.1 inside
      rfl
  | integerToString inCells =>
      obtain ⟨inside, rfl⟩ := List.getElem?_eq_some_iff.1 wanted
      obtain rfl : position = 0 := Nat.lt_one_iff.1 inside
      rw [List.map_cons, List.getElem?_cons_zero, cell inCells]
      rfl
  | equal inCells | add inCells =>
      rw [List.map_cons, List.map_cons, cell inCells]
      match position, wanted with
      | 0, wanted => exact wanted
      | 1, wanted => exact wanted
  | _ => contradiction

/-! ## Along a run -/

section Runs

variable {limits : Limits} {code : List Instruction} {shapes : List (Option Shape)}
variable {start config next : Config} {first : View}

/-- A configuration has the data that code leads to from a view, and its shape is the one at the
next instruction. -/
def Follows (table : SymbolTable) (code : List Instruction) (shapes : List (Option Shape))
    (first : View) (config : Config) : Prop :=
  ∃ view shape, Proceeds code ⟨0, first⟩ ⟨config.ip, view⟩ ∧ Shows config.state view ∧
    view.Typed table shape ∧ shapes[config.ip]? = some (some shape)

/-- The place of an instruction that is done next has the shape that the instruction leads to. -/
theorem shape_of_arrives {instruction : Instruction} {ip target : Nat} {distance : Int}
    (arrives : Arrives (shapes.drop (ip + 1)) instruction after)
    (cases' : distance = 1 ∧ instruction.fallsThrough = true ∨
      ∃ offset, instruction.offset? = some offset ∧ distance = offset.toInt)
    (lands : (target : Int) = ip + distance) : shapes[target]? = some (some after) := by
  rcases cases' with ⟨rfl, falls⟩ | ⟨offset, jumps, rfl⟩
  · have there := arrives.onward falls
    rw [List.getElem?_drop] at there
    rw [← there]
    congr 1
    omega
  · obtain ⟨distance, forward, there⟩ := arrives.jump jumps
    rw [List.getElem?_drop] at there
    rw [← there]
    congr 1
    omega

theorem Turn.follows (flow : Flow table code shapes)
    (follows : Follows table code shapes first config) (turn : Turn limits code config next) :
    Follows table code shapes first next := by
  obtain ⟨view, shape, proceeds, shows, typed, there⟩ := follows
  cases turn with
  | @intro ip target state next instruction distance found done lands =>
      obtain ⟨rule, -⟩ := executes_of_attempt done
      obtain ⟨after, takes, arrives⟩ := flow.at found there
      have inside : ∀ slot, instruction.slot? = some slot → slot < view.slots.length := by
        intro slot named
        rw [typed.size]
        exact takes.slot_lt named
      obtain ⟨view', does, shows'⟩ := rule.does shows.begun inside
      exact ⟨view', after, proceeds.tail (.intro found does lands), shows', does.typed takes typed,
        shape_of_arrives arrives rule.distance_cases lands⟩

theorem Reaches.follows (flow : Flow table code shapes)
    (begun : Follows table code shapes first start) (reach : Reaches limits code start config) :
    Follows table code shapes first config :=
  reach.induct (Follows table code shapes first) begun fun _ follows turn =>
    turn.follows flow follows

/-- Where a configuration follows code that flows, an instruction refuses only because of a stream.
-/
theorem stream_of_refuses (flow : Flow table code shapes)
    (follows : Follows table code shapes first config) {instruction : Instruction}
    (found : code[config.ip]? = some instruction) {fault : Fault}
    (refuses : Refuses config.ip config.state.begun instruction fault) :
    ∃ failed, fault = .stream failed := by
  obtain ⟨view, shape, -, shows, typed, there⟩ := follows
  obtain ⟨after, takes, -⟩ := flow.at found there
  have kinds := map_kind shows.data typed.stack
  cases refuses with
  | underflow short =>
      have lengths := congrArg List.length kinds
      rw [List.length_map, List.length_map] at lengths
      have enough : instruction.pops ≤ config.state.stack.length := lengths ▸ takes.pops_le
      exact absurd short (Nat.not_lt_of_le enough)
  | @mismatch position value kind here wanted differs =>
      have asked := kind_of_wants takes wanted
      have held : config.state.stack[position]? = some value := here
      rw [← kinds, List.getElem?_map, held, Option.map_some, Option.some.injEq] at asked
      exact absurd asked differs
  | slot named inactive =>
      have active := shows.rooted.active _ (typed.size ▸ takes.slot_lt named)
      have missing : config.state.pool.get? _ = none := inactive
      rw [missing] at active
      contradiction
  | @operand index held inactive =>
      have active := shows.owned.isSome_of_mem_take held
      have missing : config.state.pool.get? index = none := inactive
      rw [missing] at active
      contradiction
  | write | flush | read => exact ⟨_, rfl⟩

end Runs

end Machine

end StackScript
