import StackScript.Proofs.Placement
import StackScript.Proofs.Program.Heights
import StackScript.Proofs.Symbol

/-!
# Shapes of the stack

A shape is the list of the types of the values on the stack. An instruction takes a stack of one
shape to one of another, and code flows along a table of shapes if wherever an instruction goes on,
the table has the shape that it leaves. Such a table is finer than one of heights, and the heights
are those that the check finds if some way leads to each shape.
-/

namespace StackScript

/-- The types of the values on the stack, the top first. -/
abbrev Shape := List Ty

/-- An instruction over the symbols of a table takes a stack of one shape to one of another. -/
inductive Takes (table : SymbolTable) : Instruction → Shape → Shape → Prop
  | nop {shape : Shape} : Takes table .nop shape shape
  | push {slot : Nat} {content : Content} {shape : Shape}
      (known : table.content? slot = some content) :
      Takes table (.push slot) shape (content.type :: shape)
  | getTop {slot : Nat} {type : Ty} {shape : Shape}
      (named : table.content? slot = some .identifier) :
      Takes table (.getTop slot) (type :: shape) (type :: shape)
  | discard {type : Ty} {shape : Shape} : Takes table .discard (type :: shape) shape
  | print {type : Ty} {shape : Shape} : Takes table .print (type :: shape) shape
  | input {slot : Nat} {shape : Shape} (named : table.content? slot = some .identifier) :
      Takes table (.input slot) shape shape
  | jump {offset : Int32} {shape : Shape} : Takes table (.jump offset) shape shape
  | jumpIfFalse {offset : Int32} {shape : Shape} :
      Takes table (.jumpIfFalse offset) (.bool :: shape) shape
  | equal {type : Ty} {shape : Shape} (inCells : type ≠ .bool) :
      Takes table .equal (type :: type :: shape) (.bool :: shape)
  | boolEqual {shape : Shape} : Takes table .boolEqual (.bool :: .bool :: shape) (.bool :: shape)
  | add {type : Ty} {shape : Shape} (inCells : type ≠ .bool) :
      Takes table .add (type :: type :: shape) (type :: shape)
  | boolToString {shape : Shape} : Takes table .boolToString (.bool :: shape) (.string :: shape)
  | integerToString {type : Ty} {shape : Shape} (inCells : type ≠ .bool) :
      Takes table .integerToString (type :: shape) (.string :: shape)
  | stringToInteger {type : Ty} {shape : Shape} :
      Takes table .stringToInteger (type :: shape) (.integer :: shape)

namespace Takes

variable {table : SymbolTable} {instruction : Instruction} {shape after : Shape}

theorem pops_le (takes : Takes table instruction shape after) :
    instruction.pops ≤ shape.length := by
  cases takes <;> simp [Instruction.pops]

theorem length_after (takes : Takes table instruction shape after) :
    after.length = shape.length - instruction.pops + instruction.pushes := by
  cases takes <;> simp [Instruction.pops, Instruction.pushes]

theorem slot_lt (takes : Takes table instruction shape after) {slot : Nat}
    (named : instruction.slot? = some slot) : slot < table.size := by
  cases takes with
  | push known | getTop known | input known =>
      cases named
      exact SymbolTable.lt_size_of_content? known
  | _ => contradiction

end Takes

/-- A shape is what a table has wherever an instruction in front of the table goes on. -/
structure Arrives (later : List (Option Shape)) (instruction : Instruction) (after : Shape) :
    Prop where
  onward : instruction.fallsThrough = true → later[0]? = some (some after)
  jump : ∀ {offset : Int32}, instruction.offset? = some offset →
    ∃ distance : Nat, offset.toInt = distance + 1 ∧ later[distance]? = some (some after)

/-- Code flows along a table of shapes, which goes on behind the code. Where the table has no shape,
an instruction may still not work on a cell. -/
def Flow (table : SymbolTable) : List Instruction → List (Option Shape) → Prop
  | [], _ => True
  | _ :: _, [] => False
  | instruction :: rest, entry :: later =>
      (match entry with
        | some shape =>
            ∃ after, Takes table instruction shape after ∧ Arrives later instruction after
        | none => instruction.slot? = none) ∧
        Flow table rest later

section Flow

variable {table : SymbolTable} {code rest : List Instruction} {shapes later : List (Option Shape)}
variable {instruction : Instruction} {shape after : Shape}

theorem Arrives.of_prefix (arrives : Arrives shapes instruction after)
    (longer : shapes <+: later) : Arrives later instruction after := by
  have kept : ∀ {index : Nat}, shapes[index]? = some (some after) →
      later[index]? = some (some after) := by
    obtain ⟨more, rfl⟩ := longer
    intro index there
    rw [List.getElem?_append_left (List.getElem?_eq_some_iff.1 there).1, there]
  refine ⟨fun falls => kept (arrives.onward falls), fun jumps => ?_⟩
  obtain ⟨distance, forward, there⟩ := arrives.jump jumps
  exact ⟨distance, forward, kept there⟩

/-- More shapes behind do no harm. -/
theorem Flow.of_prefix (flow : Flow table code shapes) (longer : shapes <+: later) :
    Flow table code later := by
  induction code generalizing shapes later with
  | nil => trivial
  | cons instruction rest induction =>
      obtain ⟨more, rfl⟩ := longer
      cases shapes with
      | nil => exact absurd flow id
      | cons entry shapes =>
          refine ⟨?_, induction flow.2 (List.prefix_append shapes more)⟩
          cases entry with
          | none => exact flow.1
          | some shape =>
              obtain ⟨after, takes, arrives⟩ := flow.1
              exact ⟨after, takes, arrives.of_prefix (List.prefix_append shapes more)⟩

/-- Code in a row flows if each part of it does. -/
theorem Flow.append {front back : List Instruction} {first second : List (Option Shape)}
    (fits : first.length = front.length) (flow : Flow table front (first ++ second))
    (onward : Flow table back second) : Flow table (front ++ back) (first ++ second) := by
  induction front generalizing first with
  | nil =>
      rw [List.length_eq_zero_iff.1 fits]
      exact onward
  | cons instruction front induction =>
      obtain ⟨entry, first, rfl⟩ := List.exists_cons_of_length_eq_add_one fits
      exact ⟨flow.1, induction (Nat.succ.inj fits) flow.2⟩

/-- An instruction that only goes on with the next one. -/
theorem Flow.cons (takes : Takes table instruction shape after)
    (falls : instruction.offset? = none) (flow : Flow table rest (some after :: later)) :
    Flow table (instruction :: rest) (some shape :: some after :: later) := by
  refine ⟨⟨after, takes, fun _ => rfl, fun jumps => ?_⟩, flow⟩
  rw [falls] at jumps
  contradiction

/-- What code that flows does at one of its instructions. -/
theorem Flow.at (flow : Flow table code shapes) {index : Nat}
    (found : code[index]? = some instruction) (known : shapes[index]? = some (some shape)) :
    ∃ after, Takes table instruction shape after ∧
      Arrives (shapes.drop (index + 1)) instruction after := by
  induction code generalizing shapes index with
  | nil => contradiction
  | cons first rest induction =>
      cases shapes with
      | nil => exact absurd flow id
      | cons entry later =>
          cases index with
          | zero =>
              rw [List.getElem?_cons_zero, Option.some.injEq] at found known
              subst found known
              exact flow.1
          | succ index => exact induction flow.2 found known

/-- Code that flows works on cells of the table only. -/
theorem Flow.slot_lt (flow : Flow table code shapes) {index slot : Nat}
    (found : code[index]? = some instruction) (named : instruction.slot? = some slot) :
    slot < table.size := by
  induction code generalizing shapes index with
  | nil => contradiction
  | cons first rest induction =>
      cases shapes with
      | nil => exact absurd flow id
      | cons entry later =>
          cases index with
          | succ index => exact induction flow.2 found
          | zero =>
              rw [List.getElem?_cons_zero, Option.some.injEq] at found
              subst found
              cases entry with
              | none =>
                  have unnamed : first.slot? = none := flow.1
                  rw [unnamed] at named
                  contradiction
              | some shape =>
                  obtain ⟨after, takes, -⟩ := flow.1
                  exact takes.slot_lt named

end Flow

/-- An instruction goes on at a distance behind the next one. -/
def Instruction.Passes (instruction : Instruction) (distance : Nat) : Prop :=
  instruction.fallsThrough = true ∧ distance = 0 ∨
    ∃ offset, instruction.offset? = some offset ∧ offset.toInt = distance + 1

/-- Every shape of a table is due: some way leads there from earlier instructions, or from those in
front of the code where so many entries of the table are due already. -/
def Backed (due : Nat → Prop) : List Instruction → List (Option Shape) → Prop
  | [], shapes => ∀ shape, shapes[0]? = some (some shape) → due 0
  | _ :: _, [] => True
  | instruction :: rest, entry :: later =>
      (entry.isSome → due 0) ∧
        Backed (fun distance => due (distance + 1) ∨ entry.isSome ∧ instruction.Passes distance)
          rest later

/-- The heights of some shapes. -/
def heightsOf (shapes : List (Option Shape)) : List (Option Nat) :=
  shapes.map (·.map List.length)

theorem getElem?_heightsOf {shapes : List (Option Shape)} {index height : Nat} :
    (heightsOf shapes)[index]? = some (some height) ↔
      ∃ shape, shapes[index]? = some (some shape) ∧ shape.length = height := by
  rw [heightsOf, List.getElem?_map, Option.map_eq_some_iff]
  constructor
  · rintro ⟨entry, there, same⟩
    obtain ⟨shape, rfl, length⟩ := Option.map_eq_some_iff.1 same
    exact ⟨shape, there, length⟩
  · rintro ⟨shape, there, rfl⟩
    exact ⟨some shape, there, rfl⟩

/-- The heights of shapes that code flows along are consistent. -/
theorem Flow.consistent {table : SymbolTable} {code : List Instruction}
    {shapes : List (Option Shape)} (flow : Flow table code shapes) :
    Heights.Consistent table.size code (heightsOf shapes) where
  slot found named := flow.slot_lt found named
  pops found known := by
    obtain ⟨shape, there, rfl⟩ := getElem?_heightsOf.1 known
    obtain ⟨after, takes, -⟩ := flow.at found there
    exact takes.pops_le
  recorded {index height instruction} found known := by
    obtain ⟨shape, there, rfl⟩ := getElem?_heightsOf.1 known
    obtain ⟨after, takes, arrives⟩ := flow.at found there
    have same : (heightsOf shapes).drop (index + 1) = heightsOf (shapes.drop (index + 1)) :=
      List.map_drop.symm
    rw [same, ← takes.length_after]
    refine ⟨fun falls => getElem?_heightsOf.2 ⟨after, arrives.onward falls, rfl⟩, fun jumps => ?_⟩
    obtain ⟨distance, forward, there⟩ := arrives.jump jumps
    exact ⟨distance, forward, getElem?_heightsOf.2 ⟨after, there, rfl⟩⟩

theorem Backed.supported {code part : List Instruction} {shapes later : List (Option Shape)}
    {due : Nat → Prop} {ip : Nat} (backed : Backed due part later)
    (fits : later.length = part.length + 1) (behind : code.drop ip = part)
    (tail : shapes.drop ip = later)
    (known : ∀ {distance : Nat}, due distance →
      Heights.Due code (heightsOf shapes) ip (ip + distance)) {target height : Nat}
    (beyond : ip ≤ target) (there : (heightsOf shapes)[target]? = some (some height)) :
    Heights.Due code (heightsOf shapes) target target := by
  obtain ⟨shape, here, rfl⟩ := getElem?_heightsOf.1 there
  have entries : ∀ {distance : Nat}, later[distance]? = shapes[ip + distance]? := by
    intro distance
    rw [← tail, List.getElem?_drop]
  induction part generalizing ip later due with
  | nil =>
      have last : later[target - ip]? = some (some shape) := by
        rw [entries, Nat.add_sub_cancel' beyond, here]
      have inside : target - ip < later.length := (List.getElem?_eq_some_iff.1 last).1
      rw [fits, List.length_nil] at inside
      obtain rfl : target = ip := by omega
      rw [Nat.sub_self] at last
      exact known (backed shape last)
  | cons instruction part induction =>
      obtain ⟨entry, later, rfl⟩ := List.exists_cons_of_length_eq_add_one fits
      obtain ⟨found, next⟩ := drop_eq_cons behind
      obtain ⟨now, rest⟩ := drop_eq_cons tail
      rcases Nat.eq_or_lt_of_le beyond with rfl | further
      · rw [here, Option.some.injEq] at now
        subst now
        exact known (backed.1 rfl)
      · refine induction backed.2 (Nat.succ.inj fits) next rest (fun due => ?_) further ?_
        · rcases due with earlier | ⟨reached, passes⟩
          · have due := (known earlier).mono (Nat.le_succ ip)
            rwa [Nat.add_right_comm, Nat.add_assoc]
          · obtain ⟨before, rfl⟩ := Option.isSome_iff_exists.1 reached
            refine .inr ⟨ip, instruction, before.length, Nat.lt_succ_self ip, found,
              getElem?_heightsOf.2 ⟨before, now, rfl⟩, ?_⟩
            exact passes.imp (fun ⟨falls, adjacent⟩ => ⟨falls, by omega⟩)
              (fun ⟨offset, jumps, distance⟩ => ⟨offset, jumps, by omega⟩)
        · intro distance
          rw [← rest, List.getElem?_drop]

/-- The heights that the check finds for code that flows along shapes that are due. -/
theorem Flow.heights_eq {table : SymbolTable} {code : List Instruction}
    {shapes : List (Option Shape)} (flow : Flow table code shapes)
    (fits : shapes.length = code.length + 1) (first : shapes[0]? = some (some []))
    (backed : Backed (· = 0) code shapes) :
    Instruction.heights code table.size = .ok (heightsOf shapes) := by
  refine Heights.heights_eq_ok (by rw [heightsOf, List.length_map, fits])
    (getElem?_heightsOf.2 ⟨[], first, rfl⟩) flow.consistent fun {target height} there => ?_
  refine backed.supported fits rfl rfl (fun due => ?_) (Nat.zero_le target) there
  exact .inl (by rw [due])

end StackScript
