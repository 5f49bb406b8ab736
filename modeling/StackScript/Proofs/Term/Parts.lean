import StackScript.Proofs.Term.Shapes

/-!
# Parts of a term

Where the parts of a term have their code, and with which values on the stack it is begun. A
statement is begun with an empty stack wherever it stands.
-/

namespace StackScript.Term

/-- The parts directly under the topmost node, each with the place of its code and the types of the
values that are on the stack by then. -/
def segments : Term → List (Nat × Shape × Term)
  | sequence first second => [(0, [], first), (first.code.length, [], second)]
  | evaluate value | print value | assign _ value | coerceToString value | coerceToInteger value =>
      [(0, [], value)]
  | ifThen condition body => [(0, [], condition), (condition.code.length + 1, [], body)]
  | ifElse condition body otherwise =>
      [(0, [], condition), (condition.code.length + 1, [], body),
        (condition.code.length + 1 + body.code.length + 2, [], otherwise)]
  | equals left right | add left right => [(0, [], left), (left.code.length, [left.type], right)]
  | empty | input _ | error | identifier _ | stringConstant _ | integerConstant _ => []

/-- A part of a term, the place of its code, and the shape of the stack there. -/
inductive Part (whole : Term) : Nat → Shape → Term → Prop
  | whole : Part whole 0 [] whole
  | inside {offset inner : Nat} {shape pushed : Shape} {term part : Term}
      (outer : Part whole offset shape term) (segment : (inner, pushed, part) ∈ term.segments) :
      Part whole (offset + inner) (pushed ++ shape) part

/-- The shape that a term leaves: an expression adds a value to the stack. -/
def leaves (shape : Shape) (term : Term) : Shape :=
  if term.kind.isStatement then shape else term.type :: shape

/-- A term is a statement or an expression, and well-typed. -/
def Sound (table : SymbolTable) (term : Term) : Prop :=
  WellTyped table term ∨ ∃ type, HasType table term type

section Parts

variable {table : SymbolTable} {term : Term} {type : Ty}

theorem HasType.isStatement_eq (typed : HasType table term type) :
    term.kind.isStatement = false := by
  cases typed <;> rfl

theorem WellTyped.isStatement_eq (typed : WellTyped table term) :
    term.kind.isStatement = true := by
  cases typed <;> rfl

theorem HasType.leaves_eq (typed : HasType table term type) (shape : Shape) :
    term.leaves shape = type :: shape := by
  rw [leaves, typed.isStatement_eq, typed.type_eq]
  rfl

theorem WellTyped.leaves_eq (typed : WellTyped table term) (shape : Shape) :
    term.leaves shape = shape := by
  rw [leaves, typed.isStatement_eq]
  rfl

theorem Sound.within (sound : Sound table term) : term.Within table.size := by
  rcases sound with typed | ⟨type, typed⟩
  · exact typed.within
  · exact typed.within

/-- The code of a part stands in that of the whole, and so do the shapes at it and behind it. -/
structure Stands (code : List Instruction) (shapes : List (Option Shape)) (offset : Nat)
    (shape : Shape) (part : Term) : Prop where
  code : StandsAt code offset part.code
  shapes : StandsAt shapes offset (part.shapes shape ++ [some (part.leaves shape)])

theorem Stands.begun {code : List Instruction} {shapes : List (Option Shape)} {offset : Nat}
    {shape : Shape} {part : Term} (stands : Stands code shapes offset shape part) :
    shapes[offset]? = some (some shape) := by
  have first := stands.shapes 0 (by simp)
  rwa [Nat.add_zero, getElem?_zero_shapes] at first

theorem Stands.ended {code : List Instruction} {shapes : List (Option Shape)} {offset : Nat}
    {shape : Shape} {part : Term} (stands : Stands code shapes offset shape part) :
    shapes[offset + part.code.length]? = some (some (part.leaves shape)) := by
  have last := stands.shapes part.code.length (by simp)
  rw [last]
  exact getElem?_shapes_append part shape _ 0

/-- Code and shapes in a row, with the part between others. -/
theorem Stands.of_append {offset : Nat} {shape exit : Shape} {part : Term}
    (front back : List Instruction) (first later : List (Option Shape))
    (fits : front.length = offset) (fits' : first.length = offset)
    (leaves : part.leaves shape = exit) (begun : later[0]? = some (some exit)) :
    Stands (front ++ (part.code ++ back)) (first ++ (part.shapes shape ++ later)) offset shape
      part := by
  refine ⟨.of_append fits, ?_⟩
  rw [← List.head?_eq_getElem?] at begun
  obtain ⟨rest, rfl⟩ := List.head?_eq_some_iff.1 begun
  rw [leaves, ← List.singleton_append, ← List.append_assoc (part.shapes shape)]
  exact .of_append fits'

/-- The only part of a term with one of them. -/
theorem stands_operand {value : Term} {instruction : Instruction} {shape exit : Shape}
    (typed : HasType table value type) :
    Stands (value.code ++ [instruction])
      ((value.shapes shape ++ [some (value.type :: shape)]) ++ [some exit]) 0 ([] ++ shape)
      value := by
  rw [List.append_assoc, typed.type_eq]
  exact .of_append [] [instruction] [] _ rfl rfl (typed.leaves_eq shape) rfl

/-- The operands of a term with two of them. -/
theorem stands_operands {left right : Term} {type' : Ty} {instruction : Instruction}
    {shape exit : Shape} (first : HasType table left type) (second : HasType table right type')
    {inner : Nat} {pushed : Shape} {part : Term}
    (segment : (inner, pushed, part) ∈ [(0, [], left), (left.code.length, [left.type], right)]) :
    Sound table part ∧ part.kind.isStatement = false ∧
      Stands (left.code ++ right.code ++ [instruction])
        (left.shapes shape ++
          (right.shapes (left.type :: shape) ++ [some (right.type :: left.type :: shape)]) ++
            [some exit]) inner (pushed ++ shape) part := by
  rw [List.append_assoc, List.append_assoc, List.append_assoc]
  simp only [List.mem_cons, Prod.mk.injEq, List.not_mem_nil, or_false] at segment
  rcases segment with ⟨rfl, rfl, rfl⟩ | ⟨rfl, rfl, rfl⟩
  · refine ⟨.inr ⟨_, first⟩, first.isStatement_eq, ?_⟩
    refine .of_append [] _ [] _ rfl rfl (first.leaves_eq shape) ?_
    rw [← first.type_eq]
    exact getElem?_zero_shapes _ _ _
  · refine ⟨.inr ⟨_, second⟩, second.isStatement_eq, ?_⟩
    refine .of_append left.code [instruction] (left.shapes shape) _ rfl (length_shapes _ _)
      (second.leaves_eq _) ?_
    rw [← second.type_eq]
    rfl

/-- The parts of a well-typed expression directly under it are expressions that stand in it. -/
theorem HasType.stands_segment {inner : Nat} {pushed : Shape} {part : Term}
    (typed : HasType table term type) (segment : (inner, pushed, part) ∈ term.segments)
    (shape : Shape) :
    Sound table part ∧ part.kind.isStatement = false ∧
      Stands term.code (term.shapes shape ++ [some (term.leaves shape)]) inner (pushed ++ shape)
        part := by
  cases typed with
  | identifier | stringConstant | integerConstant => contradiction
  | assign _ typed | coerceToString typed | coerceToInteger typed =>
      rw [segments, List.mem_singleton, Prod.mk.injEq, Prod.mk.injEq] at segment
      obtain ⟨rfl, rfl, rfl⟩ := segment
      exact ⟨.inr ⟨_, typed⟩, typed.isStatement_eq, stands_operand typed⟩
  | equals first second | add first second => exact stands_operands first second segment

/-- The parts of a well-typed statement directly under it are well-typed and stand in it, and they
are begun with the stack that the statement is begun with. -/
theorem WellTyped.stands_segment {inner : Nat} {pushed : Shape} {part : Term}
    (typed : WellTyped table term) (segment : (inner, pushed, part) ∈ term.segments)
    (shape : Shape) :
    Sound table part ∧ pushed = [] ∧
      Stands term.code (term.shapes shape ++ [some (term.leaves shape)]) inner (pushed ++ shape)
        part := by
  rw [typed.leaves_eq]
  cases typed with
  | empty | input => contradiction
  | evaluate typed | print typed =>
      rw [segments, List.mem_singleton, Prod.mk.injEq, Prod.mk.injEq] at segment
      obtain ⟨rfl, rfl, rfl⟩ := segment
      exact ⟨.inr ⟨_, typed⟩, rfl, stands_operand typed⟩
  | @sequence first second front back =>
      simp only [segments, List.mem_cons, Prod.mk.injEq, List.not_mem_nil, or_false] at segment
      rw [code, shapes, List.append_assoc]
      rcases segment with ⟨rfl, rfl, rfl⟩ | ⟨rfl, rfl, rfl⟩
      · refine ⟨.inl front, rfl, ?_⟩
        exact .of_append [] _ [] _ rfl rfl (front.leaves_eq shape) (getElem?_zero_shapes _ _ _)
      · refine ⟨.inl back, rfl, ?_⟩
        have stands := Stands.of_append first.code [] (first.shapes shape) [some shape] rfl
          (length_shapes _ _) (back.leaves_eq shape) rfl
        rwa [List.append_nil] at stands
  | @ifThen condition body decided runs =>
      simp only [segments, List.mem_cons, Prod.mk.injEq, List.not_mem_nil, or_false] at segment
      simp only [code, shapes, List.append_assoc, List.cons_append]
      rcases segment with ⟨rfl, rfl, rfl⟩ | ⟨rfl, rfl, rfl⟩
      · refine ⟨.inr ⟨_, decided⟩, rfl, ?_⟩
        exact .of_append [] _ [] _ rfl rfl (decided.leaves_eq shape) rfl
      · refine ⟨.inl runs, rfl, ?_⟩
        rw [List.append_cons, List.append_cons (condition.shapes shape)]
        exact .of_append _ [.nop] _ _ (by simp) (by simp) (runs.leaves_eq shape) rfl
  | @ifElse condition body otherwise decided runs elses =>
      simp only [segments, List.mem_cons, Prod.mk.injEq, List.not_mem_nil, or_false] at segment
      simp only [code, shapes, List.append_assoc, List.cons_append]
      rcases segment with ⟨rfl, rfl, rfl⟩ | ⟨rfl, rfl, rfl⟩ | ⟨rfl, rfl, rfl⟩
      · refine ⟨.inr ⟨_, decided⟩, rfl, ?_⟩
        exact .of_append [] _ [] _ rfl rfl (decided.leaves_eq shape) rfl
      · refine ⟨.inl runs, rfl, ?_⟩
        rw [List.append_cons, List.append_cons (condition.shapes shape)]
        exact .of_append _ _ _ _ (by simp) (by simp) (runs.leaves_eq shape) rfl
      · refine ⟨.inl elses, rfl, ?_⟩
        have stands : Stands _ _ (condition.code.length + 1 + body.code.length + 2) shape part :=
          .of_append
            (condition.code ++ .jumpIfFalse (Int32.ofInt (body.code.length + 3)) ::
              (body.code ++ [.jump (Int32.ofInt (part.code.length + 3)), .nop])) [.nop]
            (condition.shapes shape ++ some (.bool :: shape) ::
              (body.shapes shape ++ [some shape, none])) [some shape, some shape]
            (by simp +arith) (by simp +arith) (elses.leaves_eq shape) rfl
        simpa only [List.append_assoc, List.cons_append, List.nil_append] using stands

/-- A part of a well-typed script is well-typed and stands in it, and statements are begun with an
empty stack. -/
theorem Part.stands {whole part : Term} {offset : Nat} {shape : Shape}
    (typed : WellTyped table whole) (held : Part whole offset shape part) :
    Sound table part ∧ (part.kind.isStatement = true → shape = []) ∧
      Stands whole.code (whole.shapes [] ++ [some []]) offset shape part := by
  induction held with
  | whole =>
      refine ⟨.inl typed, fun _ => rfl, .self _, ?_⟩
      rw [typed.leaves_eq]
      exact .self _
  | @inside offset inner shape pushed term part outer segment induction =>
      obtain ⟨sound, empty, stands⟩ := induction
      have placed : (part.kind.isStatement = true → pushed ++ shape = []) ∧ Sound table part ∧
          Stands term.code (term.shapes shape ++ [some (term.leaves shape)]) inner (pushed ++ shape)
            part := by
        rcases sound with typed | ⟨type, typed⟩
        · obtain ⟨sound, rfl, stands⟩ := typed.stands_segment segment shape
          exact ⟨fun _ => empty typed.isStatement_eq, sound, stands⟩
        · obtain ⟨sound, expression, stands⟩ := typed.stands_segment segment shape
          refine ⟨fun statement => ?_, sound, stands⟩
          rw [expression] at statement
          contradiction
      obtain ⟨begun, sound, inside⟩ := placed
      exact ⟨sound, begun, stands.code.trans inside.code, stands.shapes.trans inside.shapes⟩

end Parts

end StackScript.Term
