import StackScript.Proofs.Program.Shapes
import StackScript.Proofs.Term.Typing

/-!
# The shapes of a term's code

The shape of the stack at each instruction of a term, if the term is begun with a given one. Nothing
leads to the landing of a jump over an else part.
-/

namespace StackScript.Term

/-- The shapes at the instructions of a term that is begun with a shape. -/
def shapes (shape : Shape) : Term → List (Option Shape)
  | sequence first second => first.shapes shape ++ second.shapes shape
  | empty | error | input _ | identifier _ | stringConstant _ | integerConstant _ => [some shape]
  | evaluate value | print value | assign _ value | coerceToString value | coerceToInteger value =>
      value.shapes shape ++ [some (value.type :: shape)]
  | ifThen condition body =>
      condition.shapes shape ++ some (.bool :: shape) :: (body.shapes shape ++ [some shape])
  | ifElse condition body otherwise =>
      condition.shapes shape ++ some (.bool :: shape) ::
        (body.shapes shape ++ some shape :: none :: (otherwise.shapes shape ++ [some shape]))
  | equals left right | add left right =>
      left.shapes shape ++
        (right.shapes (left.type :: shape) ++ [some (right.type :: left.type :: shape)])

@[simp] theorem length_shapes (term : Term) (shape : Shape) :
    (term.shapes shape).length = term.code.length := by
  induction term generalizing shape with
  | empty | error | input _ | identifier _ | stringConstant _ | integerConstant _ => rfl
  | _ => simp_all +arith [shapes, code]

/-- A term is begun with the shape that is given. -/
theorem shapes_eq_cons (term : Term) (shape : Shape) :
    ∃ rest, term.shapes shape = some shape :: rest := by
  induction term generalizing shape with
  | empty | error | input _ | identifier _ | stringConstant _ | integerConstant _ => exact ⟨_, rfl⟩
  | evaluate _ induction | print _ induction | assign _ _ induction | coerceToString _ induction
  | coerceToInteger _ induction =>
      obtain ⟨rest, begun⟩ := induction shape
      rw [shapes, begun]
      exact ⟨_, rfl⟩
  | sequence _ _ induction _ | equals _ _ induction _ | add _ _ induction _
  | ifThen _ _ induction _ | ifElse _ _ _ induction _ _ =>
      obtain ⟨rest, begun⟩ := induction shape
      rw [shapes, begun]
      exact ⟨_, rfl⟩

theorem getElem?_zero_shapes (term : Term) (shape : Shape) (later : List (Option Shape)) :
    (term.shapes shape ++ later)[0]? = some (some shape) := by
  obtain ⟨rest, begun⟩ := term.shapes_eq_cons shape
  rw [begun]
  rfl

/-- Behind the shapes of a term stand those of what follows it. -/
theorem getElem?_shapes_append (term : Term) (shape : Shape) (later : List (Option Shape))
    (index : Nat) : (term.shapes shape ++ later)[term.code.length + index]? = later[index]? := by
  rw [List.getElem?_append_right (by rw [length_shapes]; exact Nat.le_add_right _ _),
    length_shapes, Nat.add_sub_cancel_left]

/-- An offset that can be written is read back. -/
theorem toInt_offset {offset : Nat} (fits : offset < 2 ^ 31) :
    (Int32.ofInt offset).toInt = offset :=
  Int32.toInt_ofInt_of_le (by omega) (by omega)

section Flow

variable {table : SymbolTable} {term : Term} {type : Ty}

/-- Code with more behind it, which is begun with the shape that the code leaves. -/
theorem flow_append {front back : List Instruction} {shapes later : List (Option Shape)}
    {exit : Shape} (fits : shapes.length = front.length)
    (flow : Flow table front (shapes ++ [some exit])) (begun : later[0]? = some (some exit))
    (onward : Flow table back later) : Flow table (front ++ back) (shapes ++ later) := by
  rw [← List.head?_eq_getElem?] at begun
  obtain ⟨rest, rfl⟩ := List.head?_eq_some_iff.1 begun
  refine Flow.append fits (flow.of_prefix ?_) onward
  exact ⟨rest, by rw [List.append_assoc, List.singleton_append]⟩

theorem takes_comparison {left : Term} {shape : Shape} (typed : left.type = type) :
    Takes table left.comparisonInstruction (type :: type :: shape) (.bool :: shape) := by
  rw [comparisonInstruction, typed]
  by_cases bool : type = .bool
  · rw [if_pos bool, bool]
    exact .boolEqual
  · rw [if_neg bool]
    exact .equal bool

theorem takes_conversion {operand : Term} {shape : Shape} (typed : operand.type = type) :
    Takes table operand.conversionInstruction (type :: shape) (.string :: shape) := by
  rw [conversionInstruction, typed]
  by_cases bool : type = .bool
  · rw [if_pos bool, bool]
    exact .boolToString
  · rw [if_neg bool]
    exact .integerToString bool

theorem offset?_comparisonInstruction (left : Term) :
    left.comparisonInstruction.offset? = none := by
  rw [comparisonInstruction]
  split <;> rfl

theorem offset?_conversionInstruction (operand : Term) :
    operand.conversionInstruction.offset? = none := by
  rw [conversionInstruction]
  split <;> rfl

/-- An instruction behind an expression takes the value of the expression. -/
theorem flow_unary {operand : Term} {instruction : Instruction} {shape exit : Shape}
    (typed : operand.type = type)
    (evaluated : Flow table operand.code (operand.shapes shape ++ [some (type :: shape)]))
    (takes : Takes table instruction (type :: shape) exit) (stays : instruction.offset? = none) :
    Flow table (operand.code ++ [instruction])
      (operand.shapes shape ++ [some (operand.type :: shape)] ++ [some exit]) := by
  rw [typed, List.append_assoc]
  exact flow_append (length_shapes _ _) evaluated rfl (.cons takes stays trivial)

/-- An instruction behind two expressions of one type takes the values of both. -/
theorem flow_binary {left right : Term} {instruction : Instruction} {shape exit : Shape}
    (typed : left.type = type) (typed' : right.type = type)
    (first : Flow table left.code (left.shapes shape ++ [some (type :: shape)]))
    (second : Flow table right.code
      (right.shapes (type :: shape) ++ [some (type :: type :: shape)]))
    (takes : Takes table instruction (type :: type :: shape) exit)
    (stays : instruction.offset? = none) :
    Flow table (left.code ++ right.code ++ [instruction])
      (left.shapes shape ++ (right.shapes (left.type :: shape) ++
        [some (right.type :: left.type :: shape)]) ++ [some exit]) := by
  rw [typed, typed', List.append_assoc, List.append_assoc, List.append_assoc]
  apply flow_append (length_shapes _ _) first (getElem?_zero_shapes _ _ _)
  apply flow_append (length_shapes _ _) second rfl
  exact .cons takes stays trivial

/-- The code of an expression takes a stack of any shape to one with a value of its type more. -/
theorem HasType.flow (typed : HasType table term type) (fits : term.Fits) (shape : Shape) :
    Flow table term.code (term.shapes shape ++ [some (type :: shape)]) := by
  induction typed generalizing shape with
  | identifier named => exact .cons (.push named) rfl trivial
  | stringConstant constant => exact .cons (.push constant) rfl trivial
  | integerConstant constant => exact .cons (.push constant) rfl trivial
  | assign named stored induction =>
      exact flow_unary stored.type_eq (induction fits shape) (.getTop named) rfl
  | @equals left right type first second inductionFirst inductionSecond =>
      exact flow_binary first.type_eq second.type_eq (inductionFirst fits.1 shape)
        (inductionSecond fits.2 _) (takes_comparison first.type_eq)
        (offset?_comparisonInstruction left)
  | add first second adds inductionFirst inductionSecond =>
      exact flow_binary first.type_eq second.type_eq (inductionFirst fits.1 shape)
        (inductionSecond fits.2 _) (.add adds) rfl
  | @coerceToString operand type converted other induction =>
      exact flow_unary converted.type_eq (induction fits shape)
        (takes_conversion converted.type_eq) (offset?_conversionInstruction operand)
  | coerceToInteger converted other induction =>
      exact flow_unary converted.type_eq (induction fits shape) .stringToInteger rfl

/-- The code of a statement leaves a stack of the shape that it found. -/
theorem WellTyped.flow (typed : WellTyped table term) (fits : term.Fits) (shape : Shape) :
    Flow table term.code (term.shapes shape ++ [some shape]) := by
  induction typed generalizing shape with
  | empty => exact .cons .nop rfl trivial
  | input named => exact .cons (.input named) rfl trivial
  | evaluate evaluated =>
      exact flow_unary evaluated.type_eq (evaluated.flow fits shape) .discard rfl
  | print printed => exact flow_unary printed.type_eq (printed.flow fits shape) .print rfl
  | sequence front back inductionFront inductionBack =>
      rw [code, shapes, List.append_assoc]
      exact flow_append (length_shapes _ _) (inductionFront fits.1 shape)
        (getElem?_zero_shapes _ _ _) (inductionBack fits.2 shape)
  | @ifThen condition body decided runs induction =>
      rw [code, shapes, List.append_assoc, List.cons_append, List.append_assoc]
      refine flow_append (length_shapes _ _) (decided.flow fits.1 shape) rfl ⟨?_, ?_⟩
      · refine ⟨shape, .jumpIfFalse, fun _ => getElem?_zero_shapes _ _ _, fun jumps => ?_⟩
        cases jumps
        exact ⟨body.code.length + 1, toInt_offset fits.2.2, getElem?_shapes_append _ _ _ 1⟩
      · exact flow_append (length_shapes _ _) (induction fits.2.1 shape) rfl
          (.cons .nop rfl trivial)
  | @ifElse condition body otherwise decided runs elses inductionBody inductionOtherwise =>
      simp only [code, shapes, List.append_assoc, List.cons_append, List.nil_append]
      refine flow_append (length_shapes _ _) (decided.flow fits.1 shape) rfl ⟨?_, ?_⟩
      · refine ⟨shape, .jumpIfFalse, fun _ => getElem?_zero_shapes _ _ _, fun jumps => ?_⟩
        cases jumps
        refine ⟨body.code.length + 2, toInt_offset fits.2.2.2.1, ?_⟩
        rw [getElem?_shapes_append]
        exact getElem?_zero_shapes otherwise shape _
      · refine flow_append (length_shapes _ _) (inductionBody fits.2.1 shape) rfl ⟨?_, rfl, ?_⟩
        · refine ⟨shape, .jump, fun falls => by contradiction, fun jumps => ?_⟩
          cases jumps
          refine ⟨otherwise.code.length + 2, toInt_offset fits.2.2.2.2, ?_⟩
          exact getElem?_shapes_append otherwise shape _ 1
        · exact flow_append (length_shapes _ _) (inductionOtherwise fits.2.2.1 shape) rfl
            (.cons .nop rfl trivial)

end Flow

/-! ## Ways -/

/-- Once the first instruction of some code is reached, some way leads to every shape of the code,
and to what follows the code. -/
def Connected (code : List Instruction) (shapes : List (Option Shape)) : Prop :=
  ∀ (rest : List Instruction) (later : List (Option Shape)) (due : Nat → Prop), due 0 →
    (∀ next : Nat → Prop, next 0 → (∀ {distance}, due (code.length + distance) → next distance) →
      Backed next rest later) →
    Backed due (code ++ rest) (shapes ++ later)

theorem connected_single {instruction : Instruction} (falls : instruction.fallsThrough = true)
    (shape : Shape) : Connected [instruction] [some shape] := by
  intro rest later due begun onward
  refine ⟨fun _ => begun, onward _ (.inr ⟨rfl, .inl ⟨falls, rfl⟩⟩) fun {distance} known => ?_⟩
  rw [List.length_singleton, Nat.add_comm] at known
  exact .inl known

theorem Connected.append {first second : List Instruction} {shapes shapes' : List (Option Shape)}
    (front : Connected first shapes) (back : Connected second shapes') :
    Connected (first ++ second) (shapes ++ shapes') := by
  intro rest later due begun onward
  rw [List.append_assoc, List.append_assoc]
  apply front _ _ _ begun
  intro middle reached kept
  apply back _ _ _ reached
  intro last ends keptLast
  apply onward last ends
  intro distance known
  rw [List.length_append, Nat.add_assoc] at known
  exact keptLast (kept known)

/-- Nothing leads to the landing of the first jump, but the jump leads over it to the else part, and
the second jump leads over the else part. -/
theorem connected_ifElse {condition body otherwise : Term} {shape : Shape}
    (fits : (ifElse condition body otherwise).Fits)
    (tests : Connected condition.code (condition.shapes shape))
    (does : Connected body.code (body.shapes shape))
    (others : Connected otherwise.code (otherwise.shapes shape)) :
    Connected (ifElse condition body otherwise).code
      ((ifElse condition body otherwise).shapes shape) := by
  intro rest later due begun onward
  simp only [code, shapes, List.append_assoc, List.cons_append]
  apply tests _ _ _ begun
  intro tested decided kept
  refine ⟨fun _ => decided, ?_⟩
  apply does _ _ _ (.inr ⟨rfl, .inl ⟨rfl, rfl⟩⟩)
  intro done ends keptBody
  refine ⟨fun _ => ends, fun never => by contradiction, ?_⟩
  -- The else part is due since the first jump, over the body and the second jump with its landing.
  have far : (Int32.ofInt (body.code.length + 3)).toInt = (body.code.length + 2 : Nat) + 1 :=
    toInt_offset fits.2.2.2.1
  have jumped := keptBody (.inr ⟨rfl, .inr ⟨_, rfl, far⟩⟩)
  apply others _ _ _ (.inl (.inl jumped))
  intro outer last keptOtherwise
  refine connected_single rfl shape _ _ _ last fun leaves reached keptLast => ?_
  apply onward leaves reached
  intro distance known
  have place : (ifElse condition body otherwise).code.length + distance =
      condition.code.length +
        (body.code.length + (otherwise.code.length + (1 + distance) + 1 + 1) + 1) := by
    simp +arith [code]
  exact keptLast (keptOtherwise (.inl (.inl (keptBody (.inl (kept (place ▸ known)))))))

theorem fallsThrough_comparisonInstruction (left : Term) :
    left.comparisonInstruction.fallsThrough = true := by
  rw [comparisonInstruction]
  split <;> rfl

theorem fallsThrough_conversionInstruction (operand : Term) :
    operand.conversionInstruction.fallsThrough = true := by
  rw [conversionInstruction]
  split <;> rfl

/-- Some way leads to every shape of a term whose first instruction is reached, and to what follows
the term. -/
theorem connected_code (term : Term) (fits : term.Fits) (shape : Shape) :
    Connected term.code (term.shapes shape) := by
  induction term generalizing shape with
  | empty | error | input _ | identifier _ | stringConstant _ | integerConstant _ =>
      exact connected_single rfl shape
  | evaluate value induction | print value induction | assign _ value induction
  | coerceToInteger value induction =>
      exact (induction fits shape).append (connected_single rfl _)
  | coerceToString operand induction =>
      have falls := fallsThrough_conversionInstruction operand
      exact (induction fits shape).append (connected_single falls _)
  | sequence front back inductionFront inductionBack =>
      exact (inductionFront fits.1 shape).append (inductionBack fits.2 shape)
  | equals left right inductionLeft inductionRight =>
      have falls := fallsThrough_comparisonInstruction left
      have operands :=
        (inductionLeft fits.1 shape).append (inductionRight fits.2 (left.type :: shape))
      rw [shapes, ← List.append_assoc]
      exact operands.append (connected_single falls _)
  | add left right inductionLeft inductionRight =>
      have operands :=
        (inductionLeft fits.1 shape).append (inductionRight fits.2 (left.type :: shape))
      rw [shapes, ← List.append_assoc]
      exact operands.append (connected_single rfl _)
  | ifThen condition body inductionCondition inductionBody =>
      refine (inductionCondition fits.1 shape).append ?_
      refine Connected.append (connected_single rfl (.bool :: shape)) ?_
      exact (inductionBody fits.2.1 shape).append (connected_single rfl shape)
  | ifElse condition body otherwise inductionCondition inductionBody inductionOtherwise =>
      exact connected_ifElse fits (inductionCondition fits.1 shape) (inductionBody fits.2.1 shape)
        (inductionOtherwise fits.2.2.1 shape)

/-- The check finds the heights of the shapes of a well-typed statement that is begun with an empty
stack. -/
theorem WellTyped.heights_eq {table : SymbolTable} {term : Term} (typed : WellTyped table term)
    (fits : term.Fits) :
    Instruction.heights term.code table.size = .ok (heightsOf (term.shapes [] ++ [some []])) := by
  refine (typed.flow fits []).heights_eq (by simp) (getElem?_zero_shapes term [] _) ?_
  have backed : Backed (· = 0) (term.code ++ []) (term.shapes [] ++ [some []]) :=
    term.connected_code fits [] _ _ _ rfl fun _ last _ _ _ => last
  rwa [List.append_nil] at backed

end StackScript.Term
