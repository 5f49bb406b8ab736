import StackScript.Proofs.Machine.Typing
import StackScript.Proofs.Placement
import StackScript.Proofs.Term.Evaluation
import StackScript.Proofs.Term.Shapes

/-!
# The code of a term evaluates the term

Wherever the code of a term stands, it takes the data of a world to those of the world that the
evaluation of the term leaves, and an expression puts its value on the stack.
-/

namespace StackScript

open Machine

/-- What the slots hold in a world: those of constants never change. -/
def World.slots (world : World) (table : SymbolTable) : List Cell :=
  table.symbols.mapIdx fun id symbol =>
    match symbol.content with
    | .identifier => world.values id
    | content => content.cell

/-- The data of a world, with some data on the stack. -/
def World.view (world : World) (table : SymbolTable) (stack : List Datum) : View :=
  ⟨stack, world.slots table, .ofBytes world.input, ⟨world.output, none, none⟩⟩

section Slots

variable {table : SymbolTable} {symbol target : SymbolId}

theorem World.slot_variable (world : World) (named : table.content? symbol = some .identifier) :
    (world.slots table)[symbol]? = some (world.values symbol) := by
  obtain ⟨entry, there, content⟩ := Option.map_eq_some_iff.1 named
  have found : table.symbols[symbol]? = some entry := there
  rw [slots, List.getElem?_mapIdx, found, Option.map_some, content]

theorem World.slot_constant (world : World) {content : Content}
    (known : table.content? symbol = some content) (constant : content ≠ .identifier) :
    (world.slots table)[symbol]? = some content.cell := by
  obtain ⟨entry, there, rfl⟩ := Option.map_eq_some_iff.1 known
  have found : table.symbols[symbol]? = some entry := there
  rw [slots, List.getElem?_mapIdx, found, Option.map_some]
  cases content : entry.content with
  | identifier => exact absurd content constant
  | string | integer => rfl

theorem SymbolTable.constant_eq {content : Content} (known : table.content? symbol = some content)
    (constant : content ≠ .identifier) : table.constant symbol = content.cell := by
  rw [SymbolTable.constant, known]
  cases content with
  | identifier => contradiction
  | string | integer => rfl

/-- Storing in a variable stores in its slot. -/
theorem World.slots_store (world : World) (named : table.content? target = some .identifier)
    (content : Cell) :
    (world.store target content).slots table = (world.slots table).set target content := by
  obtain ⟨entry, there, variable'⟩ := Option.map_eq_some_iff.1 named
  have found : table.symbols[target]? = some entry := there
  have inside : target < table.symbols.length := (List.getElem?_eq_some_iff.1 found).1
  apply List.ext_getElem?
  intro index
  rw [List.getElem?_set, slots, slots, List.getElem?_mapIdx, List.getElem?_mapIdx,
    List.length_mapIdx]
  by_cases here : target = index
  · subst here
    rw [if_pos rfl, if_pos inside, found, Option.map_some, variable', store]
    simp
  · rw [if_neg here]
    apply congrArg (Option.map · _)
    funext other
    cases other.content with
    | identifier => exact if_neg fun same => here same.symm
    | string | integer => rfl

theorem World.view_store (world : World) (named : table.content? target = some .identifier)
    (content : Cell) (stack : List Datum) :
    (world.store target content).view table stack =
      { world.view table stack with slots := (world.slots table).set target content } := by
  rw [view, world.slots_store named]
  rfl

/-- Nothing is stored in the slots of a program that is loaded. -/
theorem World.slots_initial (table : SymbolTable) (input : InputStream) (output : OutputStream) :
    (World.initial input output).slots table = table.cells := by
  apply List.ext_getElem?
  intro index
  rw [slots, SymbolTable.cells, List.getElem?_mapIdx, List.getElem?_map]
  apply congrArg (Option.map · _)
  funext symbol
  cases symbol.content <;> rfl

end Slots

/-- Copying the slot of a constant. -/
theorem World.does_constant {table : SymbolTable} {symbol : SymbolId} {content : Content}
    (world : World) (stack : List Datum) (known : table.content? symbol = some content)
    (constant : content ≠ .identifier) :
    Does (world.view table stack) (.push symbol) 1
      (world.view table (.cell (table.constant symbol) :: stack)) := by
  rw [SymbolTable.constant_eq known constant]
  exact .push (world.slot_constant known constant)

namespace Term

variable {table : SymbolTable} {whole : List Instruction} {term : Term} {type : Ty} {offset : Nat}

/-- The instruction that a conversion is compiled to makes a string of any datum of its type. -/
theorem does_conversion {operand : Term} {datum : Datum} (is : datum.Is operand.type)
    (world : World) (stack : List Datum) :
    Does (world.view table (datum :: stack)) operand.conversionInstruction 1
      (world.view table (.cell (.string datum.toText) :: stack)) := by
  rw [conversionInstruction]
  by_cases bool : operand.type = .bool
  · rw [bool] at is
    obtain ⟨value, rfl⟩ := Datum.eq_bool is
    rw [if_pos bool]
    exact .boolToString rfl
  · obtain ⟨content, rfl⟩ := Datum.eq_cell is bool
    rw [if_neg bool]
    exact .integerToString rfl

/-- The instruction that a comparison is compiled to compares any data of its type. -/
theorem does_comparison {left : Term} {first second : Datum} (is : first.Is left.type)
    (is' : second.Is left.type) (world : World) (stack : List Datum) :
    Does (world.view table (second :: first :: stack)) left.comparisonInstruction 1
      (world.view table (.bool (first.agrees second) :: stack)) := by
  rw [comparisonInstruction]
  by_cases bool : left.type = .bool
  · rw [bool] at is is'
    obtain ⟨value, rfl⟩ := Datum.eq_bool is
    obtain ⟨value', rfl⟩ := Datum.eq_bool is'
    rw [if_pos bool, Datum.agrees_bool]
    exact .boolEqual rfl
  · obtain ⟨content, rfl⟩ := Datum.eq_cell is bool
    obtain ⟨content', rfl⟩ := Datum.eq_cell is' bool
    rw [if_neg bool, Datum.agrees, Cell.agrees_comm]
    exact .equal rfl

/-- The addition adds any two data of a type that is added. -/
theorem does_add {first second : Datum} (is : first.Is type) (is' : second.Is type)
    (adds : type ≠ .bool) (world : World) (stack : List Datum) :
    Does (world.view table (second :: first :: stack)) .add 1
      (world.view table (first.add second :: stack)) := by
  obtain ⟨left, rfl⟩ := Datum.eq_cell is adds
  obtain ⟨right, rfl⟩ := Datum.eq_cell is' adds
  exact .add rfl

/-- The value of an expression is of its type. -/
theorem HasType.is_value (typed : HasType table term type) (world : World) :
    (term.value table world).1.Is type := by
  induction typed generalizing world with
  | identifier | stringConstant | coerceToString => exact Datum.is_string _
  | integerConstant known =>
      rw [value, SymbolTable.constant_eq known (by simp)]
      exact Datum.is_integer _
  | assign named stored induction => exact induction world
  | equals => exact Datum.is_bool _
  | @add left right type first second adds inductionFirst inductionSecond =>
      have is := inductionFirst world
      have is' := inductionSecond (left.value table world).2
      obtain ⟨content, same⟩ := Datum.eq_cell is adds
      obtain ⟨content', same'⟩ := Datum.eq_cell is' adds
      rw [same] at is
      rw [same'] at is'
      change ((left.value table world).1.add
        (right.value table (left.value table world).2).1).Is type
      rw [same, same']
      exact Datum.is_add is is'
  | coerceToInteger => exact Datum.is_integer _

/-- Wherever the code of an expression stands, it puts the value of the expression on the stack. -/
def Evaluates (table : SymbolTable) (whole : List Instruction) (term : Term) : Prop :=
  ∀ offset, StandsAt whole offset term.code → ∀ (world : World) (stack : List Datum),
    Proceeds whole ⟨offset, world.view table stack⟩
      ⟨offset + term.code.length,
        (term.value table world).2.view table ((term.value table world).1 :: stack)⟩

section Operators

variable {instruction : Instruction} {world : World} {stack : List Datum} {after : View}

/-- An instruction behind an expression is done to the value of the expression. -/
theorem Evaluates.unary (operand : Evaluates table whole term)
    (stands : StandsAt whole offset (term.code ++ [instruction]))
    (does : Does ((term.value table world).2.view table ((term.value table world).1 :: stack))
      instruction 1 after) :
    Proceeds whole ⟨offset, world.view table stack⟩
      ⟨offset + (term.code ++ [instruction]).length, after⟩ := by
  obtain ⟨front, back⟩ := StandsAt.append_iff.1 stands
  rw [List.length_append, ← Nat.add_assoc]
  exact (operand _ front world stack).next (StandsAt.singleton_iff.1 back) does

/-- An instruction behind two expressions is done to their values, that of the second on top. -/
theorem Evaluates.binary {left right : Term} (first : Evaluates table whole left)
    (second : Evaluates table whole right)
    (stands : StandsAt whole offset (left.code ++ right.code ++ [instruction]))
    (does : Does ((right.value table (left.value table world).2).2.view table
      ((right.value table (left.value table world).2).1 :: (left.value table world).1 :: stack))
      instruction 1 after) :
    Proceeds whole ⟨offset, world.view table stack⟩
      ⟨offset + (left.code ++ right.code ++ [instruction]).length, after⟩ := by
  obtain ⟨operands, back⟩ := StandsAt.append_iff.1 stands
  obtain ⟨front, middle⟩ := StandsAt.append_iff.1 operands
  have proceeds := first _ front world stack
  have proceeds' := second _ middle (left.value table world).2 ((left.value table world).1 :: stack)
  rw [List.length_append, ← Nat.add_assoc] at back
  rw [List.length_append, List.length_append, ← Nat.add_assoc, ← Nat.add_assoc]
  exact Proceeds.next (proceeds.trans proceeds') (StandsAt.singleton_iff.1 back) does

end Operators

/-- The code of an expression puts its value on the stack. -/
theorem HasType.evaluates (typed : HasType table term type) : Evaluates table whole term := by
  induction typed with
  | identifier named =>
      intro offset stands world stack
      exact Proceeds.next .refl (StandsAt.singleton_iff.1 stands)
        (.push (world.slot_variable named))
  | stringConstant known | integerConstant known =>
      intro offset stands world stack
      exact Proceeds.next .refl (StandsAt.singleton_iff.1 stands)
        (world.does_constant stack known (by simp))
  | @assign target stored type named typed induction =>
      intro offset stands world stack
      have does : Does ((stored.value table world).2.view table
          ((stored.value table world).1 :: stack)) (.getTop target) 1 _ := .getTop rfl
      rw [value, World.view_store _ named]
      exact induction.unary stands does
  | @equals left right type first second inductionFirst inductionSecond =>
      intro offset stands world stack
      have is := first.is_value world
      have is' := second.is_value (left.value table world).2
      rw [← first.type_eq] at is is'
      exact inductionFirst.binary inductionSecond stands (does_comparison is is' _ _)
  | @add left right type first second adds inductionFirst inductionSecond =>
      intro offset stands world stack
      have is := first.is_value world
      have is' := second.is_value (left.value table world).2
      exact inductionFirst.binary inductionSecond stands (does_add is is' adds _ _)
  | @coerceToString operand type converted other induction =>
      intro offset stands world stack
      have is := converted.is_value world
      rw [← converted.type_eq] at is
      exact induction.unary stands (does_conversion is _ _)
  | coerceToInteger converted other induction =>
      intro offset stands world stack
      exact induction.unary stands (.stringToInteger rfl)

/-! ## Statements -/

/-- Printing writes the text of a datum, if anything is stored in it. -/
theorem does_print (datum : Datum) (world : World) (stack : List Datum) :
    Does (world.view table (datum :: stack)) .print 1
      (World.view
        (match datum.text? with
          | some text => world.writeLine text
          | none => world) table stack) := by
  cases written : datum.text? with
  | none => exact .print rfl (by rw [written]; rfl)
  | some text => exact .print rfl (by rw [written]; rfl)

/-- Reading stores the next line, which ends with the input if not with a line feed. -/
theorem does_input {target : SymbolId} (named : table.content? target = some .identifier)
    (world : World) (stack : List Datum) :
    Does (world.view table stack) (.input target) 1 ((world.readLine target).view table stack) := by
  have read : (InputStream.ofBytes world.input).readLine =
      (.ok (Text.Utf8.decodeLossy (InputStream.dropReturn (world.input.takeWhile (· ≠ 10)))),
        .ofBytes (world.input.dropWhile (· ≠ 10)).tail) := by
    simp only [InputStream.readLine, InputStream.ofBytes]
    cases world.input.dropWhile (· ≠ 10) <;> rfl
  have same : (world.readLine target).slots table = _ := world.slots_store named _
  rw [World.view, World.view, same]
  exact .input rfl read

section Jumps

variable {start : Stage} {ip distance : Nat} {world : World} {stack : List Datum}

/-- A condition that holds goes on with the next instruction. -/
theorem proceeds_of_true {jump : Int32}
    (earlier : Proceeds whole start ⟨ip, world.view table (.bool true :: stack)⟩)
    (found : whole[ip]? = some (.jumpIfFalse jump)) :
    Proceeds whole start ⟨ip + 1, world.view table stack⟩ := by
  refine earlier.jump found (.jumpIfFalse rfl) ?_
  rw [if_pos rfl]
  rfl

/-- A condition that does not hold goes on where the jump leads. -/
theorem proceeds_of_false
    (earlier : Proceeds whole start ⟨ip, world.view table (.bool false :: stack)⟩)
    (found : whole[ip]? = some (.jumpIfFalse (Int32.ofInt distance))) (fits : distance < 2 ^ 31) :
    Proceeds whole start ⟨ip + distance, world.view table stack⟩ := by
  refine earlier.jump found (.jumpIfFalse rfl) ?_
  rw [if_neg (by decide), toInt_offset fits]
  rfl

theorem proceeds_of_jump (earlier : Proceeds whole start ⟨ip, world.view table stack⟩)
    (found : whole[ip]? = some (.jump (Int32.ofInt distance))) (fits : distance < 2 ^ 31) :
    Proceeds whole start ⟨ip + distance, world.view table stack⟩ := by
  apply earlier.jump found .jump
  rw [toInt_offset fits]
  rfl

end Jumps

theorem perform_ifThen (condition body : Term) (world : World) :
    (ifThen condition body).perform table world =
      if (condition.value table world).1 = .bool true then
        body.perform table (condition.value table world).2
      else (condition.value table world).2 := rfl

theorem perform_ifElse (condition body otherwise : Term) (world : World) :
    (ifElse condition body otherwise).perform table world =
      if (condition.value table world).1 = .bool true then
        body.perform table (condition.value table world).2
      else otherwise.perform table (condition.value table world).2 := rfl

/-- The code of a statement takes the data of a world to those of the world that it leaves. -/
theorem WellTyped.proceeds (typed : WellTyped table term) (fits : term.Fits)
    (stands : StandsAt whole offset term.code) (world : World) (stack : List Datum) :
    Proceeds whole ⟨offset, world.view table stack⟩
      ⟨offset + term.code.length, (term.perform table world).view table stack⟩ := by
  induction typed generalizing offset world with
  | empty => exact Proceeds.next .refl (StandsAt.singleton_iff.1 stands) .nop
  | input named =>
      exact Proceeds.next .refl (StandsAt.singleton_iff.1 stands) (does_input named world stack)
  | evaluate evaluated => exact evaluated.evaluates.unary stands (.discard rfl)
  | print printed => exact printed.evaluates.unary stands (does_print _ _ _)
  | @sequence first second front back inductionFront inductionBack =>
      rw [code] at stands ⊢
      obtain ⟨begins, ends⟩ := StandsAt.append_iff.1 stands
      have proceeds := inductionFront fits.1 begins world
      have proceeds' := inductionBack fits.2 ends (first.perform table world)
      rw [List.length_append, ← Nat.add_assoc]
      exact proceeds.trans proceeds'
  | @ifThen condition body decided runs induction =>
      have place : offset + (Term.ifThen condition body).code.length =
          offset + condition.code.length + 1 + body.code.length + 1 := by simp +arith [code]
      rw [code, StandsAt.append_iff, StandsAt.cons_iff, StandsAt.append_iff,
        StandsAt.singleton_iff] at stands
      obtain ⟨front, tested, inner, last⟩ := stands
      have proceeds := decided.evaluates _ front world stack
      obtain ⟨value, same⟩ := Datum.eq_bool (decided.is_value world)
      rw [same] at proceeds
      rw [place, perform_ifThen, same]
      cases value with
      | true =>
          have begun := proceeds_of_true proceeds tested
          have done := induction fits.2.1 inner (condition.value table world).2
          exact Proceeds.next (begun.trans done) last .nop
      | false =>
          have skipped := proceeds_of_false proceeds tested fits.2.2
          rwa [show offset + condition.code.length + (body.code.length + 2) =
            offset + condition.code.length + 1 + body.code.length + 1 by omega] at skipped
  | @ifElse condition body otherwise decided runs elses inductionBody inductionOtherwise =>
      have place : offset + (Term.ifElse condition body otherwise).code.length =
          offset + condition.code.length + 1 + body.code.length + 1 + 1 + otherwise.code.length +
            1 := by
        simp +arith [code]
      rw [code, StandsAt.append_iff, StandsAt.cons_iff, StandsAt.append_iff, StandsAt.cons_iff,
        StandsAt.cons_iff, StandsAt.append_iff, StandsAt.singleton_iff] at stands
      obtain ⟨front, tested, inner, left, -, outer, last⟩ := stands
      have proceeds := decided.evaluates _ front world stack
      obtain ⟨value, same⟩ := Datum.eq_bool (decided.is_value world)
      rw [same] at proceeds
      rw [place, perform_ifElse, same]
      cases value with
      | true =>
          have begun := proceeds_of_true proceeds tested
          have done := inductionBody fits.2.1 inner (condition.value table world).2
          have jumped := proceeds_of_jump (begun.trans done) left fits.2.2.2.2
          rwa [show offset + condition.code.length + 1 + body.code.length +
              (otherwise.code.length + 3) = offset + condition.code.length + 1 + body.code.length +
                1 + 1 + otherwise.code.length + 1 by omega] at jumped
      | false =>
          have skipped := proceeds_of_false proceeds tested fits.2.2.2.1
          rw [show offset + condition.code.length + (body.code.length + 3) =
            offset + condition.code.length + 1 + body.code.length + 1 + 1 by omega] at skipped
          have done := inductionOtherwise fits.2.2.1 outer (condition.value table world).2
          exact Proceeds.next (skipped.trans done) last .nop

end Term

end StackScript
