import StackScript.Program.OfLinked
import StackScript.Proofs.LinkedCode.Numbering

/-!
# Assembly of generated code

Over symbols that have their slots, the linked code of a term becomes the term's code, unless one of
its offsets cannot be written; that is the only fault there is.
-/

namespace StackScript

open LinkedInstruction

/-- Assembly comes to some instructions if their offsets fit, and to an offset that does not fit
otherwise. -/
structure Assembles (result : Except AssemblyFault (List Instruction)) (fits : Prop)
    (code : List Instruction) : Prop where
  fit : fits → result = .ok code
  unfit : ¬ fits → ∃ index, result = .error (.displacementOverflow index)

theorem Assembles.congr {result : Except AssemblyFault (List Instruction)} {fits fits' : Prop}
    {code : List Instruction} (assembled : Assembles result fits code) (same : fits ↔ fits') :
    Assembles result fits' code :=
  ⟨fun fit => assembled.fit (same.2 fit),
    fun unfit => assembled.unfit fun fit => unfit (same.1 fit)⟩

namespace LinkedCode

variable {code : LinkedCode} {symbols : SymbolTable}

theorem assembleFrom_append (index : Nat) (front back : List LinkedInstruction) :
    code.assembleFrom symbols index (front ++ back) =
      code.assembleFrom symbols index front >>= fun first =>
        (code.assembleFrom symbols (index + front.length) back).map (first ++ ·) := by
  induction front generalizing index with
  | nil =>
      rw [List.nil_append, assembleFrom]
      cases code.assembleFrom symbols (index + ([] : List LinkedInstruction).length) back <;> rfl
  | cons instruction front induction =>
      have place : index + 1 + front.length = index + (instruction :: front).length := by
        rw [List.length_cons, Nat.add_assoc, Nat.add_comm 1]
      rw [List.cons_append, assembleFrom, assembleFrom, induction, place]
      cases instruction.assemble symbols code index with
      | error fault => rfl
      | ok first =>
          cases code.assembleFrom symbols (index + 1) front with
          | error fault => rfl
          | ok others =>
              cases code.assembleFrom symbols (index + (instruction :: front).length) back <;> rfl

theorem assembles_append {index : Nat} {front back : List LinkedInstruction} {fits fits' : Prop}
    {first second : List Instruction}
    (left : Assembles (code.assembleFrom symbols index front) fits first)
    (right : Assembles (code.assembleFrom symbols (index + front.length) back) fits' second) :
    Assembles (code.assembleFrom symbols index (front ++ back)) (fits ∧ fits')
      (first ++ second) := by
  rw [assembleFrom_append]
  constructor
  · rintro ⟨fitsLeft, fitsRight⟩
    rw [left.fit fitsLeft, right.fit fitsRight]
    rfl
  · intro unfit
    by_cases fitsLeft : fits
    · obtain ⟨place, failed⟩ := right.unfit fun fitsRight => unfit ⟨fitsLeft, fitsRight⟩
      rw [left.fit fitsLeft]
      exact ⟨place, by rw [failed]; rfl⟩
    · obtain ⟨place, failed⟩ := left.unfit fitsLeft
      exact ⟨place, by rw [failed]; rfl⟩

/-- An instruction by itself. -/
theorem assembles_singleton {index : Nat} {instruction : LinkedInstruction} {fits : Prop}
    {result : Instruction}
    (fit : fits → instruction.assemble symbols code index = .ok result)
    (unfit : ¬ fits →
      instruction.assemble symbols code index = .error (.displacementOverflow index)) :
    Assembles (code.assembleFrom symbols index [instruction]) fits [result] := by
  constructor
  · intro fits
    rw [assembleFrom, fit fits]
    rfl
  · intro fits
    refine ⟨index, ?_⟩
    rw [assembleFrom, unfit fits]
    rfl

theorem assembles_plain {index : Nat} {instruction : LinkedInstruction} {result : Instruction}
    (done : instruction.assemble symbols code index = .ok result) :
    Assembles (code.assembleFrom symbols index [instruction]) True [result] :=
  assembles_singleton (fun _ => done) fun never => absurd trivial never

/-- An instruction leads to its landing if the distance can be written. -/
theorem displacement_eq {instruction : LinkedInstruction} {target : InstructionId}
    {index distance : Nat} (targeted : instruction.target = some target)
    (line : code.line? target = some (index + distance)) :
    instruction.displacement code index =
      if distance < 2 ^ 31 then .ok (Int32.ofInt distance)
      else .error (.displacementOverflow index) := by
  obtain ⟨landing, found, placed⟩ := Option.bind_eq_some_iff.1 line
  have offset : ((index + distance : Nat) : Int) - index = distance := by omega
  have bounds : (Int32.minValue.toInt ≤ distance ∧ (distance : Int) ≤ Int32.maxValue.toInt) ↔
      distance < 2 ^ 31 := by
    have least : Int32.minValue.toInt = -2 ^ 31 := by decide
    have greatest : Int32.maxValue.toInt = 2 ^ 31 - 1 := by decide
    omega
  simp only [displacement, targeted, Option.bind_some, found, placed, offset, bounds]

/-- A jump by itself. -/
theorem assembles_jump {operation : Operation} {target : InstructionId}
    {next : Option InstructionId} {index distance : Nat} {jump : Int32 → Instruction}
    (jumps : (toward operation target next).assemble symbols code index =
      ((toward operation target next).displacement code index).map jump)
    (line : code.line? target = some (index + distance)) :
    Assembles (code.assembleFrom symbols index [toward operation target next])
      (distance < 2 ^ 31) [jump (Int32.ofInt distance)] := by
  rw [displacement_eq rfl line] at jumps
  refine assembles_singleton (fun short => ?_) (fun long => ?_)
  · rw [jumps, if_pos short]
    rfl
  · rw [jumps, if_neg long]
    rfl

/-- An instruction on a symbol finds the symbol's slot. -/
theorem slot_onSymbol {operation : Operation} {symbol : SymbolId} {next : Option InstructionId}
    (index : Nat) (known : (symbols.get? symbol).bind Symbol.slot = some symbol) :
    (onSymbol operation symbol next).slot symbols index = .ok symbol := by
  simp only [slot, onSymbol, known]

theorem assemble_landing (jump : InstructionId) (next : Option InstructionId) (index : Nat) :
    (toward .landing jump next).assemble symbols code index = .ok .nop :=
  rfl

theorem assemble_comparison (left : Term) (next : Option InstructionId) (index : Nat) :
    (plain left.comparison next).assemble symbols code index = .ok left.comparisonInstruction := by
  rw [Term.comparison, Term.comparisonInstruction]
  split <;> rfl

theorem assemble_conversion (operand : Term) (next : Option InstructionId) (index : Nat) :
    (plain operand.conversionToString next).assemble symbols code index =
      .ok operand.conversionInstruction := by
  rw [Term.conversionToString, Term.conversionInstruction]
  split <;> rfl

/-- An instruction behind others. -/
theorem assembles_append_plain {index : Nat} {front : List LinkedInstruction}
    {last : LinkedInstruction} {fits : Prop} {first : List Instruction} {result : Instruction}
    (left : Assembles (code.assembleFrom symbols index front) fits first)
    (done : last.assemble symbols code (index + front.length) = .ok result) :
    Assembles (code.assembleFrom symbols index (front ++ [last])) fits (first ++ [result]) :=
  (assembles_append left (assembles_plain done)).congr (and_iff_left trivial)

/-- Wherever the instructions of a term are numbered, they assemble to its code. -/
def Assembled (symbols : SymbolTable) (code : LinkedCode) (term : Term) : Prop :=
  ∀ {first index : Nat} {next : Option InstructionId},
    code.Numbered (index + 1) (term.listed first next) →
      Assembles (code.assembleFrom symbols index ((term.listed first next).map Prod.snd)) term.Fits
        term.code

/-- An instruction behind a term. -/
theorem assembles_unary {operand : Term} {first last index : Nat} {next : Option InstructionId}
    {operator : LinkedInstruction} {result : Instruction} (value : Assembled symbols code operand)
    (done : ∀ index, operator.assemble symbols code index = .ok result)
    (numbered : code.Numbered (index + 1) (operand.listed first next ++ [(last, operator)])) :
    Assembles (code.assembleFrom symbols index
      ((operand.listed first next ++ [(last, operator)]).map Prod.snd)) operand.Fits
      (operand.code ++ [result]) := by
  rw [numbered_append] at numbered
  rw [List.map_append]
  exact assembles_append_plain (value numbered.1) (done _)

/-- An instruction behind two terms. -/
theorem assembles_binary {left right : Term} {first middle last index : Nat}
    {next next' : Option InstructionId} {operator : LinkedInstruction} {result : Instruction}
    (front : Assembled symbols code left) (back : Assembled symbols code right)
    (done : ∀ index, operator.assemble symbols code index = .ok result)
    (numbered : code.Numbered (index + 1)
      (left.listed first next ++ (right.listed middle next' ++ [(last, operator)]))) :
    Assembles (code.assembleFrom symbols index
      ((left.listed first next ++ (right.listed middle next' ++ [(last, operator)])).map Prod.snd))
      (left.Fits ∧ right.Fits) (left.code ++ right.code ++ [result]) := by
  rw [numbered_append, numbered_append, Term.length_listed, Nat.add_right_comm] at numbered
  rw [List.map_append, List.map_append, ← List.append_assoc]
  refine assembles_append_plain (assembles_append (front numbered.1) ?_) (done _)
  rw [List.length_map, Term.length_listed]
  exact back numbered.2.1

theorem assembled_ifThen {condition body : Term} (tests : Assembled symbols code condition)
    (does : Assembled symbols code body) : Assembled symbols code (.ifThen condition body) := by
  intro first index next numbered
  simp only [Term.listed, numbered_append, Numbered, Term.length_listed] at numbered
  obtain ⟨front, -, middle, last, -⟩ := numbered
  have skips : Assembles (code.assembleFrom symbols (index + condition.code.length)
      [toward .jumpIfFalse (first + condition.code.length + body.code.length + 1)
        (some (first + condition.code.length + 1))]) (body.code.length + 2 < 2 ^ 31)
      [.jumpIfFalse (Int32.ofInt (body.code.length + 2))] := by
    apply assembles_jump rfl
    rw [last]
    congr 1
    omega
  have runs : Assembles (code.assembleFrom symbols (index + condition.code.length + 1)
      ((body.listed (first + condition.code.length + 1)
        (some (first + condition.code.length + body.code.length + 1))).map Prod.snd))
      body.Fits body.code := by
    apply does
    rwa [Nat.add_right_comm index]
  have whole := assembles_append (tests front) (by
    rw [List.length_map, Term.length_listed]
    exact assembles_append skips (assembles_append_plain runs
      (assemble_landing (first + condition.code.length) next _)))
  simpa [Term.listed, Term.code, Term.Fits, and_comm] using whole

theorem assembled_ifElse {condition body otherwise : Term}
    (tests : Assembled symbols code condition) (does : Assembled symbols code body)
    (others : Assembled symbols code otherwise) :
    Assembled symbols code (.ifElse condition body otherwise) := by
  intro first index next numbered
  simp only [Term.listed, numbered_append, Numbered, Term.length_listed] at numbered
  obtain ⟨front, -, middle, -, landing, back, last, -⟩ := numbered
  have skips : Assembles (code.assembleFrom symbols (index + condition.code.length)
      [toward .jumpIfFalse
        (first + condition.code.length + body.code.length + otherwise.code.length + 1)
        (some (first + condition.code.length + 1))]) (body.code.length + 3 < 2 ^ 31)
      [.jumpIfFalse (Int32.ofInt (body.code.length + 3))] := by
    apply assembles_jump rfl
    rw [landing]
    congr 1
    omega
  have runs : Assembles (code.assembleFrom symbols (index + condition.code.length + 1)
      ((body.listed (first + condition.code.length + 1)
        (some (first + condition.code.length + body.code.length + otherwise.code.length + 2))).map
          Prod.snd)) body.Fits body.code := by
    apply does
    rwa [Nat.add_right_comm index]
  have leaves : Assembles (code.assembleFrom symbols
      (index + condition.code.length + 1 + body.code.length)
      [toward .jump
        (first + condition.code.length + body.code.length + otherwise.code.length + 1 + 1 + 1)
        (some (first + condition.code.length + body.code.length + otherwise.code.length + 1))])
      (otherwise.code.length + 3 < 2 ^ 31)
      [.jump (Int32.ofInt (otherwise.code.length + 3))] := by
    apply assembles_jump rfl
    rw [last]
    congr 1
    omega
  have elses : Assembles
      (code.assembleFrom symbols (index + condition.code.length + 1 + body.code.length + 2)
        ((otherwise.listed (first + condition.code.length + body.code.length + 1)
          (some (first + condition.code.length + body.code.length + otherwise.code.length +
            3))).map Prod.snd)) otherwise.Fits otherwise.code := by
    apply others
    have place : index + condition.code.length + 1 + body.code.length + 2 + 1 =
        index + 1 + condition.code.length + 1 + body.code.length + 1 + 1 := by omega
    exact place ▸ back
  have whole := assembles_append (tests front) (by
    rw [List.length_map, Term.length_listed]
    exact assembles_append skips (assembles_append runs (by
      rw [List.length_map, Term.length_listed]
      exact assembles_append leaves (assembles_append
        (assembles_plain (assemble_landing (first + condition.code.length)
          (some (first + condition.code.length + body.code.length + 1)) _))
        (assembles_append_plain elses (assemble_landing (first + condition.code.length +
          body.code.length + otherwise.code.length + 2) next _))))))
  simpa [Term.listed, Term.code, Term.Fits, and_comm, and_assoc, and_left_comm] using whole

/-- The numbered instructions of a term assemble to its code. -/
theorem assembles_listed {bound : Nat}
    (slots : ∀ symbol < bound, (symbols.get? symbol).bind Symbol.slot = some symbol) (term : Term)
    (within : term.Within bound) : Assembled symbols code term := by
  induction term with
  | empty | error =>
      intro first index next numbered
      exact assembles_plain rfl
  | input symbol | identifier symbol | stringConstant symbol | integerConstant symbol =>
      intro first index next numbered
      exact assembles_plain (congrArg (Except.map _) (slot_onSymbol index (slots symbol within)))
  | evaluate value induction | print value induction | coerceToInteger value induction =>
      intro first index next numbered
      exact assembles_unary (induction within) (fun _ => rfl) numbered
  | coerceToString value induction =>
      intro first index next numbered
      exact assembles_unary (induction within) (assemble_conversion value next) numbered
  | assign symbol value induction =>
      intro first index next numbered
      refine assembles_unary (induction within.2) (fun index => ?_) numbered
      exact congrArg (Except.map _) (slot_onSymbol index (slots symbol within.1))
  | sequence front back inductionFront inductionBack =>
      intro first index next numbered
      rw [Term.listed, numbered_append, Term.length_listed, Nat.add_right_comm] at numbered
      rw [Term.listed, List.map_append]
      refine assembles_append (inductionFront within.1 numbered.1) ?_
      rw [List.length_map, Term.length_listed]
      exact inductionBack within.2 numbered.2
  | equals left right inductionLeft inductionRight =>
      intro first index next numbered
      exact assembles_binary (inductionLeft within.1) (inductionRight within.2)
        (assemble_comparison left next) numbered
  | add left right inductionLeft inductionRight =>
      intro first index next numbered
      exact assembles_binary (inductionLeft within.1) (inductionRight within.2) (fun _ => rfl)
        numbered
  | ifThen condition body inductionCondition inductionBody =>
      exact assembled_ifThen (inductionCondition within.1) (inductionBody within.2)
  | ifElse condition body otherwise inductionCondition inductionBody inductionOtherwise =>
      exact assembled_ifElse (inductionCondition within.1) (inductionBody within.2.1)
        (inductionOtherwise within.2.2)

theorem assemble_unnumbered (instruction : LinkedInstruction) (index : Nat) :
    instruction.unnumbered.assemble symbols code index =
      instruction.assemble symbols code index := by
  obtain ⟨operation, operand, target, next, line⟩ := instruction
  cases operation <;> rfl

/-- The lines of the instructions themselves do not matter; only those of landings do. -/
theorem assembleFrom_unnumbered (index : Nat) (part : List LinkedInstruction) :
    code.assembleFrom symbols index (part.map LinkedInstruction.unnumbered) =
      code.assembleFrom symbols index part := by
  induction part generalizing index with
  | nil => rfl
  | cons first part induction =>
      rw [List.map_cons, assembleFrom, assembleFrom, assemble_unnumbered, induction]

/-- The numbered linked code of a term assembles to the term's code. -/
theorem assembles_ofTerm {bound : Nat}
    (slots : ∀ symbol < bound, (symbols.get? symbol).bind Symbol.slot = some symbol) {term : Term}
    (within : term.Within bound) :
    Assembles (((ofTerm term).number 1).assembleFrom symbols 0
      (((ofTerm term).number 1).toList.map Prod.snd)) term.Fits term.code := by
  have same : (((ofTerm term).number 1).toList.map Prod.snd).map LinkedInstruction.unnumbered =
      ((term.listed 0 none).map Prod.snd).map LinkedInstruction.unnumbered := by
    rw [List.map_map, List.map_map, ← toList_ofTerm]
    exact (isList_ofTerm term).unnumbered_number 1
  rw [← assembleFrom_unnumbered, same, assembleFrom_unnumbered]
  exact assembles_listed slots term within
    (toList_ofTerm term ▸ (isList_ofTerm term).numbered 1)

end LinkedCode

/-- The slot of a symbol is its number. -/
theorem SymbolTable.slot_assignSlots {table : SymbolTable} {symbol : SymbolId}
    (known : symbol < table.size) :
    (table.assignSlots.get? symbol).bind Symbol.slot = some symbol := by
  have there : table.symbols[symbol]? = some table.symbols[symbol] := List.getElem?_eq_getElem known
  simp [assignSlots, get?, List.getElem?_mapIdx, there]

@[simp] theorem SymbolTable.cells_assignSlots (table : SymbolTable) :
    table.assignSlots.cells = table.cells := by
  apply List.ext_getElem? fun index => ?_
  simp only [cells, assignSlots, List.getElem?_map, List.getElem?_mapIdx, Option.map_map]
  rfl

@[simp] theorem SymbolTable.length_cells (table : SymbolTable) :
    table.cells.length = table.size := by
  rw [cells, List.length_map, size]

/-- The program of a term over the symbols of a table. -/
abbrev Term.program (table : SymbolTable) (term : Term) : Program :=
  ⟨term.code, table.cells⟩

/-- The linked code of a term over known symbols becomes the program of the term, unless an offset
cannot be written. -/
theorem Program.ofLinked?_ofTerm {table : SymbolTable} {term : Term}
    (within : term.Within table.size) :
    (term.Fits → Program.ofLinked? table.assignSlots ((LinkedCode.ofTerm term).number 1) =
        .ok (term.program table)) ∧
      (¬ term.Fits → ∃ index,
        Program.ofLinked? table.assignSlots ((LinkedCode.ofTerm term).number 1) =
          .error (.displacementOverflow index)) := by
  have assembled := LinkedCode.assembles_ofTerm
    (fun _ known => SymbolTable.slot_assignSlots known) within
  constructor
  · intro fits
    rw [Program.ofLinked?, assembled.fit fits, SymbolTable.cells_assignSlots]
    rfl
  · intro unfit
    obtain ⟨index, failed⟩ := assembled.unfit unfit
    exact ⟨index, by rw [Program.ofLinked?, failed]; rfl⟩

end StackScript
