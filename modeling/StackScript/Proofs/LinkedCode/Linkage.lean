import StackScript.LinkedCode.Listing
import StackScript.Proofs.LinkedCode.Assembly
import StackScript.Proofs.Result
import StackScript.Proofs.Tree.Construction

/-!
# The linkage of generated code

Successors lead through all instructions of generated code, to each of them once, and end behind the
last one. Jumps and landings belong to each other in pairs, in which the landing stands behind the
jump. Numbering gives the lines of the list and changes nothing else, so the line of a landing is
where its jump goes on in the program.
-/

namespace StackScript

/-! ## Jumps and landings -/

namespace LinkedCode

/-- A jump and a landing that name each other and no symbols. -/
structure Meets (jump landing : InstructionId × LinkedInstruction) : Prop where
  jumps : jump.2.operation.isJump = true
  bare : jump.2.operand = none
  lands : landing.2.operation = .landing
  forth : jump.2.target = some landing.1
  back : landing.2.target = some jump.1

/-- An instruction that has its partner in a list, on the proper side of it, if it is a jump or a
landing, and no target otherwise. -/
inductive Matched (list : List (InstructionId × LinkedInstruction))
    (entry : InstructionId × LinkedInstruction) : Prop
  | jump {landing : InstructionId × LinkedInstruction} (meets : Meets entry landing)
      (order : [entry, landing].Sublist list)
  | landing {jump : InstructionId × LinkedInstruction} (meets : Meets jump entry)
      (order : [jump, entry].Sublist list)
  | single (stays : entry.2.operation.isJump = false) (other : entry.2.operation ≠ .landing)
      (free : entry.2.target = none)

theorem Matched.mono {part whole : List (InstructionId × LinkedInstruction)}
    {entry : InstructionId × LinkedInstruction} (matched : Matched part entry)
    (within : part.Sublist whole) : Matched whole entry := by
  cases matched with
  | jump meets order => exact .jump meets (order.trans within)
  | landing meets order => exact .landing meets (order.trans within)
  | single stays other free => exact .single stays other free

/-- Instructions that all have their partners among each other. -/
def AllMatched (list : List (InstructionId × LinkedInstruction)) : Prop :=
  ∀ entry ∈ list, Matched list entry

theorem AllMatched.append {front back : List (InstructionId × LinkedInstruction)}
    (first : AllMatched front) (second : AllMatched back) : AllMatched (front ++ back) := by
  intro entry member
  rcases List.mem_append.1 member with before | behind
  · exact (first entry before).mono (List.sublist_append_left front back)
  · exact (second entry behind).mono (List.sublist_append_right front back)

theorem AllMatched.single {id : InstructionId} {instruction : LinkedInstruction}
    (stays : instruction.operation.isJump = false)
    (other : decide (instruction.operation = .landing) = false)
    (free : instruction.target = none) : AllMatched [(id, instruction)] := by
  intro entry member
  obtain rfl := List.mem_singleton.1 member
  exact .single stays (of_decide_eq_false other) free

end LinkedCode

open LinkedCode LinkedInstruction

theorem meets_toward {operation : Operation} (jumps : operation.isJump = true)
    {jump landing : InstructionId} {next behind : Option InstructionId} :
    Meets (jump, toward operation landing next) (landing, toward .landing jump behind) :=
  ⟨jumps, rfl, rfl, rfl, rfl⟩

/-- A jump in front of a matched part and its landing behind it. -/
theorem LinkedCode.AllMatched.enclose {part : List (InstructionId × LinkedInstruction)}
    (inner : AllMatched part) {jump landing : InstructionId × LinkedInstruction}
    (meets : Meets jump landing) : AllMatched (jump :: (part ++ [landing])) := by
  have order : [jump, landing].Sublist (jump :: (part ++ [landing])) :=
    (List.sublist_append_right part [landing]).cons_cons jump
  intro entry member
  rw [List.mem_cons, List.mem_append, List.mem_singleton] at member
  rcases member with rfl | inside | rfl
  · exact .jump meets order
  · exact (inner entry inside).mono ((List.sublist_append_left part [landing]).cons jump)
  · exact .landing meets order

/-- Two jumps, of which the second one stands in front of the landing of the first one. -/
theorem LinkedCode.AllMatched.cross {front back : List (InstructionId × LinkedInstruction)}
    (former : AllMatched front) (latter : AllMatched back)
    {skip landing leave last : InstructionId × LinkedInstruction} (skips : Meets skip landing)
    (leaves : Meets leave last) :
    AllMatched (skip :: (front ++ leave :: landing :: (back ++ [last]))) := by
  have tail : [leave, last].Sublist (leave :: landing :: (back ++ [last])) :=
    ((List.sublist_append_right back [last]).cons landing).cons_cons leave
  have outer : [skip, landing].Sublist (skip :: (front ++ leave :: landing :: (back ++ [last]))) :=
    List.cons_sublist_cons.2 (List.singleton_sublist.2 (by simp))
  have inner : [leave, last].Sublist (skip :: (front ++ leave :: landing :: (back ++ [last]))) :=
    (tail.trans (List.sublist_append_right front _)).cons skip
  intro entry member
  simp only [List.mem_cons, List.mem_append, List.not_mem_nil, or_false] at member
  rcases member with rfl | first | rfl | rfl | second | rfl
  · exact .jump skips outer
  · exact (former entry first).mono ((List.sublist_append_left front _).cons skip)
  · exact .jump leaves inner
  · exact .landing skips outer
  · have behind := (((List.sublist_append_left back [last]).cons landing).cons leave)
    exact (latter entry second).mono ((behind.trans (List.sublist_append_right front _)).cons skip)
  · exact .landing leaves inner

/-- The jumps and landings of a term belong to each other in pairs. -/
theorem Term.allMatched_listed (term : Term) (first : Nat) (next : Option InstructionId) :
    AllMatched (term.listed first next) := by
  induction term generalizing first next with
  | empty | error | input _ | identifier _ | stringConstant _ | integerConstant _ =>
      exact .single rfl rfl rfl
  | evaluate value induction | print value induction | assign _ value induction
  | coerceToInteger value induction =>
      exact (induction _ _).append (.single rfl rfl rfl)
  | coerceToString value induction =>
      refine (induction _ _).append ?_
      rw [conversionToString]
      split <;> exact .single rfl rfl rfl
  | sequence front back inductionFront inductionBack =>
      exact (inductionFront _ _).append (inductionBack _ _)
  | equals left right inductionLeft inductionRight =>
      refine (inductionLeft _ _).append ((inductionRight _ _).append ?_)
      rw [comparison]
      split <;> exact .single rfl rfl rfl
  | add left right inductionLeft inductionRight =>
      exact (inductionLeft _ _).append ((inductionRight _ _).append (.single rfl rfl rfl))
  | ifThen condition body inductionCondition inductionBody =>
      exact (inductionCondition _ _).append ((inductionBody _ _).enclose (meets_toward rfl))
  | ifElse condition body otherwise inductionCondition inductionBody inductionOtherwise =>
      exact (inductionCondition _ _).append
        ((inductionBody _ _).cross (inductionOtherwise _ _) (meets_toward rfl) (meets_toward rfl))

/-! ## Places -/

theorem exists_places_of_sublist {α : Type} {list : List α} {first second : α}
    (order : [first, second].Sublist list) :
    ∃ place later : Nat,
      place < later ∧ list[place]? = some first ∧ list[later]? = some second := by
  obtain ⟨front, back, rfl, before, behind⟩ := List.cons_sublist_iff.1 order
  obtain ⟨place, inside, here⟩ := List.getElem_of_mem before
  obtain ⟨distance, there⟩ := List.getElem?_of_mem (List.singleton_sublist.1 behind)
  refine ⟨place, front.length + distance, by omega, ?_, ?_⟩
  · rw [List.getElem?_append_left inside, List.getElem?_eq_getElem inside, here]
  · rw [List.getElem?_append_right (Nat.le_add_right _ _), Nat.add_sub_cancel_left, there]

/-- Instructions at different places of a list without repetitions differ. -/
theorem place_eq_of_nodup {α β : Type} {list : List (α × β)}
    (distinct : (list.map Prod.fst).Nodup) {place other : Nat} {entry : α × β}
    (here : list[place]? = some entry) (there : list[other]? = some entry) : place = other := by
  have inside : place < list.length := (List.getElem?_eq_some_iff.1 here).1
  exact (List.getElem?_inj inside distinct.of_map).1 (here.trans there.symm)

namespace LinkedCode

variable {code : LinkedCode}

/-- Linked code that is one list, in which each jump has a landing of its own behind it and each
landing is one of these. -/
structure WellLinked (code : LinkedCode) : Prop extends code.IsList where
  jumps {place : Nat} {jump : InstructionId × LinkedInstruction}
    (here : code.toList[place]? = some jump) (jumps : jump.2.operation.isJump = true) :
    ∃ later landing, place < later ∧ code.toList[later]? = some landing ∧ Meets jump landing
  landings {place : Nat} {landing : InstructionId × LinkedInstruction}
    (here : code.toList[place]? = some landing) (lands : landing.2.operation = .landing) :
    ∃ earlier jump, earlier < place ∧ code.toList[earlier]? = some jump ∧ Meets jump landing

theorem wellLinked_ofTerm (term : Term) : (ofTerm term).WellLinked := by
  have distinct := (isList_ofTerm term).nodup
  have matched : AllMatched (ofTerm term).toList := by
    rw [toList_ofTerm]
    exact term.allMatched_listed 0 none
  refine ⟨isList_ofTerm term, ?_, ?_⟩
  · intro place jump here jumps
    rcases matched jump (List.mem_of_getElem? here) with ⟨meets, order⟩ | ⟨meets, order⟩ |
      ⟨stays, other, free⟩
    · obtain ⟨first, later, before, found, there⟩ := exists_places_of_sublist order
      obtain rfl := place_eq_of_nodup distinct here found
      exact ⟨later, _, before, there, meets⟩
    · rw [meets.lands] at jumps
      cases jumps
    · rw [stays] at jumps
      cases jumps
  · intro place landing here lands
    rcases matched landing (List.mem_of_getElem? here) with ⟨meets, order⟩ | ⟨meets, order⟩ |
      ⟨stays, other, free⟩
    · have jumps := meets.jumps
      rw [lands] at jumps
      cases jumps
    · obtain ⟨first, later, before, there, found⟩ := exists_places_of_sublist order
      obtain rfl := place_eq_of_nodup distinct here found
      exact ⟨first, _, before, there, meets⟩
    · exact absurd lands other

/-! ## Programs -/

/-- Each instruction of a program is that of the linked instruction at its place. -/
theorem assemble_of_assembleFrom {symbols : SymbolTable} {index : Nat}
    {list : List LinkedInstruction} {result : List Instruction}
    (done : code.assembleFrom symbols index list = .ok result) {place : Nat}
    {linked : LinkedInstruction} (here : list[place]? = some linked) :
    ∃ instruction, result[place]? = some instruction ∧
      linked.assemble symbols code (index + place) = .ok instruction := by
  induction list generalizing index result place with
  | nil => cases here
  | cons first rest induction =>
      rw [assembleFrom] at done
      obtain ⟨instruction, own, done⟩ := Result.bind_eq_ok_iff.1 done
      obtain ⟨behind, others, done⟩ := Result.bind_eq_ok_iff.1 done
      obtain rfl := Except.ok.inj done
      cases place with
      | zero =>
          obtain rfl := Option.some.inj here
          exact ⟨instruction, rfl, own⟩
      | succ place =>
          rw [← Nat.add_assoc, Nat.add_right_comm]
          exact induction others here

/-- The instruction at a place of a program is that of the linked instruction at this place of the
list. -/
theorem assemble_of_ofLinked? {symbols : SymbolTable} {program : Program}
    (compiled : Program.ofLinked? symbols code = .ok program) {place : Nat}
    {entry : InstructionId × LinkedInstruction} (here : code.toList[place]? = some entry) :
    ∃ instruction, program.code[place]? = some instruction ∧
      entry.2.assemble symbols code place = .ok instruction := by
  obtain ⟨made, done, rfl⟩ := Result.map_eq_ok_iff.1 compiled
  have there : (code.toList.map Prod.snd)[place]? = some entry.2 := by
    rw [List.getElem?_map, here, Option.map_some]
  obtain ⟨instruction, goes, own⟩ := assemble_of_assembleFrom done there
  exact ⟨instruction, goes, Nat.zero_add place ▸ own⟩

/-- A jump becomes an instruction with the offset of its landing. -/
theorem exists_assemble_eq_map {jump : LinkedInstruction} (jumps : jump.operation.isJump = true)
    (symbols : SymbolTable) (code : LinkedCode) (place : Nat) :
    ∃ make : Int32 → Instruction, (∀ offset, (make offset).offset? = some offset) ∧
      jump.assemble symbols code place = (jump.displacement code place).map make := by
  obtain ⟨operation, operand, target, next, line⟩ := jump
  cases operation <;> cases jumps
  · exact ⟨.jump, fun _ => rfl, rfl⟩
  · exact ⟨.jumpIfFalse, fun _ => rfl, rfl⟩

/-- A jump that is assembled leads to the line of its landing. -/
theorem offset_of_assemble {symbols : SymbolTable} {jump : LinkedInstruction}
    {place distance : Nat} {target : InstructionId} {instruction : Instruction}
    (jumps : jump.operation.isJump = true) (targeted : jump.target = some target)
    (lands : code.line? target = some (place + distance))
    (done : jump.assemble symbols code place = .ok instruction) :
    ∃ offset, instruction.offset? = some offset ∧ offset.toInt = distance := by
  obtain ⟨make, offsets, same⟩ := exists_assemble_eq_map jumps symbols code place
  rw [same, displacement_eq targeted lands] at done
  obtain ⟨offset, led, rfl⟩ := Result.map_eq_ok_iff.1 done
  split at led
  next short =>
    obtain rfl := Except.ok.inj led
    exact ⟨_, offsets _, Int32.toInt_ofInt_of_le (by omega) (by omega)⟩
  next => cases led

/-- The row of a jump in the listing ends in the line of its landing. -/
theorem row_of_meets (symbols : SymbolTable) {jump landing : InstructionId × LinkedInstruction}
    (meets : Meets jump landing) {place later : Nat} (line : jump.2.line = some place)
    (lands : code.line? landing.1 = some later) :
    code.row symbols jump.2 = Text.decimal place ++ ": " ++ jump.2.operation.name ++ " " ++
      Text.decimal later := by
  have goal : (jump.2.target.bind code.get?).bind LinkedInstruction.line = some later := by
    rw [meets.forth]
    exact lands
  rw [row, goal, line, meets.bare]
  simp [String.append_assoc]

/-- In numbered code, jumps and landings belong to each other as before. -/
theorem WellLinked.jumps_number (linked : code.WellLinked) {start place : Nat}
    {jump : InstructionId × LinkedInstruction}
    (here : (code.number start).toList[place]? = some jump)
    (jumps : jump.2.operation.isJump = true) :
    ∃ later landing, place < later ∧ (code.number start).toList[later]? = some landing ∧
      Meets jump landing ∧ jump.2.line = some (place + start) ∧
      (code.number start).line? landing.1 = some (later + start) := by
  rw [linked.toIsList.getElem?_number] at here
  obtain ⟨entry, found, rfl⟩ := Option.map_eq_some_iff.1 here
  obtain ⟨later, landing, behind, there, meets⟩ := linked.jumps found jumps
  have lands : (code.number start).line? landing.1 = some (later + start) :=
    linked.toIsList.line?_number there
  refine ⟨later, onLine (landing, later + start), behind, ?_, ?_, rfl, lands⟩
  · rw [linked.toIsList.getElem?_number, there]
    rfl
  · exact ⟨meets.jumps, meets.bare, meets.lands, meets.forth, meets.back⟩

end LinkedCode

/-- The linked code of any node of any tree is one list of all its instructions. Its jumps and
landings belong to each other in pairs, and a landing stands behind its jump. Numbered from one,
each instruction has the line of its place and is otherwise as it was; a program of it goes on from
a jump just behind the place of the landing, which is the line that the listing shows. -/
theorem Tree.wellLinked_term (tree : Tree) (root : NodeId) :
    let code := LinkedCode.ofTerm (tree.term root)
    let numbered := code.number 1
    code.WellLinked ∧
      (∀ place : Nat, numbered.toList[place]? = code.toList[place]?.map fun (id, instruction) =>
        (id, { instruction with line := some (place + 1) })) ∧
      ∀ {symbols : SymbolTable} {program : Program},
        Program.ofLinked? symbols numbered = .ok program →
        ∀ {place : Nat} {jump : InstructionId × LinkedInstruction},
          numbered.toList[place]? = some jump → jump.2.operation.isJump = true →
          ∃ (later : Nat) (landing : InstructionId × LinkedInstruction) (instruction : Instruction)
              (offset : Int32),
            place < later ∧ numbered.toList[later]? = some landing ∧ Meets jump landing ∧
              program.code[place]? = some instruction ∧ instruction.offset? = some offset ∧
              (place : Int) + offset.toInt = later + 1 ∧ program.code[later]? = some .nop ∧
              numbered.row symbols jump.2 = Text.decimal (place + 1) ++ ": " ++
                jump.2.operation.name ++ " " ++ Text.decimal (later + 1) := by
  intro code numbered
  have linked : code.WellLinked := wellLinked_ofTerm _
  refine ⟨linked, fun place => ?_, ?_⟩
  · rw [linked.toIsList.getElem?_number]
    rfl
  · intro symbols program compiled place jump here jumps
    obtain ⟨later, landing, behind, there, meets, line, lands⟩ := linked.jumps_number here jumps
    obtain ⟨instruction, goes, made⟩ := LinkedCode.assemble_of_ofLinked? compiled here
    obtain ⟨stand, stands, left⟩ := LinkedCode.assemble_of_ofLinked? compiled there
    have distance : later + 1 = place + (later + 1 - place) := by omega
    obtain ⟨offset, written, leads⟩ := offset_of_assemble jumps meets.forth
      (lands.trans (congrArg some distance)) made
    have idle : stand = .nop := by
      rw [LinkedInstruction.assemble, meets.lands] at left
      exact (Except.ok.inj left).symm
    subst idle
    refine ⟨later, landing, instruction, offset, behind, there, meets, goes, written, ?_, stands,
      row_of_meets symbols meets line lands⟩
    rw [leads]
    omega

/-- The jump over the else part of a conditional, which is made behind that part. -/
theorem Tree.wellLinked_term_sharedConditional :
    let numbered := (LinkedCode.ofTerm (sharedConditional.term 5)).number 1
    let symbols := SymbolTable.assignSlots ⟨[.identifier "x" 1]⟩
    let jump : InstructionId × LinkedInstruction := (16, ⟨.jump, none, some 17, some 15, some 14⟩)
    (Program.ofLinked? symbols numbered).isOk = true ∧ numbered.toList[13]? = some jump ∧
      (∃ (later : Nat) (landing : InstructionId × LinkedInstruction), 13 < later ∧
        numbered.toList[later]? = some landing ∧ Meets jump landing ∧
        numbered.row symbols jump.2 = "14: OP_JMP " ++ Text.decimal (later + 1)) ∧
      numbered.row symbols jump.2 = "14: OP_JMP 18" := by
  intro numbered symbols jump
  have here : numbered.toList[13]? = some jump := by decide +kernel
  have compiled : (Program.ofLinked? symbols numbered).isOk = true := by decide +kernel
  cases made : Program.ofLinked? symbols numbered with
  | error fault =>
      rw [made] at compiled
      cases compiled
  | ok program =>
      obtain ⟨later, landing, -, -, behind, there, meets, -, -, -, -, row⟩ :=
        (wellLinked_term sharedConditional 5).2.2 made here rfl
      exact ⟨rfl, here, ⟨later, landing, behind, there, meets, row⟩, by decide +kernel⟩

end StackScript
