import StackScript.LinkedCode.Generate
import StackScript.Proofs.Term.Code

/-!
# The layout of generated code

Which instructions a term adds to linked code, in the order of their creation. The first one is the
head of the term's segment and the last one its tail, so what comes after the term in the list is
the successor of its last instruction. The else part of a conditional is created in front of the
jump over it.
-/

namespace StackScript

namespace LinkedInstruction

/-- An instruction that is not numbered yet and works on the stack only. -/
def plain (operation : Operation) (next : Option InstructionId) : LinkedInstruction :=
  ⟨operation, none, none, next, none⟩

/-- An instruction that is not numbered yet and works on a symbol. -/
def onSymbol (operation : Operation) (symbol : SymbolId) (next : Option InstructionId) :
    LinkedInstruction :=
  ⟨operation, some symbol, none, next, none⟩

/-- A jump or a landing that is not numbered yet. -/
def toward (operation : Operation) (target : InstructionId) (next : Option InstructionId) :
    LinkedInstruction :=
  ⟨operation, none, some target, next, none⟩

end LinkedInstruction

open LinkedInstruction

namespace Term

/-- The instructions of a term in the order of their creation, if the first one has a number and the
last one a successor. -/
def created (first : Nat) (next : Option InstructionId) : Term → List LinkedInstruction
  | sequence front back =>
      let middle := first + front.code.length
      front.created first (some middle) ++ back.created middle next
  | empty | error => [plain .nop next]
  | evaluate value =>
      value.created first (some (first + value.code.length)) ++ [plain .discard next]
  | print value => value.created first (some (first + value.code.length)) ++ [plain .print next]
  | input target => [onSymbol .input target next]
  | ifThen condition body =>
      let skip := first + condition.code.length
      let last := skip + body.code.length + 1
      condition.created first (some skip) ++ toward .jumpIfFalse last (some (skip + 1)) ::
        (body.created (skip + 1) (some last) ++ [toward .landing skip next])
  | ifElse condition body otherwise =>
      let skip := first + condition.code.length
      let start := skip + body.code.length + 1
      let landing := skip + body.code.length + otherwise.code.length + 1
      let leave := landing + 1
      let last := leave + 1
      condition.created first (some skip) ++ toward .jumpIfFalse landing (some (skip + 1)) ::
        (body.created (skip + 1) (some leave) ++
          (otherwise.created start (some last) ++
            [toward .landing skip (some start), toward .jump last (some landing),
              toward .landing leave next]))
  | equals left right =>
      let middle := first + left.code.length
      let last := middle + right.code.length
      left.created first (some middle) ++
        (right.created middle (some last) ++ [plain left.comparison next])
  | assign target value =>
      value.created first (some (first + value.code.length)) ++ [onSymbol .getTop target next]
  | add left right =>
      let middle := first + left.code.length
      let last := middle + right.code.length
      left.created first (some middle) ++ (right.created middle (some last) ++ [plain .add next])
  | identifier symbol | stringConstant symbol | integerConstant symbol =>
      [onSymbol .push symbol next]
  | coerceToString operand =>
      operand.created first (some (first + operand.code.length)) ++
        [plain operand.conversionToString next]
  | coerceToInteger operand =>
      operand.created first (some (first + operand.code.length)) ++ [plain .stringToInteger next]

@[simp] theorem length_created (term : Term) (first : Nat) (next : Option InstructionId) :
    (term.created first next).length = term.code.length := by
  induction term generalizing first next with
  | empty | error | input _ | identifier _ | stringConstant _ | integerConstant _ => rfl
  | _ => simp_all +arith [created, code]

end Term

/-- Instructions of which only the last one has the successor that is given. -/
def OpenEnded (part : Option InstructionId → List LinkedInstruction) : Prop :=
  ∃ (front : List LinkedInstruction) (last : LinkedInstruction),
    ∀ next, part next = front ++ [{ last with next := next }]

namespace OpenEnded

theorem singleton (last : LinkedInstruction) : OpenEnded fun next => [{ last with next := next }] :=
  ⟨[], last, fun _ => rfl⟩

theorem append {part : Option InstructionId → List LinkedInstruction} (openEnded : OpenEnded part)
    (front : List LinkedInstruction) : OpenEnded fun next => front ++ part next := by
  obtain ⟨before, last, shape⟩ := openEnded
  refine ⟨front ++ before, last, fun next => ?_⟩
  simp only [shape, List.append_assoc]

theorem cons {part : Option InstructionId → List LinkedInstruction} (openEnded : OpenEnded part)
    (first : LinkedInstruction) : OpenEnded fun next => first :: part next :=
  openEnded.append [first]

end OpenEnded

theorem Term.openEnded_created (term : Term) (first : Nat) :
    OpenEnded fun next => term.created first next := by
  induction term generalizing first with
  | empty | error => exact .singleton (plain .nop none)
  | input target => exact .singleton (onSymbol .input target none)
  | identifier symbol | stringConstant symbol | integerConstant symbol =>
      exact .singleton (onSymbol .push symbol none)
  | evaluate value => exact (OpenEnded.singleton (plain .discard none)).append _
  | print value => exact (OpenEnded.singleton (plain .print none)).append _
  | assign target value => exact (OpenEnded.singleton (onSymbol .getTop target none)).append _
  | coerceToString operand =>
      exact (OpenEnded.singleton (plain operand.conversionToString none)).append _
  | coerceToInteger operand => exact (OpenEnded.singleton (plain .stringToInteger none)).append _
  | sequence front back _ induction => exact (induction _).append _
  | ifThen condition body =>
      exact (((OpenEnded.singleton (toward .landing _ none)).append _).cons _).append _
  | ifElse condition body otherwise =>
      exact ((((((OpenEnded.singleton (toward .landing _ none)).cons _).cons _).append _).append
        _).cons _).append _
  | equals left right =>
      exact ((OpenEnded.singleton (plain left.comparison none)).append _).append _
  | add left right => exact ((OpenEnded.singleton (plain .add none)).append _).append _

/-! ## Generation -/

namespace LinkedCode

variable {code : LinkedCode}

/-- The code with parts, one after the other, behind the instructions that it has. -/
def extend (code : LinkedCode) (parts : List (List LinkedInstruction)) : LinkedCode :=
  { code with instructions := code.instructions ++ parts.flatten.toArray }

/-- The number of the instruction that comes behind some parts. -/
def behind (code : LinkedCode) (parts : List (List LinkedInstruction)) : InstructionId :=
  code.instructions.size + parts.flatten.length

theorem extend_congr {parts parts' : List (List LinkedInstruction)}
    (same : parts.flatten = parts'.flatten) : code.extend parts = code.extend parts' := by
  rw [extend, extend, same]

theorem extend_extend (parts parts' : List (List LinkedInstruction)) :
    (code.extend parts).extend parts' = code.extend (parts ++ parts') := by
  simp [extend]

theorem size_extend (parts : List (List LinkedInstruction)) :
    (code.extend parts).instructions.size = code.behind parts := by
  simp [extend, behind]

theorem create_eq (code : LinkedCode) (operation : Operation) (operand : Option SymbolId)
    (target : Option InstructionId) :
    code.create operation operand target =
      (code.extend [[⟨operation, operand, target, none, none⟩]],
        ⟨code.instructions.size, code.instructions.size⟩) := by
  simp [create, extend]

/-- A new instruction is a part by itself. -/
theorem create_extend (code : LinkedCode) (parts : List (List LinkedInstruction))
    (operation : Operation) (operand : Option SymbolId) (target : Option InstructionId) :
    (code.extend parts).create operation operand target =
      (code.extend (parts ++ [[⟨operation, operand, target, none, none⟩]]),
        ⟨code.behind parts, code.behind parts⟩) := by
  rw [create_eq, extend_extend, size_extend]

section Changes

variable {parts : List (List LinkedInstruction)} (front : List (List LinkedInstruction))
variable {back : List (List LinkedInstruction)}

/-- A change of the last instruction of a part leaves the other parts as they are. -/
theorem modify_extend {before : List LinkedInstruction} {last : LinkedInstruction}
    {id : InstructionId} (shape : parts = front ++ (before ++ [last]) :: back)
    (place : id = code.behind front + before.length)
    (change : LinkedInstruction → LinkedInstruction) :
    (code.extend parts).instructions.modify id change =
      (code.extend (front ++ (before ++ [change last]) :: back)).instructions := by
  have here : id = (code.instructions.toList ++ (front.flatten ++ before)).length := by
    rw [place]
    simp [behind, Nat.add_assoc]
  apply Array.ext'
  have list := List.modifyTailIdx_add (List.modifyHead change) 0
    (code.instructions.toList ++ (front.flatten ++ before)) (last :: back.flatten)
  simpa [extend, shape, here, List.modify] using list

/-- A change of an instruction that is a part by itself leaves the other parts as they are. -/
theorem modify_single {last : LinkedInstruction} {id : InstructionId}
    (shape : parts = front ++ [last] :: back) (place : code.behind front = id)
    (change : LinkedInstruction → LinkedInstruction) :
    (code.extend parts).instructions.modify id change =
      (code.extend (front ++ [change last] :: back)).instructions := by
  have alone : parts = front ++ ([] ++ [last]) :: back := shape
  exact modify_extend front alone place.symm change

/-- Linking a segment to another one makes the other one the successor of its last instruction. -/
theorem append_extend {part : Option InstructionId → List LinkedInstruction}
    (openEnded : OpenEnded part) {first second : Segment}
    (shape : parts = front ++ part none :: back)
    (place : first.tail + 1 = code.behind front + (part none).length) :
    (code.extend parts).append first second =
      (code.extend (front ++ part (some second.head) :: back), ⟨first.head, second.tail⟩) := by
  obtain ⟨before, last, ends⟩ := openEnded
  rw [ends] at shape place
  rw [List.length_append, List.length_singleton, ← Nat.add_assoc] at place
  rw [append, modify_extend front shape (Nat.succ.inj place), ends]
  rfl

/-- Linking the segment of a term to another one. -/
theorem append_created (term : Term) {place : Nat} {head : InstructionId} {second : Segment}
    (shape : parts = front ++ term.created place none :: back)
    (start : code.behind front = place) :
    (code.extend parts).append ⟨head, place + term.code.length - 1⟩ second =
      (code.extend (front ++ term.created place (some second.head) :: back),
        ⟨head, second.tail⟩) := by
  refine append_extend front (term.openEnded_created place) shape ?_
  rw [start, Term.length_created]
  exact Nat.sub_add_cancel (Nat.le_add_left_of_le term.length_code_pos)

/-- Linking a segment of one instruction to another one. -/
theorem append_single {last : LinkedInstruction} {place head : InstructionId} {second : Segment}
    (shape : parts = front ++ [last] :: back) (start : code.behind front = place) :
    (code.extend parts).append ⟨head, place⟩ second =
      (code.extend (front ++ [{ last with next := some second.head }] :: back),
        ⟨head, second.tail⟩) := by
  rw [append, modify_single front shape start]
  rfl

/-- What a jump goes to is changed in its own part. -/
theorem setTarget_extend {jump : LinkedInstruction} {id target : InstructionId}
    (shape : parts = front ++ [jump] :: back) (place : code.behind front = id) :
    (code.extend parts).setTarget id target =
      code.extend (front ++ [{ jump with target := some target }] :: back) := by
  rw [setTarget, modify_single front shape place]
  rfl

end Changes

end LinkedCode

section Generation

open LinkedCode

namespace Term

variable {term left right condition body otherwise : Term}

/-- A term adds its instructions to any code, and they are its segment. -/
def Generates (term : Term) : Prop :=
  ∀ (code : LinkedCode) (first : Nat), code.instructions.size = first →
    term.generate code =
      (code.extend [term.created first none], ⟨first, first + term.code.length - 1⟩)

theorem Generates.extend (generates : term.Generates) {code : LinkedCode}
    {parts : List (List LinkedInstruction)} {place : Nat} (start : code.behind parts = place) :
    term.generate (code.extend parts) =
      (code.extend (parts ++ [term.created place none]),
        ⟨place, place + term.code.length - 1⟩) := by
  rw [generates _ place (size_extend parts ▸ start), extend_extend]

/-- Parts that make up the instructions of a term are its segment, as those are. -/
theorem extend_eq_created {code : LinkedCode} {parts : List (List LinkedInstruction)}
    {first last : Nat} (same : parts.flatten = term.created first none)
    (ends : last + 1 = first + term.code.length) :
    (code.extend parts, Segment.mk first last) =
      (code.extend [term.created first none], ⟨first, first + term.code.length - 1⟩) := by
  rw [← ends, Nat.add_sub_cancel]
  congr 1
  exact extend_congr (same.trans (List.append_nil _).symm)

/-- An operand and an instruction behind it. -/
theorem generates_unary {operation : Operation} {symbol : Option SymbolId}
    (generates : body.Generates)
    (generated : ∀ code, term.generate code =
      let (code, value) := body.generate code
      let (code, last) := code.create operation symbol none
      code.append value last)
    (created : ∀ first next, term.created first next =
      body.created first (some (first + body.code.length)) ++
        [⟨operation, symbol, none, next, none⟩])
    (length : term.code.length = body.code.length + 1) : term.Generates := by
  intro code first start
  have lastPlace : code.behind [body.created first none] = first + body.code.length := by
    simp [behind, start]
  simp only [generated, generates code first start, create_extend, lastPlace, List.cons_append,
    List.nil_append]
  rw [append_created [] body (by rfl) start]
  refine extend_eq_created ?_ ?_
  · rw [created]
    rfl
  · rw [length]
    rfl

/-- Two operands and an instruction behind them. -/
theorem generates_binary {operation : Operation} (generates : left.Generates)
    (generates' : right.Generates)
    (generated : ∀ code, term.generate code =
      let (code, first) := left.generate code
      let (code, second) := right.generate code
      let (code, last) := code.create operation none none
      code.join first [second, last])
    (created : ∀ first next, term.created first next =
      left.created first (some (first + left.code.length)) ++
        (right.created (first + left.code.length)
            (some (first + left.code.length + right.code.length)) ++
          [⟨operation, none, none, next, none⟩]))
    (length : term.code.length = left.code.length + right.code.length + 1) : term.Generates := by
  intro code first start
  obtain ⟨middle, toMiddle⟩ : ∃ middle, middle = first + left.code.length := ⟨_, rfl⟩
  obtain ⟨last, toLast⟩ : ∃ last, last = middle + right.code.length := ⟨_, rfl⟩
  have rightPlace (next) : code.behind [left.created first next] = middle := by
    simp [behind, start, toMiddle]
  have lastPlace (next next') :
      code.behind [left.created first next, right.created middle next'] = last := by
    simp [behind, start, toMiddle, toLast, Nat.add_assoc]
  simp only [generated, generates code first start, generates'.extend (rightPlace _), create_extend,
    lastPlace, List.cons_append, List.nil_append, join, List.foldl]
  rw [append_created [] left (by rfl) start]
  rw [append_created [_] right (by rfl) (rightPlace _)]
  refine extend_eq_created ?_ ?_
  · rw [created, ← toMiddle, ← toLast]
    rfl
  · rw [length, toLast, toMiddle]
    simp only [Nat.add_assoc]

theorem generates_sequence (generates : left.Generates) (generates' : right.Generates) :
    (sequence left right).Generates := by
  intro code first start
  have rightPlace (next) : code.behind [left.created first next] = first + left.code.length := by
    simp [behind, start]
  simp only [generate, generates code first start, generates'.extend (rightPlace _),
    List.cons_append, List.nil_append]
  rw [append_created [] left (by rfl) start]
  refine extend_eq_created ?_ ?_
  · simp [created]
  · have nonempty := right.length_code_pos
    rw [Term.code, List.length_append, ← Nat.add_assoc]
    exact Nat.sub_add_cancel (Nat.le_add_left_of_le nonempty)

theorem generates_ifThen (tests : condition.Generates) (runs : body.Generates) :
    (ifThen condition body).Generates := by
  intro code first start
  obtain ⟨skip, toSkip⟩ : ∃ skip, skip = first + condition.code.length := ⟨_, rfl⟩
  obtain ⟨last, toLast⟩ : ∃ last, last = skip + body.code.length + 1 := ⟨_, rfl⟩
  -- Where the parts are, whatever they are linked to.
  have jumpPlace (next) : code.behind [condition.created first next] = skip := by
    simp [behind, start, toSkip]
  have bodyPlace (next jump) : code.behind [condition.created first next, [jump]] = skip + 1 := by
    simp [behind, start, toSkip, Nat.add_assoc]
  have landingPlace (next jump next') :
      code.behind [condition.created first next, [jump], body.created (skip + 1) next'] = last := by
    simp +arith [behind, start, toSkip, toLast]
  simp only [generate, tests code first start, emit, emitLanding, create_extend,
    runs.extend (bodyPlace _ _), List.cons_append, List.nil_append, jumpPlace, landingPlace, join,
    List.foldl]
  -- The condition leads to the jump, the jump to the body and the body to the landing.
  rw [setTarget_extend [_] (by rfl) (jumpPlace none)]
  rw [append_created [] condition (by rfl) start]
  rw [append_single [_] (by rfl) (jumpPlace _)]
  rw [append_created [_, _] body (by rfl) (bodyPlace _ _)]
  refine extend_eq_created ?_ ?_
  · rw [created, ← toSkip, ← toLast]
    rfl
  · simp only [Term.code, List.length_append, List.length_cons, List.length_nil]
    omega

theorem generates_ifElse (tests : condition.Generates) (runs : body.Generates)
    (elses : otherwise.Generates) : (ifElse condition body otherwise).Generates := by
  intro code first start
  obtain ⟨skip, toSkip⟩ : ∃ skip, skip = first + condition.code.length := ⟨_, rfl⟩
  obtain ⟨elsewhere, toElse⟩ : ∃ elsewhere, elsewhere = skip + body.code.length + 1 := ⟨_, rfl⟩
  obtain ⟨landing, toLanding⟩ :
      ∃ landing, landing = skip + body.code.length + otherwise.code.length + 1 := ⟨_, rfl⟩
  -- Where the parts are, whatever they are linked to.
  have skipPlace (next) : code.behind [condition.created first next] = skip := by
    simp [behind, start, toSkip]
  have bodyPlace (next jump) : code.behind [condition.created first next, [jump]] = skip + 1 := by
    simp [behind, start, toSkip, Nat.add_assoc]
  have elsePlace (next jump next') :
      code.behind [condition.created first next, [jump], body.created (skip + 1) next'] =
        elsewhere := by
    simp +arith [behind, start, toSkip, toElse]
  have landingPlace (next jump next' next'') :
      code.behind [condition.created first next, [jump], body.created (skip + 1) next',
        otherwise.created elsewhere next''] = landing := by
    simp +arith [behind, start, toSkip, toLanding]
  have leavePlace (next jump next' next'' back) :
      code.behind [condition.created first next, [jump], body.created (skip + 1) next',
        otherwise.created elsewhere next'', [back]] = landing + 1 := by
    simp +arith [behind, start, toSkip, toLanding]
  have lastPlace (next jump next' next'' back leave) :
      code.behind [condition.created first next, [jump], body.created (skip + 1) next',
        otherwise.created elsewhere next'', [back], [leave]] = landing + 2 := by
    simp +arith [behind, start, toSkip, toLanding]
  simp only [generate, tests code first start, emit, emitLanding, land, create_extend,
    runs.extend (bodyPlace _ _), elses.extend (elsePlace _ _ _), List.cons_append, List.nil_append,
    skipPlace, landingPlace]
  -- The landing of the first jump leads to the else part; only then is the second jump made.
  rw [append_single [_, _, _, _] (by rfl) (landingPlace _ _ _ _)]
  simp only [List.cons_append, List.nil_append]
  rw [setTarget_extend [_] (by rfl) (skipPlace _)]
  simp only [create_extend, List.cons_append, List.nil_append, leavePlace, lastPlace]
  rw [setTarget_extend [_, _, _, _, _] (by rfl) (leavePlace _ _ _ _ _)]
  simp only [List.cons_append, List.nil_append, join, List.foldl]
  -- From here on the parts are linked in list order.
  rw [append_created [] condition (by rfl) start]
  rw [append_single [_] (by rfl) (skipPlace _)]
  rw [append_created [_, _] body (by rfl) (bodyPlace _ _)]
  rw [append_single [_, _, _, _, _] (by rfl) (leavePlace _ _ _ _ _)]
  rw [append_created [_, _, _] otherwise (by rfl) (elsePlace _ _ _)]
  refine extend_eq_created ?_ ?_
  · rw [created, ← toSkip, ← toElse, ← toLanding]
    rfl
  · simp only [Term.code, List.length_append, List.length_cons, List.length_nil]
    omega

/-- Each term adds its instructions to any code, and they are its segment. -/
theorem generates (term : Term) : term.Generates := by
  induction term with
  | empty | error | input _ | identifier _ | stringConstant _ | integerConstant _ =>
      rintro code first rfl
      exact create_eq code _ _ none
  | evaluate value induction | print value induction | assign _ value induction
  | coerceToString value induction | coerceToInteger value induction =>
      exact generates_unary induction (fun _ => rfl) (fun _ _ => rfl) (by simp [Term.code])
  | sequence first second induction induction' => exact generates_sequence induction induction'
  | equals left right induction induction' | add left right induction induction' =>
      exact generates_binary induction induction' (fun _ => rfl) (fun _ _ => rfl)
        (by simp [Term.code, Nat.add_assoc])
  | ifThen condition body induction induction' => exact generates_ifThen induction induction'
  | ifElse condition body otherwise induction induction' induction'' =>
      exact generates_ifElse induction induction' induction''

end Term

/-- The linked code of a term is its instructions in the order of their creation, from the first one
on. -/
theorem LinkedCode.ofTerm_eq (term : Term) :
    LinkedCode.ofTerm term = ⟨(term.created 0 none).toArray, some 0⟩ := by
  have generated := term.generates .empty 0 rfl
  rw [ofTerm, generated]
  simp [LinkedCode.extend, LinkedCode.empty]

end Generation

end StackScript
