import Mathlib.Data.List.Nodup
import StackScript.Proofs.LinkedCode.Layout
import StackScript.Proofs.Placement

/-!
# Generated code in list order

The instructions of a term name each other as successors, from the first one to what comes after the
last one, and their numbers are consecutive. So the linked code of a term is one list: following
successors from its head comes to each instruction once, and ends.
-/

namespace StackScript

open LinkedInstruction

namespace Term

/-- The instructions of a term in list order, with their numbers, if the first one has a number and
the last one a successor. -/
def listed (first : Nat) (next : Option InstructionId) :
    Term → List (InstructionId × LinkedInstruction)
  | sequence front back =>
      let middle := first + front.code.length
      front.listed first (some middle) ++ back.listed middle next
  | empty | error => [(first, plain .nop next)]
  | evaluate value =>
      let last := first + value.code.length
      value.listed first (some last) ++ [(last, plain .discard next)]
  | print value =>
      let last := first + value.code.length
      value.listed first (some last) ++ [(last, plain .print next)]
  | input target => [(first, onSymbol .input target next)]
  | ifThen condition body =>
      let skip := first + condition.code.length
      let last := skip + body.code.length + 1
      condition.listed first (some skip) ++ (skip, toward .jumpIfFalse last (some (skip + 1))) ::
        (body.listed (skip + 1) (some last) ++ [(last, toward .landing skip next)])
  | ifElse condition body otherwise =>
      let skip := first + condition.code.length
      let start := skip + body.code.length + 1
      let landing := skip + body.code.length + otherwise.code.length + 1
      let leave := landing + 1
      let last := leave + 1
      condition.listed first (some skip) ++ (skip, toward .jumpIfFalse landing (some (skip + 1))) ::
        (body.listed (skip + 1) (some leave) ++
          (leave, toward .jump last (some landing)) ::
            (landing, toward .landing skip (some start)) ::
              (otherwise.listed start (some last) ++ [(last, toward .landing leave next)]))
  | equals left right =>
      let middle := first + left.code.length
      let last := middle + right.code.length
      left.listed first (some middle) ++
        (right.listed middle (some last) ++ [(last, plain left.comparison next)])
  | assign target value =>
      let last := first + value.code.length
      value.listed first (some last) ++ [(last, onSymbol .getTop target next)]
  | add left right =>
      let middle := first + left.code.length
      let last := middle + right.code.length
      left.listed first (some middle) ++
        (right.listed middle (some last) ++ [(last, plain .add next)])
  | identifier symbol | stringConstant symbol | integerConstant symbol =>
      [(first, onSymbol .push symbol next)]
  | coerceToString operand =>
      let last := first + operand.code.length
      operand.listed first (some last) ++ [(last, plain operand.conversionToString next)]
  | coerceToInteger operand =>
      let last := first + operand.code.length
      operand.listed first (some last) ++ [(last, plain .stringToInteger next)]

/-- What stands in front of a part in reverse may as well stand behind it in order. -/
private theorem perm_swap_behind (part : List Nat) (first second third : Nat) :
    (second :: first :: (part ++ [third])).Perm (part ++ [first, second, third]) :=
  (List.perm_append_comm_assoc [second, first] part [third]).trans
    ((List.Perm.swap first second [third]).append_left part)

/-- The numbers of a term's instructions are consecutive, if not in list order. -/
theorem perm_listed (term : Term) (first : Nat) (next : Option InstructionId) :
    ((term.listed first next).map Prod.fst).Perm (List.range' first term.code.length) := by
  induction term generalizing first next with
  | empty | error | input _ | identifier _ | stringConstant _ | integerConstant _ =>
      exact List.Perm.refl _
  | evaluate value induction | print value induction | assign _ value induction
  | coerceToString value induction | coerceToInteger value induction =>
      simp only [listed, code, List.map_append, List.length_append, List.length_singleton,
        ← List.range'_append_1]
      exact (induction _ _).append (List.Perm.refl _)
  | sequence front back inductionFront inductionBack =>
      simp only [listed, code, List.map_append, List.length_append, ← List.range'_append_1]
      exact (inductionFront _ _).append (inductionBack _ _)
  | equals left right inductionLeft inductionRight | add left right inductionLeft inductionRight =>
      simp only [listed, code, List.map_append, List.length_append, List.length_singleton,
        ← List.range'_append_1, List.append_assoc]
      exact (inductionLeft _ _).append ((inductionRight _ _).append (List.Perm.refl _))
  | ifThen condition body inductionCondition inductionBody =>
      have count : (ifThen condition body).code.length =
          condition.code.length + (1 + (body.code.length + 1)) := by
        simp +arith [code]
      simp only [listed, count, List.map_append, List.map_cons, ← List.range'_append_1]
      refine (inductionCondition _ _).append (List.Perm.cons _ ?_)
      exact (inductionBody _ _).append (by simp +arith)
  | ifElse condition body otherwise inductionCondition inductionBody inductionOtherwise =>
      have count : (ifElse condition body otherwise).code.length =
          condition.code.length + (1 + (body.code.length + (otherwise.code.length + 3))) := by
        simp +arith [code]
      simp only [listed, count, List.map_append, List.map_cons, ← List.range'_append_1]
      refine (inductionCondition _ _).append (List.Perm.cons _ ?_)
      refine (inductionBody _ _).append ?_
      -- The jump and its landing are made behind the else part but stand in front of it.
      refine (perm_swap_behind _ _ _ _).trans ?_
      rw [Nat.add_right_comm]
      refine (inductionOtherwise _ _).append ?_
      simp +arith [List.range'_succ]

@[simp] theorem length_listed (term : Term) (first : Nat) (next : Option InstructionId) :
    (term.listed first next).length = term.code.length := by
  simpa using (term.perm_listed first next).length_eq

end Term

/-! ## Successors -/

/-- Instructions that name each other as successors, from a start on to what comes after them. -/
def Chained : Option InstructionId → List (InstructionId × LinkedInstruction) →
    Option InstructionId → Prop
  | start, [], finish => start = finish
  | start, (id, instruction) :: rest, finish =>
      start = some id ∧ Chained instruction.next rest finish

theorem Chained.append {start middle finish : Option InstructionId}
    {front back : List (InstructionId × LinkedInstruction)} (first : Chained start front middle)
    (second : Chained middle back finish) : Chained start (front ++ back) finish := by
  induction front generalizing start with
  | nil =>
      obtain rfl : start = middle := first
      exact second
  | cons entry front induction => exact ⟨first.1, induction first.2⟩

/-- The instructions of a term lead from the first one to what comes after the last one. -/
theorem Term.chained_listed (term : Term) (first : Nat) (next : Option InstructionId) :
    Chained (some first) (term.listed first next) next := by
  induction term generalizing first next with
  | empty | error | input _ | identifier _ | stringConstant _ | integerConstant _ =>
      exact ⟨rfl, rfl⟩
  | evaluate value induction | print value induction | assign _ value induction
  | coerceToString value induction | coerceToInteger value induction =>
      exact (induction _ _).append ⟨rfl, rfl⟩
  | sequence front back inductionFront inductionBack =>
      exact (inductionFront _ _).append (inductionBack _ _)
  | equals left right inductionLeft inductionRight | add left right inductionLeft inductionRight =>
      exact (inductionLeft _ _).append ((inductionRight _ _).append ⟨rfl, rfl⟩)
  | ifThen condition body inductionCondition inductionBody =>
      exact (inductionCondition _ _).append ⟨rfl, (inductionBody _ _).append ⟨rfl, rfl⟩⟩
  | ifElse condition body otherwise inductionCondition inductionBody inductionOtherwise =>
      refine (inductionCondition _ _).append ⟨rfl, (inductionBody _ _).append ⟨rfl, rfl, ?_⟩⟩
      exact (inductionOtherwise _ _).append ⟨rfl, rfl⟩

namespace LinkedCode

variable {code : LinkedCode}

/-- Following successors from a start on comes to some instructions in turn, and then there is no
successor. -/
inductive Visits (code : LinkedCode) :
    Option InstructionId → List (InstructionId × LinkedInstruction) → Prop
  | ended : Visits code none []
  | next {id : InstructionId} {instruction : LinkedInstruction}
      {rest : List (InstructionId × LinkedInstruction)} (found : code.get? id = some instruction)
      (others : Visits code instruction.next rest) :
      Visits code (some id) ((id, instruction) :: rest)

theorem visits_of_chained {start : Option InstructionId}
    {list : List (InstructionId × LinkedInstruction)} (chained : Chained start list none)
    (found : ∀ entry ∈ list, code.get? entry.1 = some entry.2) : code.Visits start list := by
  induction list generalizing start with
  | nil =>
      obtain rfl : start = none := chained
      exact .ended
  | cons entry rest induction =>
      obtain ⟨rfl, chained⟩ := chained
      exact .next (found _ List.mem_cons_self)
        (induction chained fun other member => found other (List.mem_cons_of_mem _ member))

theorem Visits.found {start : Option InstructionId}
    {list : List (InstructionId × LinkedInstruction)} (visits : code.Visits start list) :
    ∀ entry ∈ list, code.get? entry.1 = some entry.2 := by
  induction visits with
  | ended => exact List.forall_mem_nil _
  | next found _ induction =>
      intro entry member
      rcases List.mem_cons.1 member with rfl | later
      · exact found
      · exact induction entry later

/-- What is visited is listed, if it is not more than may be listed. -/
theorem Visits.listFrom_eq {start : Option InstructionId}
    {list : List (InstructionId × LinkedInstruction)} (visits : code.Visits start list)
    {count : Nat} (enough : list.length ≤ count) : code.listFrom count start = list := by
  induction visits generalizing count with
  | ended => cases count <;> rfl
  | @next id instruction rest found _ induction =>
      obtain ⟨less, rfl⟩ := Nat.exists_eq_add_of_le' (Nat.one_le_of_lt enough)
      rw [listFrom]
      simp only [found]
      rw [induction (Nat.le_of_succ_le_succ enough)]

/-- The instructions of a term that stands among those of linked code are found by their
numbers. -/
theorem get?_of_mem_listed (term : Term) {first : Nat} {next : Option InstructionId}
    (stands : StandsAt code.instructions.toList first (term.created first next)) :
    ∀ entry ∈ term.listed first next, code.get? entry.1 = some entry.2 := by
  have found {id : Nat} {instruction : LinkedInstruction}
      (there : code.instructions.toList[id]? = some instruction) :
      code.get? id = some instruction := by
    rw [get?, ← Array.getElem?_toList, there]
  induction term generalizing first next with
  | empty | error | input _ | identifier _ | stringConstant _ | integerConstant _ =>
      exact List.forall_mem_singleton.2 (found (StandsAt.singleton_iff.1 stands))
  | evaluate value induction | print value induction | assign _ value induction
  | coerceToString value induction | coerceToInteger value induction =>
      simp only [Term.created, StandsAt.append_iff, StandsAt.singleton_iff,
        Term.length_created] at stands
      exact List.forall_mem_append.2
        ⟨induction stands.1, List.forall_mem_singleton.2 (found stands.2)⟩
  | sequence front back inductionFront inductionBack =>
      simp only [Term.created, StandsAt.append_iff, Term.length_created] at stands
      exact List.forall_mem_append.2 ⟨inductionFront stands.1, inductionBack stands.2⟩
  | equals left right inductionLeft inductionRight | add left right inductionLeft inductionRight =>
      simp only [Term.created, StandsAt.append_iff, StandsAt.singleton_iff,
        Term.length_created] at stands
      obtain ⟨front, middle, last⟩ := stands
      exact List.forall_mem_append.2 ⟨inductionLeft front,
        List.forall_mem_append.2 ⟨inductionRight middle, List.forall_mem_singleton.2 (found last)⟩⟩
  | ifThen condition body inductionCondition inductionBody =>
      simp only [Term.created, StandsAt.append_iff, StandsAt.cons_iff,
        Term.length_created] at stands
      obtain ⟨front, skip, middle, last, -⟩ := stands
      rw [Nat.add_right_comm _ 1 body.code.length] at last
      exact List.forall_mem_append.2 ⟨inductionCondition front, List.forall_mem_cons.2
        ⟨found skip, List.forall_mem_append.2
          ⟨inductionBody middle, List.forall_mem_singleton.2 (found last)⟩⟩⟩
  | ifElse condition body otherwise inductionCondition inductionBody inductionOtherwise =>
      simp only [Term.created, StandsAt.append_iff, StandsAt.cons_iff,
        Term.length_created] at stands
      obtain ⟨front, skip, middle, back, landing, leave, last, -⟩ := stands
      rw [Nat.add_right_comm _ 1 body.code.length] at back landing leave last
      rw [Nat.add_right_comm _ 1 otherwise.code.length] at landing leave last
      refine List.forall_mem_append.2 ⟨inductionCondition front, List.forall_mem_cons.2
        ⟨found skip, List.forall_mem_append.2 ⟨inductionBody middle, List.forall_mem_cons.2
          ⟨found leave, List.forall_mem_cons.2 ⟨found landing, ?_⟩⟩⟩⟩⟩
      exact List.forall_mem_append.2
        ⟨inductionOtherwise back, List.forall_mem_singleton.2 (found last)⟩

theorem visits_ofTerm (term : Term) :
    (ofTerm term).Visits (ofTerm term).head (term.listed 0 none) := by
  have head : (ofTerm term).head = some 0 := by rw [ofTerm_eq]
  have stands : StandsAt (ofTerm term).instructions.toList 0 (term.created 0 none) := by
    rw [ofTerm_eq]
    exact .self _
  rw [head]
  exact visits_of_chained (term.chained_listed 0 none) (get?_of_mem_listed term stands)

theorem size_ofTerm (term : Term) : (ofTerm term).instructions.size = term.code.length := by
  rw [ofTerm_eq, List.size_toArray, Term.length_created]

theorem toList_ofTerm (term : Term) : (ofTerm term).toList = term.listed 0 none :=
  (visits_ofTerm term).listFrom_eq (Nat.le_of_eq (by rw [size_ofTerm, Term.length_listed]))

/-- The linked code of a term is as long as its code. -/
theorem length_ofTerm (term : Term) : (ofTerm term).length = term.code.length := by
  rw [length, toList_ofTerm, Term.length_listed]

/-- Linked code that is one list: following successors from its head comes to each instruction once,
and ends. -/
structure IsList (code : LinkedCode) : Prop where
  visits : code.Visits code.head code.toList
  once : (code.toList.map Prod.fst).Perm (List.range code.instructions.size)

theorem isList_ofTerm (term : Term) : (ofTerm term).IsList where
  visits := by
    rw [toList_ofTerm]
    exact visits_ofTerm term
  once := by
    rw [toList_ofTerm, size_ofTerm, List.range_eq_range']
    exact term.perm_listed 0 none

theorem IsList.nodup (isList : code.IsList) : (code.toList.map Prod.fst).Nodup :=
  isList.once.nodup_iff.2 List.nodup_range

end LinkedCode

end StackScript
