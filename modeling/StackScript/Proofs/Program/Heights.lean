import Mathlib.Tactic.ByContra
import StackScript.Program.Heights
import StackScript.Proofs.Placement
import StackScript.Proofs.Result

/-!
# What a table of heights says

A table that the height check has accepted is consistent: its first entry is zero, an instruction
that is reached finds the values it takes, and wherever it may go on, the table has the height that
it leaves. Entries are only ever added while the check goes through the instructions, so what has
been recorded behind an instruction is still there at the end.
-/

namespace StackScript.Heights

open Result

/-- A table that has all heights of another one of the same length. -/
structure Extends (before after : List (Option Nat)) : Prop where
  length_eq : after.length = before.length
  kept : ∀ {index height : Nat}, before[index]? = some (some height) →
    after[index]? = some (some height)

namespace Extends

theorem refl (table : List (Option Nat)) : Extends table table :=
  ⟨rfl, fun known => known⟩

theorem trans {first second third : List (Option Nat)} (left : Extends first second)
    (right : Extends second third) : Extends first third :=
  ⟨right.length_eq.trans left.length_eq, fun known => right.kept (left.kept known)⟩

theorem cons {before after : List (Option Nat)} (extended : Extends before after)
    {entry next : Option Nat} (same : ∀ {height}, entry = some height → next = some height) :
    Extends (entry :: before) (next :: after) := by
  refine ⟨by simp [extended.length_eq], fun {index height} known => ?_⟩
  cases index with
  | zero =>
      rw [List.getElem?_cons_zero, Option.some.injEq] at known ⊢
      exact same known
  | succ index => exact extended.kept known

theorem tail {before after : List (Option Nat)} {entry next : Option Nat}
    (extended : Extends (entry :: before) (next :: after)) : Extends before after := by
  refine ⟨Nat.succ.inj extended.length_eq, fun {index height} known => ?_⟩
  have there : (entry :: before)[index + 1]? = some (some height) := known
  exact extended.kept there

theorem head {before after : List (Option Nat)} {next : Option Nat} {height : Nat}
    (extended : Extends (some height :: before) (next :: after)) : next = some height := by
  have there : (some height :: before)[0]? = some (some height) := rfl
  have kept := extended.kept there
  rwa [List.getElem?_cons_zero, Option.some.injEq] at kept

end Extends

/-- Bringing a height to an entry keeps the other entries and leaves the height there. -/
theorem merge_extends {ip height distance : Nat} {table merged : List (Option Nat)}
    (brought : merge ip height distance table = .ok merged) :
    Extends table merged ∧
      (distance < table.length → merged[distance]? = some (some height)) := by
  induction table generalizing distance merged with
  | nil =>
      rw [merge, Except.ok.injEq] at brought
      subst brought
      exact ⟨.refl [], fun inside => absurd inside (Nat.not_lt_zero distance)⟩
  | cons entry rest induction =>
      cases distance with
      | zero =>
          cases entry with
          | none =>
              rw [merge, Except.ok.injEq] at brought
              subst brought
              exact ⟨(Extends.refl rest).cons (by simp), fun _ => rfl⟩
          | some known =>
              rw [merge] at brought
              split at brought
              next same =>
                rw [Except.ok.injEq] at brought
                subst brought same
                exact ⟨.refl _, fun _ => rfl⟩
              next => contradiction
      | succ distance =>
          rw [merge] at brought
          obtain ⟨merged', later, rfl⟩ := map_eq_ok_iff.1 brought
          obtain ⟨extended, recorded⟩ := induction later
          exact ⟨extended.cons id, fun inside => recorded (Nat.lt_of_succ_lt_succ inside)⟩

/-- What the heights behind an instruction at the front of a table have to be, by the height that
the instruction leaves; entries are counted from the instruction on. -/
structure Recorded (table : List (Option Nat)) (instruction : Instruction) (after : Nat) :
    Prop where
  onward : instruction.fallsThrough = true → table[0]? = some (some after)
  jump : ∀ {offset : Int32}, instruction.offset? = some offset →
    ∃ distance : Nat, offset.toInt = distance + 1 ∧ table[distance]? = some (some after)

theorem Recorded.extends {before later : List (Option Nat)} {instruction : Instruction}
    {after : Nat} (recorded : Recorded before instruction after) (extended : Extends before later) :
    Recorded later instruction after :=
  ⟨fun falls => extended.kept (recorded.onward falls), fun jumps =>
    let ⟨distance, offset, known⟩ := recorded.jump jumps
    ⟨distance, offset, extended.kept known⟩⟩

theorem mergeJump_extends {ip length height : Nat} {later merged : List (Option Nat)}
    {offset : Int32} (reaches : length = ip + later.length)
    (brought : mergeJump ip length height later offset = .ok merged) :
    Extends later merged ∧
      ∃ distance : Nat, offset.toInt = distance + 1 ∧ merged[distance]? = some (some height) := by
  simp only [mergeJump] at brought
  split at brought
  next => contradiction
  next forward =>
    split at brought
    next => contradiction
    next inside =>
      obtain ⟨extended, recorded⟩ := merge_extends brought
      refine ⟨extended, offset.toInt.toNat - 1, by omega, recorded (by omega)⟩

theorem leave_eq (ip length height : Nat) (instruction : Instruction) (later : List (Option Nat)) :
    leave ip length height instruction later =
      if height < instruction.pops then .error (.underflow ip instruction)
      else
        let after := height - instruction.pops + instruction.pushes
        (match instruction.offset? with
          | some offset => mergeJump ip length after later offset
          | none => .ok later) >>= fun later =>
            if instruction.fallsThrough then merge (ip + 1) after 0 later else .ok later := by
  unfold leave
  by_cases short : height < instruction.pops
  · rw [if_pos short, if_pos short]
    rfl
  · rw [if_neg short, if_neg short]
    cases instruction.offset? <;> rfl

/-- Leaving an instruction by an entry of the table; without a height, the instruction is not
reached and nothing is recorded. -/
def leaveEntry (ip length : Nat) (instruction : Instruction) (later : List (Option Nat)) :
    Option Nat → Except HeightFault (List (Option Nat))
  | some height => leave ip length height instruction later
  | none => .ok later

theorem through_cons (cells length ip : Nat) (entry : Option Nat) (later : List (Option Nat))
    (instruction : Instruction) (rest : List Instruction) :
    through cells length ip (entry :: later) (instruction :: rest) =
      checkSlot cells ip instruction >>= fun _ =>
        leaveEntry ip length instruction later entry >>= fun left =>
          (through cells length (ip + 1) left rest).map (entry :: ·) := by
  cases entry <;> rfl

/-- Leaving an instruction records the height behind it wherever the instruction goes on. -/
theorem leave_extends {ip length height : Nat} {instruction : Instruction}
    {later left : List (Option Nat)} (reaches : length = ip + later.length) (behind : later ≠ [])
    (done : leave ip length height instruction later = .ok left) :
    instruction.pops ≤ height ∧ Extends later left ∧
      Recorded left instruction (height - instruction.pops + instruction.pushes) := by
  rw [leave_eq] at done
  have enough : ¬ height < instruction.pops := by
    intro short
    rw [if_pos short] at done
    contradiction
  rw [if_neg enough] at done
  obtain ⟨middle, jumped, done⟩ := bind_eq_ok_iff.1 done
  have first : Extends later middle ∧ ∀ {offset : Int32}, instruction.offset? = some offset →
      ∃ distance : Nat, offset.toInt = distance + 1 ∧ middle[distance]? =
        some (some (height - instruction.pops + instruction.pushes)) := by
    cases jumps : instruction.offset? with
    | none =>
        simp only [jumps] at jumped
        cases jumped
        exact ⟨.refl later, fun same => by contradiction⟩
    | some offset =>
        simp only [jumps] at jumped
        obtain ⟨extended, recorded⟩ := mergeJump_extends reaches jumped
        refine ⟨extended, fun same => ?_⟩
        rw [Option.some.injEq] at same
        exact same ▸ recorded
  have second : Extends middle left ∧ (instruction.fallsThrough = true →
      left[0]? = some (some (height - instruction.pops + instruction.pushes))) := by
    cases falls : instruction.fallsThrough with
    | false =>
        simp only [falls] at done
        cases done
        exact ⟨.refl _, fun same => by contradiction⟩
    | true =>
        simp only [falls] at done
        obtain ⟨extended, recorded⟩ := merge_extends done
        refine ⟨extended, fun _ => recorded ?_⟩
        rw [first.1.length_eq]
        exact List.length_pos_iff.2 behind
  refine ⟨Nat.le_of_not_lt enough, first.1.trans second.1, second.2, fun jumps => ?_⟩
  obtain ⟨distance, offset, known⟩ := first.2 jumps
  exact ⟨distance, offset, second.1.kept known⟩

theorem leaveEntry_extends {ip length : Nat} {instruction : Instruction} {entry : Option Nat}
    {later left : List (Option Nat)} (reaches : length = ip + later.length) (behind : later ≠ [])
    (done : leaveEntry ip length instruction later entry = .ok left) :
    Extends later left ∧ ∀ {height}, entry = some height → instruction.pops ≤ height ∧
      Recorded left instruction (height - instruction.pops + instruction.pushes) := by
  cases entry with
  | none =>
      cases done
      exact ⟨.refl later, fun same => by contradiction⟩
  | some height =>
      obtain ⟨pops, extended, recorded⟩ := leave_extends reaches behind done
      refine ⟨extended, fun same => ?_⟩
      rw [Option.some.injEq] at same
      exact same ▸ ⟨pops, recorded⟩

/-- The slot of an instruction, if it has one, is among the cells. -/
theorem slot_lt_of_checkSlot {cells ip slot : Nat} {instruction : Instruction}
    (checked : checkSlot cells ip instruction = .ok ()) (named : instruction.slot? = some slot) :
    slot < cells := by
  simp only [checkSlot, named] at checked
  by_contra outside
  rw [if_neg outside] at checked
  contradiction

/-- What a table says of the instruction at one of its entries. -/
structure Consistent (cells : Nat) (code : List Instruction) (table : List (Option Nat)) :
    Prop where
  slot : ∀ {index slot : Nat} {instruction : Instruction}, code[index]? = some instruction →
    instruction.slot? = some slot → slot < cells
  pops : ∀ {index height : Nat} {instruction : Instruction}, code[index]? = some instruction →
    table[index]? = some (some height) → instruction.pops ≤ height
  recorded : ∀ {index height : Nat} {instruction : Instruction}, code[index]? = some instruction →
    table[index]? = some (some height) → Recorded (table.drop (index + 1)) instruction
      (height - instruction.pops + instruction.pushes)

theorem through_consistent {cells length ip : Nat} {table result : List (Option Nat)}
    {code : List Instruction} (fits : table.length = code.length + 1)
    (reaches : length = ip + code.length)
    (done : through cells length ip table code = .ok result) :
    Extends table result ∧ Consistent cells code result := by
  induction code generalizing ip table result with
  | nil =>
      rw [through, Except.ok.injEq] at done
      subst done
      refine ⟨.refl table, ?_, ?_, ?_⟩ <;> intros <;> contradiction
  | cons instruction rest induction =>
      cases table with
      | nil => contradiction
      | cons entry later =>
          have laterFits : later.length = rest.length + 1 := Nat.succ.inj fits
          have laterReaches : length = ip + later.length := by
            rw [reaches, laterFits, List.length_cons]
          have nonempty : later ≠ [] := List.ne_nil_of_length_eq_add_one laterFits
          rw [through_cons] at done
          obtain ⟨_, slot, done⟩ := bind_eq_ok_iff.1 done
          obtain ⟨left, leaves, done⟩ := bind_eq_ok_iff.1 done
          obtain ⟨others, onward, rfl⟩ := map_eq_ok_iff.1 done
          have front := leaveEntry_extends laterReaches nonempty leaves
          have leftFits : left.length = rest.length + 1 := front.1.length_eq.trans laterFits
          have restReaches : length = ip + 1 + rest.length := by
            rw [reaches, List.length_cons, Nat.add_right_comm, Nat.add_assoc]
          obtain ⟨extended, consistent⟩ := induction leftFits restReaches onward
          refine ⟨(front.1.trans extended).cons id, ?_, ?_, ?_⟩
          · intro index slot' found here named
            cases index with
            | zero =>
                rw [List.getElem?_cons_zero, Option.some.injEq] at here
                subst here
                exact slot_lt_of_checkSlot slot named
            | succ index => exact consistent.slot here named
          · intro index height found here known
            cases index with
            | zero =>
                rw [List.getElem?_cons_zero, Option.some.injEq] at here known
                subst here
                exact (front.2 known).1
            | succ index => exact consistent.pops here known
          · intro index height found here known
            cases index with
            | zero =>
                rw [List.getElem?_cons_zero, Option.some.injEq] at here known
                subst here
                exact (front.2 known).2.extends extended
            | succ index => exact consistent.recorded here known

/-- The heights of accepted instructions are consistent, and the first of them is zero. -/
theorem heights_consistent {code : List Instruction} {cells : Nat} {table : List (Option Nat)}
    (accepted : Instruction.heights code cells = .ok table) :
    table.length = code.length + 1 ∧ table[0]? = some (some 0) ∧ Consistent cells code table := by
  have fits : (some 0 :: List.replicate code.length none : List (Option Nat)).length =
      code.length + 1 := by
    rw [List.length_cons, List.length_replicate]
  obtain ⟨extended, consistent⟩ := through_consistent fits (Nat.zero_add _).symm accepted
  exact ⟨extended.length_eq.trans fits, extended.kept rfl, consistent⟩

/-- A program is accepted exactly if it has a table of heights. -/
theorem check_eq_ok_iff {program : Program} :
    program.check = .ok () ↔
      ∃ table, Instruction.heights program.code program.cells.length = .ok table := by
  rw [Program.check, map_eq_ok_iff]
  simp

/-! ## Which tables are found -/

/-- Bringing a height to an entry that may have it does no harm. -/
theorem merge_complete {ip height distance : Nat} {table goal : List (Option Nat)}
    (below : Extends table goal) (agrees : goal[distance]? = some (some height)) :
    ∃ merged, merge ip height distance table = .ok merged ∧ Extends merged goal := by
  induction table generalizing distance goal with
  | nil =>
      rw [List.eq_nil_of_length_eq_zero below.length_eq] at agrees
      contradiction
  | cons entry rest induction =>
      cases goal with
      | nil => contradiction
      | cons known goal =>
          cases distance with
          | zero =>
              rw [List.getElem?_cons_zero, Option.some.injEq] at agrees
              subst agrees
              cases entry with
              | none => exact ⟨_, rfl, below.tail.cons id⟩
              | some found =>
                  have same : height = found := Option.some.inj below.head
                  exact ⟨_, by rw [merge, if_pos same.symm], below⟩
          | succ distance =>
              obtain ⟨merged, brought, within⟩ := induction below.tail agrees
              refine ⟨entry :: merged, by rw [merge, brought]; rfl, within.cons fun same => ?_⟩
              subst same
              exact below.head

theorem mergeJump_complete {ip length height : Nat} {later goal : List (Option Nat)}
    {offset : Int32} (reaches : length = ip + later.length) (below : Extends later goal)
    (recorded : ∃ distance : Nat, offset.toInt = distance + 1 ∧
      goal[distance]? = some (some height)) :
    ∃ merged, mergeJump ip length height later offset = .ok merged ∧ Extends merged goal := by
  obtain ⟨distance, forward, agrees⟩ := recorded
  have inside : distance < goal.length := (List.getElem?_eq_some_iff.1 agrees).1
  rw [below.length_eq] at inside
  have short : ¬ offset.toInt ≤ 0 := by omega
  have near : ¬ (length : Int) < ip + offset.toInt := by omega
  have place : offset.toInt.toNat - 1 = distance := by omega
  simp only [mergeJump, if_neg short, if_neg near, place]
  exact merge_complete below agrees

/-- An instruction is left where a table allows it. -/
theorem leave_complete {ip length height : Nat} {instruction : Instruction}
    {later goal : List (Option Nat)} (reaches : length = ip + later.length)
    (below : Extends later goal) (enough : instruction.pops ≤ height)
    (recorded : Recorded goal instruction (height - instruction.pops + instruction.pushes)) :
    ∃ left, leave ip length height instruction later = .ok left ∧ Extends left goal := by
  rw [leave_eq, if_neg (Nat.not_lt_of_le enough)]
  have jumped : ∃ middle, (match instruction.offset? with
      | some offset => mergeJump ip length (height - instruction.pops + instruction.pushes) later
          offset
      | none => .ok later) = Except.ok middle ∧ Extends middle goal := by
    cases jumps : instruction.offset? with
    | none => exact ⟨later, rfl, below⟩
    | some offset => exact mergeJump_complete reaches below (recorded.jump jumps)
  obtain ⟨middle, done, within⟩ := jumped
  simp only [done]
  cases falls : instruction.fallsThrough with
  | false => exact ⟨middle, rfl, within⟩
  | true => exact merge_complete within (recorded.onward falls)

/-- An instruction at an index may go on at a target. -/
def Leads (instruction : Instruction) (index target : Nat) : Prop :=
  instruction.fallsThrough = true ∧ target = index + 1 ∨
    ∃ offset, instruction.offset? = some offset ∧ (target : Int) = index + offset.toInt

/-- Where an instruction goes on, the height behind it is recorded. -/
theorem Recorded.leads {table : List (Option Nat)} {instruction : Instruction}
    {after index target : Nat} (recorded : Recorded table instruction after)
    (leads : Leads instruction index target) :
    index < target ∧ table[target - (index + 1)]? = some (some after) := by
  rcases leads with ⟨falls, rfl⟩ | ⟨offset, jumps, lands⟩
  · rw [Nat.sub_self]
    exact ⟨Nat.lt_succ_self index, recorded.onward falls⟩
  · obtain ⟨distance, forward, there⟩ := recorded.jump jumps
    have place : target - (index + 1) = distance := by omega
    rw [place]
    exact ⟨by omega, there⟩

/-- A way leads to a target: it is the first instruction, or one of the first instructions goes on
there and is itself reached. -/
def Due (code : List Instruction) (table : List (Option Nat)) (bound target : Nat) : Prop :=
  target = 0 ∨ ∃ index instruction entry, index < bound ∧ code[index]? = some instruction ∧
    table[index]? = some (some entry) ∧ Leads instruction index target

theorem Due.mono {code : List Instruction} {table : List (Option Nat)} {bound larger target : Nat}
    (due : Due code table bound target) (le : bound ≤ larger) : Due code table larger target :=
  due.imp id fun ⟨index, instruction, entry, earlier, others⟩ =>
    ⟨index, instruction, entry, Nat.lt_of_lt_of_le earlier le, others⟩

/-- A table has no heights but those that ways bring. -/
def Supported (code : List Instruction) (table : List (Option Nat)) : Prop :=
  ∀ {target height : Nat}, table[target]? = some (some height) → Due code table target target

/-- Where all ways to an entry have been brought, it is what it is going to be. -/
theorem entry_eq {entry known : Option Nat} {later goal : List (Option Nat)}
    (below : Extends (entry :: later) (known :: goal))
    (brought : ∀ {height : Nat}, known = some height → entry = some height) : entry = known := by
  cases entry with
  | some height => exact below.head.symm
  | none =>
      cases known with
      | none => rfl
      | some height => exact brought rfl

theorem checkSlot_eq_ok {cells ip : Nat} {instruction : Instruction}
    (inside : ∀ {slot : Nat}, instruction.slot? = some slot → slot < cells) :
    checkSlot cells ip instruction = .ok () := by
  cases named : instruction.slot? with
  | none => simp only [checkSlot, named]
  | some slot => simp only [checkSlot, named, if_pos (inside named)]

/-- Leaving an instruction by what its entry is going to be goes through, and brings what the
heights behind it are going to be wherever the instruction goes on. -/
theorem leaveEntry_complete {ip length : Nat} {instruction : Instruction} {entry : Option Nat}
    {later goal : List (Option Nat)} (reaches : length = ip + later.length) (behind : later ≠ [])
    (below : Extends later goal)
    (reached : ∀ {height}, entry = some height → instruction.pops ≤ height ∧
      Recorded goal instruction (height - instruction.pops + instruction.pushes)) :
    ∃ left, leaveEntry ip length instruction later entry = .ok left ∧ Extends left goal ∧
      Extends later left ∧ ∀ {target height}, goal[target - (ip + 1)]? = some (some height) →
        entry.isSome → Leads instruction ip target →
          left[target - (ip + 1)]? = some (some height) := by
  cases entry with
  | none => exact ⟨later, rfl, below, .refl later, fun _ reached => by contradiction⟩
  | some height =>
      obtain ⟨enough, recorded⟩ := reached rfl
      obtain ⟨left, done, within⟩ := leave_complete reaches below enough recorded
      obtain ⟨-, extended, after⟩ := leave_extends reaches behind done
      refine ⟨left, done, within, extended, fun {target height} known _ leads => ?_⟩
      obtain ⟨-, brought⟩ := after.leads leads
      rw [(recorded.leads leads).2] at known
      rw [brought, known]

theorem through_complete {cells length ip : Nat} {code part : List Instruction}
    {table current : List (Option Nat)} (consistent : Consistent cells code table)
    (supported : Supported code table) (behind : code.drop ip = part)
    (reaches : length = ip + part.length) (fits : current.length = part.length + 1)
    (below : Extends current (table.drop ip))
    (brought : ∀ {target height : Nat}, ip ≤ target → table[target]? = some (some height) →
      Due code table ip target → current[target - ip]? = some (some height)) :
    through cells length ip current part = .ok (table.drop ip) := by
  induction part generalizing ip current with
  | nil =>
      obtain ⟨entry, rfl⟩ := List.length_eq_one_iff.1 fits
      obtain ⟨known, last⟩ := List.length_eq_one_iff.1 below.length_eq
      obtain ⟨there, -⟩ := drop_eq_cons last
      rw [last] at below
      have same : entry = known := entry_eq below fun {height} reached => by
        subst reached
        have found := brought (Nat.le_refl ip) there (supported there)
        rwa [Nat.sub_self, List.getElem?_cons_zero, Option.some.injEq] at found
      rw [last, through, same]
  | cons instruction part induction =>
      obtain ⟨entry, later, rfl⟩ := List.exists_cons_of_length_eq_add_one fits
      obtain ⟨known, goal, shape⟩ :=
        List.exists_cons_of_length_eq_add_one (below.length_eq.trans fits)
      obtain ⟨found, next⟩ := drop_eq_cons behind
      obtain ⟨there, goalEq⟩ := drop_eq_cons shape
      have laterFits : later.length = part.length + 1 := Nat.succ.inj fits
      have laterReaches : length = ip + later.length := by
        rw [reaches, laterFits, List.length_cons]
      have nonempty : later ≠ [] := List.ne_nil_of_length_eq_add_one laterFits
      rw [shape] at below
      obtain rfl : entry = known := entry_eq below fun {height} reached => by
        subst reached
        have due := brought (Nat.le_refl ip) there (supported there)
        rwa [Nat.sub_self, List.getElem?_cons_zero, Option.some.injEq] at due
      have reached : ∀ {height}, entry = some height → instruction.pops ≤ height ∧
          Recorded goal instruction (height - instruction.pops + instruction.pushes) := by
        rintro height rfl
        exact ⟨consistent.pops found there, goalEq ▸ consistent.recorded found there⟩
      obtain ⟨left, done, within, extended, leads⟩ :=
        leaveEntry_complete laterReaches nonempty below.tail reached
      rw [through_cons, checkSlot_eq_ok (consistent.slot found), done, shape]
      have rest : through cells length (ip + 1) left part = .ok (table.drop (ip + 1)) := by
        refine induction next ?_ (extended.length_eq.trans laterFits) (goalEq ▸ within) ?_
        · rw [reaches, List.length_cons]
          omega
        · intro target height beyond known due
          rcases due with rfl | ⟨index, other, before, bound, there', known', leads'⟩
          · contradiction
          · rcases Nat.lt_or_eq_of_le (Nat.le_of_lt_succ bound) with earlier | rfl
            · have old := brought (Nat.le_of_succ_le beyond) known
                (.inr ⟨index, other, before, earlier, there', known', leads'⟩)
              have place : target - ip = target - (ip + 1) + 1 := by omega
              rw [place, List.getElem?_cons_succ] at old
              exact extended.kept old
            · rw [found, Option.some.injEq] at there'
              rw [there, Option.some.injEq] at known'
              subst there' known'
              refine leads ?_ rfl leads'
              rw [← goalEq, List.getElem?_drop, Nat.add_sub_cancel' beyond, known]
      change (through cells length (ip + 1) left part).map (entry :: ·) = _
      rw [rest, goalEq]
      rfl

/-- A consistent table without heights that no way brings is the one that is found. -/
theorem heights_eq_ok {code : List Instruction} {cells : Nat} {table : List (Option Nat)}
    (fits : table.length = code.length + 1) (first : table[0]? = some (some 0))
    (consistent : Consistent cells code table) (supported : Supported code table) :
    Instruction.heights code cells = .ok table := by
  have start : Extends (some 0 :: List.replicate code.length none) table := by
    refine ⟨by rw [fits, List.length_cons, List.length_replicate], fun {index height} known => ?_⟩
    cases index with
    | zero =>
        rw [List.getElem?_cons_zero, Option.some.injEq] at known
        rw [first, known]
    | succ index =>
        rw [List.getElem?_cons_succ] at known
        exact absurd (List.eq_of_mem_replicate (List.mem_of_getElem? known)) (by simp)
  refine through_complete consistent supported rfl (Nat.zero_add _).symm
    (by rw [List.length_cons, List.length_replicate]) start fun {target height} _ known due => ?_
  rcases due with rfl | ⟨index, _, _, never, _⟩
  · rw [first] at known
    exact known
  · exact absurd never (Nat.not_lt_zero index)

end StackScript.Heights
