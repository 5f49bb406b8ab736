import StackScript.Proofs.Phrase.Descent

/-!
# Recovery from faults

What happens while a script is read, and what it takes for each of these events to bring the reading
closer to its end. A recovery goes on token by token, skips nothing that ends a script or a block,
and stops.
-/

namespace StackScript

/-! ## Events -/

namespace Script

/-- A loop of reading. -/
inductive Loop where
  | script
  | block
  | recovery
deriving DecidableEq, Repr

/-- Where a statement is called for. -/
inductive Site where
  | script
  | block
  /-- What the `if` at a place runs. -/
  | branch (opening : Cursor)
deriving DecidableEq, Repr

/-- What happens on the way from one place to another one. -/
inductive Event where
  /-- A call for a statement. -/
  | statement (site : Site) (start stop : Cursor)
  /-- A recovery from a fault. -/
  | recovery (start stop : Cursor)
  /-- A turn of a loop, and whether the loop may take another one. -/
  | turn (loop : Loop) (start stop : Cursor) (goesOn : Bool)
deriving DecidableEq, Repr

end Script

open Script (Event)

namespace Cursor

/-- No statement begins here: there is no token, or the script ends, or a brace closes. -/
def IsClosing (cursor : Cursor) : Prop :=
  cursor.peek? = none ∨ cursor.peek? = some .endOfFile ∨ cursor.peek? = some .rightBrace

end Cursor

/-- Calls for a statement and turns read a token, unless nothing begins where an `if` that has been
read calls for a statement, or the loop ends. What is skipped in a recovery ends nothing. -/
def Script.Event.Advances : Event → Prop
  | statement site start stop =>
      (Statement.read start).2 = stop ∧ (¬start.IsClosing → start.Precedes stop) ∧
        (start.IsClosing → ∃ opening, site = .branch opening ∧
          opening.peek? = some .ifKeyword ∧ opening.Precedes start)
  | recovery start stop =>
      start.recover = stop ∧ ∃ skipped, start.rest = skipped ++ stop.rest ∧
        ∀ placed ∈ skipped, placed.token ≠ .endOfFile ∧ placed.token ≠ .rightBrace
  | turn _ start stop goesOn => goesOn = true → start.Precedes stop

namespace Cursor

variable {cursor middle next : Cursor}

theorem isClosing_iff :
    cursor.IsClosing ↔ cursor.atEnd = true ∨ cursor.peek? = some .rightBrace := by
  unfold IsClosing atEnd
  cases cursor.peek? with
  | none => simp
  | some token => cases token <;> simp

theorem isClosing_congr (same : next.rest = cursor.rest) :
    next.IsClosing ↔ cursor.IsClosing := by
  unfold IsClosing peek?
  rw [same]

/-- Reading goes on from one place to another one, by a token unless nothing begins there. -/
structure GoesOn (cursor next : Cursor) : Prop where
  leadsTo : cursor.LeadsTo next
  precedes : ¬cursor.IsClosing → cursor.Precedes next

namespace GoesOn

/-- The first token of what is read is enough. -/
theorem of_advance {token : Token} (here : cursor.peek? = some token)
    (leads : cursor.advance.LeadsTo next) : cursor.GoesOn next where
  leadsTo := cursor.leadsTo_advance.trans leads
  precedes _ := (precedes_advance here).trans_leadsTo leads

theorem of_leadsTo (leads : cursor.LeadsTo middle) (goesOn : middle.GoesOn next) :
    cursor.GoesOn next where
  leadsTo := leads.trans goesOn.leadsTo
  precedes begins := by
    rcases leads.eq_or_precedes with same | before
    · exact leads.trans_precedes (goesOn.precedes (mt (isClosing_congr same).1 begins))
    · exact before.trans_leadsTo goesOn.leadsTo

end GoesOn

/-! ## Recovery -/

/-- The recovery from a fault. -/
inductive RecoversTo : Cursor → Cursor → List Event → Prop
  | ended {cursor : Cursor} (nothing : cursor.peek? = none) : RecoversTo cursor cursor []
  | closing {cursor : Cursor} {token : Token} (here : cursor.peek? = some token)
      (closes : token = .endOfFile ∨ token = .rightBrace) :
      RecoversTo cursor cursor [.turn .recovery cursor cursor false]
  | semicolon {cursor : Cursor} (here : cursor.peek? = some .semicolon) :
      RecoversTo cursor cursor.advance [.turn .recovery cursor cursor.advance false]
  | other {cursor next : Cursor} {token : Token} {events : List Event}
      (here : cursor.peek? = some token)
      (opens : token ∉ [Token.endOfFile, .rightBrace, .semicolon])
      (others : RecoversTo cursor.advance next events) :
      RecoversTo cursor next (.turn .recovery cursor cursor.advance true :: events)

theorem recover_eq (cursor : Cursor) :
    cursor.recover =
      match cursor.peek? with
      | none | some .endOfFile | some .rightBrace => cursor
      | some .semicolon => cursor.advance
      | _ => cursor.advance.recover := by
  obtain ⟨rest, lastLine, nodeLine⟩ := cursor
  cases rest with
  | nil => rfl
  | cons placed rest =>
      obtain ⟨token, position⟩ := placed
      cases token <;> rfl

theorem exists_recoversTo (cursor : Cursor) : ∃ next events, cursor.RecoversTo next events := by
  induction length : cursor.rest.length using Nat.strong_induction_on generalizing cursor with
  | _ length induction =>
      cases here : cursor.peek? with
      | none => exact ⟨_, _, .ended here⟩
      | some token =>
          by_cases ends : token = .endOfFile ∨ token = .rightBrace
          · exact ⟨_, _, .closing here ends⟩
          by_cases semicolon : token = .semicolon
          · exact ⟨_, _, .semicolon (semicolon ▸ here)⟩
          have fewer := (precedes_advance here).length_lt
          obtain ⟨next, events, others⟩ := induction _ (length ▸ fewer) cursor.advance rfl
          exact ⟨next, _, .other here (by simpa [← or_assoc, ends] using semicolon) others⟩

namespace RecoversTo

variable {events : List Event}

theorem eq_recover (recovers : cursor.RecoversTo next events) : next = cursor.recover := by
  induction recovers with
  | ended nothing => rw [recover_eq, nothing]
  | closing here closes =>
      rw [recover_eq, here]
      rcases closes with rfl | rfl <;> rfl
  | semicolon here => rw [recover_eq, here]
  | @other cursor next token events here opens others induction =>
      rw [recover_eq, here, induction]
      cases token <;> first | rfl | simp at opens

/-- Neither the end of the script nor a closing brace is skipped. -/
theorem skips (recovers : cursor.RecoversTo next events) :
    ∃ skipped, cursor.rest = skipped ++ next.rest ∧
      ∀ placed ∈ skipped, placed.token ≠ .endOfFile ∧ placed.token ≠ .rightBrace := by
  induction recovers with
  | ended nothing => exact ⟨[], rfl, List.forall_mem_nil _⟩
  | closing here closes => exact ⟨[], rfl, List.forall_mem_nil _⟩
  | semicolon here =>
      obtain ⟨placed, same, whole⟩ := rest_eq_cons here
      exact ⟨[placed], whole, List.forall_mem_singleton.2 (by simp [same])⟩
  | other here opens others induction =>
      obtain ⟨placed, rfl, whole⟩ := rest_eq_cons here
      obtain ⟨skipped, shape, within⟩ := induction
      simp only [List.mem_cons, List.not_mem_nil, or_false, not_or] at opens
      exact ⟨placed :: skipped, by rw [whole, shape, List.cons_append],
        List.forall_mem_cons.2 ⟨⟨opens.1, opens.2.1⟩, within⟩⟩

/-- A token is skipped, unless nothing begins. -/
theorem goesOn (recovers : cursor.RecoversTo next events) : cursor.GoesOn next := by
  have leads {cursor next : Cursor} {events : List Event}
      (recovers : cursor.RecoversTo next events) : cursor.LeadsTo next := by
    obtain ⟨skipped, whole, -⟩ := recovers.skips
    exact ⟨skipped, whole.symm⟩
  cases recovers with
  | ended nothing => exact ⟨.refl cursor, fun begins => absurd (.inl nothing) begins⟩
  | closing here closes =>
      refine ⟨.refl cursor, fun begins => ?_⟩
      rcases closes with rfl | rfl
      · exact absurd (.inr (.inl here)) begins
      · exact absurd (.inr (.inr here)) begins
  | semicolon here => exact .of_advance here (.refl _)
  | other here opens others => exact .of_advance here (leads others)

theorem advances (recovers : cursor.RecoversTo next events) : ∀ event ∈ events, event.Advances := by
  induction recovers with
  | ended nothing => exact List.forall_mem_nil _
  | closing here closes => simp [Event.Advances]
  | semicolon here => simp [Event.Advances]
  | other here opens others induction =>
      exact List.forall_mem_cons.2 ⟨fun _ => precedes_advance here, induction⟩

/-- The events of a recovery and its turns. -/
theorem advances_cons (recovers : cursor.RecoversTo next events) :
    ∀ event ∈ Event.recovery cursor next :: events, event.Advances :=
  List.forall_mem_cons.2 ⟨⟨recovers.eq_recover.symm, recovers.skips⟩, recovers.advances⟩

end RecoversTo

end Cursor

end StackScript
