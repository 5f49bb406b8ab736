import StackScript.Compilation
import StackScript.Proofs.Phrase.Ending

/-!
# Scripts without an end

Whether the tokens of a script go on with its end, and with anything behind that, makes no
difference to the symbols, the syntax tree and the diagnostics.
-/

namespace StackScript

/-! ## Drafting -/

theorem Draft.giveUp_ended (draft : Draft) (error : GrammarError) (line : Nat) :
    draft.giveUp error.ended line = draft.giveUp error line := by
  rw [giveUp, GrammarError.ended, error.fault.message_ended, giveUp]

namespace Statement

mutual

/-- What a fault has found at the end makes no difference to what is drafted. -/
theorem draft_ended (statement : Statement) (draft : Draft) :
    statement.ended.draft draft = statement.draft draft := by
  cases statement with
  | empty line | evaluate value line | print value line | input target line => rfl
  | ifThen condition body line => simp only [ended, Statement.draft, body.draft_ended]
  | ifElse condition body otherwise line =>
      simp only [ended, Statement.draft, body.draft_ended, otherwise.draft_ended]
  | block statements line => simp only [ended, Statement.draft, draftAll_allEnded statements]
  | broken fragments error line => simp only [ended, Statement.draft, Draft.giveUp_ended]
  | unclosed statements error line =>
      simp only [ended, Statement.draft, draftAll_allEnded statements, Draft.giveUp_ended]

theorem draftAll_allEnded (statements : List Statement) (draft : Draft) :
    draftAll draft (allEnded statements) = draftAll draft statements := by
  cases statements with
  | nil => rfl
  | cons first rest =>
      simp only [allEnded, draftAll, first.draft_ended, draftAll_allEnded rest]

end

end Statement

/-! ## Scripts -/

namespace Compilation

/-- The end of a script at its last token, or at its beginning if it has none, reads like no end,
and what stands behind it is not read. -/
theorem ofTokens_append_end (tokens rest : List PlacedToken) :
    let finish : PlacedToken := ⟨.endOfFile, (tokens.getLast?.map (·.position)).getD .start⟩
    ofTokens (tokens ++ [finish]) = ofTokens tokens ∧
      ofTokens (tokens ++ finish :: rest) = ofTokens tokens := by
  intro finish
  have same (rest : List PlacedToken) : ofTokens (tokens ++ finish :: rest) = ofTokens tokens := by
    have line : finish.position.line = (tokens.getLast?.map (·.position.line)).getD 1 := by
      simp only [finish]
      cases tokens.getLast? <;> rfl
    have before : (Cursor.start tokens).Before (finish :: rest) := ⟨rfl, congrArg some line⟩
    have draft : (Script.ofTokens (tokens ++ finish :: rest)).draft =
        (Script.ofTokens tokens).draft := by
      simp only [Script.ofTokens_append before, Script.draft, Statement.draftAll_allEnded]
    rw [ofTokens, draft, ofTokens]
  exact ⟨same [], same rest⟩

end Compilation

end StackScript
