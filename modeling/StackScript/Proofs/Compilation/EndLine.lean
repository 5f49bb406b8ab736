import Mathlib.Data.List.DropRight
import StackScript.Compilation
import StackScript.Proofs.Phrase.EndLine
import StackScript.Proofs.Token.Partition

/-!
# Scripts that end too early

A script ends behind all of its text, on the line that its line feeds lead to. A fault that has
found the end is reported there, and not on the line of the last token that was read: the two differ
by the line ends behind that token.
-/

namespace StackScript

/-! ## The layout behind a script -/

/-- Whether a token is none that is read: a separator or the end of the script. -/
def Token.isLayout (token : Token) : Bool :=
  token.isSeparator || token = .endOfFile

/-- The line of the last token that is read, and the first line if there is none. -/
def lastLine (tokens : List PlacedToken) : Nat :=
  ((tokens.filter (!·.token.isLayout)).getLast?.map (·.position.line)).getD 1

/-- The number of line ends behind the last token that is read. -/
def trailingLineEnds (tokens : List PlacedToken) : Nat :=
  (tokens.rtakeWhile (·.token.isLayout)).countP (·.token = .newline)

theorem endLine_append_endOfFile {front : List PlacedToken} {position : Position} (line : Nat)
    (inside : ∀ placed ∈ front, placed.token ≠ .endOfFile) :
    endLine line (front ++ [⟨.endOfFile, position⟩]) = position.line := by
  induction front generalizing line with
  | nil => rfl
  | cons placed front induction =>
      rw [List.forall_mem_cons] at inside
      rw [List.cons_append, endLine, if_neg inside.1, induction _ inside.2]

variable {text : String} {tokens : List PlacedToken}

/-- A script ends on the line that its line feeds lead to. -/
theorem endLine_significant (read : Token.ofScript text = .ok tokens) :
    endLine 1 (Token.significant tokens) = 1 + text.toList.count '\n' := by
  obtain ⟨pieces, cut, same⟩ := Cut.of_tokensFrom read
  obtain ⟨front, last, rfl, inside⟩ := cut.eq_append
  have significant : Token.significant (front ++ [⟨.endOfFile, last⟩]) =
      Token.significant front ++ [⟨.endOfFile, last⟩] := by
    rw [Token.significant, List.filter_append]
    rfl
  have others : ∀ placed ∈ Token.significant front, placed.token ≠ .endOfFile :=
    fun placed member => inside placed (List.mem_of_mem_filter member)
  have line := cut.line_eq_add_countP rfl
  rw [significant, endLine_append_endOfFile 1 others, line, ← same, ← cut.count_newline,
    List.countP_append]
  rfl

/-- Behind the last token that is read, there are the line ends of the layout. -/
theorem lastLine_add_trailingLineEnds (read : Token.ofScript text = .ok tokens) :
    lastLine tokens + trailingLineEnds tokens = 1 + text.toList.count '\n' := by
  obtain ⟨pieces, cut, same⟩ := Cut.of_tokensFrom read
  let layout (placed : PlacedToken) : Bool := placed.token.isLayout
  have split : tokens.rdropWhile layout ++ tokens.rtakeWhile layout = tokens :=
    List.rdropWhile_append_rtakeWhile
  have behind : (tokens.rtakeWhile layout).filter (!layout ·) = [] :=
    List.filter_eq_nil_iff.2 fun placed member => by simp [List.mem_rtakeWhile_imp member]
  have count : (tokens.rdropWhile layout).countP (·.token = .newline) + trailingLineEnds tokens =
      text.toList.count '\n' := by
    rw [← same, ← cut.count_newline, trailingLineEnds, ← List.countP_append, split]
  have last : lastLine tokens =
      (((tokens.rdropWhile layout).filter (!layout ·)).getLast?.map (·.position.line)).getD 1 := by
    rw [← List.append_nil ((tokens.rdropWhile layout).filter _), ← behind, ← List.filter_append,
      split, lastLine]
  by_cases none : tokens.rdropWhile layout = []
  · rw [none] at last count
    rw [last, ← count]
    simp
  · obtain ⟨front, placed, shape⟩ := (List.eq_nil_or_concat' _).resolve_left none
    have read : layout placed = false := by
      have other := List.rdropWhile_last_not layout tokens none
      simpa [shape] using other
    have line := cut.line_eq_add_countP
      (split.symm.trans (by rw [shape, List.append_assoc, List.singleton_append]))
    have inner : placed.token ≠ .newline := by
      intro newline
      simp [layout, newline, Token.isLayout, Token.isSeparator] at read
    rw [shape, List.filter_append, List.filter_singleton, read] at last
    rw [shape, List.countP_append, List.countP_singleton] at count
    have here : lastLine tokens = 1 + front.countP (·.token = .newline) := by
      simpa [line, Position.start] using last
    rw [here, ← count]
    simp [inner, Nat.add_assoc]

namespace Compilation

/-- A fault of finding the end of a script is reported on the line that all line feeds of the script
lead to, which is as many lines behind the last token that is read as there are line ends. -/
theorem lines_at_end (read : Token.ofScript text = .ok tokens) :
    ∀ diagnostic ∈ (ofTokens (Token.significant tokens)).draft.diagnostics.toList,
      diagnostic.FindsEnd →
        diagnostic.line = 1 + text.toList.count '\n' ∧
          diagnostic.line = lastLine tokens + trailingLineEnds tokens := by
  intro diagnostic member ended
  have line := Script.endOn_draft_ofTokens (Token.significant tokens) diagnostic member ended
  rw [endLine_significant read] at line
  exact ⟨line, line.trans (lastLine_add_trailingLineEnds read).symm⟩

/-- A statement that breaks off, and a line feed behind it. -/
def cutOff : String :=
  "print\n"

/-- Its tokens and their places. -/
def tokensOfCutOff : List PlacedToken :=
  [⟨.printKeyword, ⟨1, 1⟩⟩, ⟨.newline, ⟨1, 6⟩⟩, ⟨.endOfFile, ⟨2, 1⟩⟩]

theorem lines_at_end_cutOff :
    Token.ofScript cutOff = .ok tokensOfCutOff ∧
      ∃ diagnostic ∈ (ofTokens (Token.significant tokensOfCutOff)).draft.diagnostics.toList,
        diagnostic.FindsEnd ∧ diagnostic.line = 1 + cutOff.toList.count '\n' ∧
          diagnostic.line = lastLine tokensOfCutOff + trailingLineEnds tokensOfCutOff := by
  have read : Token.ofScript cutOff = .ok tokensOfCutOff := by decide +kernel
  have member : ⟨2, .malformed "expected an expression, found end of file"⟩ ∈
      (ofTokens (Token.significant tokensOfCutOff)).draft.diagnostics.toList := by decide +kernel
  have ended : Diagnostic.FindsEnd ⟨2, .malformed "expected an expression, found end of file"⟩ :=
    ⟨.expression, rfl⟩
  exact ⟨read, _, member, ended, lines_at_end read _ member ended⟩

/-- A fault of finding the end is not always reported on the line of the last token. -/
theorem not_line_of_last_token :
    ¬∀ (text : String) (tokens : List PlacedToken), Token.ofScript text = .ok tokens →
      ∀ diagnostic ∈ (ofTokens (Token.significant tokens)).draft.diagnostics.toList,
        diagnostic.FindsEnd → diagnostic.line = lastLine tokens := by
  intro holds
  have line := holds cutOff tokensOfCutOff (by decide +kernel)
    ⟨2, .malformed "expected an expression, found end of file"⟩ (by decide +kernel)
    ⟨.expression, rfl⟩
  exact absurd line (by decide +kernel)

end Compilation

end StackScript
