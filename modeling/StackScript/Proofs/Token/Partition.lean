import Mathlib.Data.List.Induction
import StackScript.Proofs.Token.Lexeme

/-!
# Tokens and the text they are read from

The text of a script that is read falls into pieces, one for each token: a gap and behind it the
text of the token. The place of a token is that behind the pieces in front of it and behind its own
gap, so it counts the lines in front of the token and the characters in front of it on its line.
-/

namespace StackScript

/-! ## Places -/

namespace Position

/-- A place comes before another one in the order of reading. -/
def Before (left right : Position) : Prop :=
  left.line < right.line ∨ left.line = right.line ∧ left.column < right.column

theorem Before.trans {first second third : Position} (left : first.Before second)
    (right : second.Before third) : first.Before third := by
  unfold Before at *
  omega

theorem before_next (position : Position) (c : Char) : position.Before (position.next c) := by
  unfold next Before
  split
  · exact .inl (Nat.lt_succ_self _)
  · exact .inr ⟨rfl, Nat.lt_succ_self _⟩

/-- Reading goes on. -/
theorem before_after (position : Position) {text : List Char} (nonempty : text ≠ []) :
    position.Before (position.after text) := by
  induction text generalizing position with
  | nil => exact absurd rfl nonempty
  | cons c rest induction =>
      rw [after_cons]
      cases rest with
      | nil => exact position.before_next c
      | cons d rest =>
          exact (position.before_next c).trans (induction (position.next c) (List.cons_ne_nil _ _))

theorem after_eq_or_before (position : Position) (text : List Char) :
    position.after text = position ∨ position.Before (position.after text) := by
  by_cases empty : text = []
  · exact .inl (by rw [empty, after_nil])
  · exact .inr (position.before_after empty)

/-- The line behind some text counts the line feeds in it. -/
theorem line_after (position : Position) (text : List Char) :
    (position.after text).line = position.line + text.count '\n' := by
  induction text generalizing position with
  | nil => rfl
  | cons c rest induction =>
      rw [after_cons, induction, next]
      by_cases lineFeed : c = '\n'
      · rw [if_pos lineFeed, lineFeed, List.count_cons_self]
        exact Nat.succ_add_eq_add_succ _ _
      · rw [if_neg lineFeed, List.count_cons_of_ne lineFeed]

/-- The column behind some text counts the characters behind the last line feed in it. -/
theorem column_after_start (text : List Char) :
    (start.after text).column = 1 + (text.reverse.takeWhile (· ≠ '\n')).length := by
  induction text using List.reverseRecOn with
  | nil => rfl
  | append_singleton front c induction =>
      rw [after_append, after_cons, after_nil, next, List.reverse_append, List.reverse_singleton,
        List.singleton_append]
      by_cases lineFeed : c = '\n'
      · rw [if_pos lineFeed, List.takeWhile_cons_of_neg (by simpa using lineFeed)]
        rfl
      · rw [if_neg lineFeed, List.takeWhile_cons_of_pos (by simpa using lineFeed),
          List.length_cons]
        exact congrArg Nat.succ induction

end Position

/-! ## Line feeds in lexemes -/

namespace Token

theorem InString.lineFeed_notMem {c : Char} {part : List Char} (written : InString c part) :
    '\n' ∉ part := by
  cases written with
  | raw quote backslash lineFeed => simpa using Ne.symm lineFeed
  | escaped escape =>
      unfold escapeLetter? at escape
      split at escape <;> cases escape <;> decide

/-- A string does not go over the end of a line. -/
theorem lineFeed_notMem_of_inString {characters : List Char} {parts : List (List Char)}
    (written : List.Forall₂ InString characters parts) : '\n' ∉ parts.flatten := by
  induction written with
  | nil => exact List.not_mem_nil
  | cons first others induction =>
      rw [List.flatten_cons, List.mem_append, not_or]
      exact ⟨first.lineFeed_notMem, induction⟩

theorem IsWord.lineFeed_notMem {text : List Char} (word : IsWord text) : '\n' ∉ text := by
  have apart : Lexer.continuesName '\n' = false := by decide +kernel
  obtain ⟨c, rest, rfl, begins, continues⟩ := word
  intro member
  rcases List.mem_cons.1 member with rfl | later
  · rw [Lexer.continuesName_of_beginsName begins] at apart
    contradiction
  · rw [continues _ later] at apart
    contradiction

variable {token : Token} {text : List Char}

/-- The only line feed in the texts of tokens is that of a line end. -/
theorem Lexeme.count_lineFeed (lexeme : token.Lexeme text) :
    text.count '\n' = if token = .newline then 1 else 0 := by
  have digit {digits : List Char} (decimal : ∀ c ∈ digits, c.isDigit = true) : '\n' ∉ digits :=
    fun member => absurd (decimal _ member) (by decide)
  cases lexeme with
  | fixed always =>
      cases token <;> cases always <;> rfl
  | natural nonempty decimal => exact List.count_eq_zero.2 (digit decimal)
  | negative nonempty decimal =>
      rw [List.count_cons_of_ne (by decide)]
      exact List.count_eq_zero.2 (digit decimal)
  | identifier named => exact List.count_eq_zero.2 named.word.lineFeed_notMem
  | string written =>
      rw [List.count_cons_of_ne (by decide), List.count_append,
        List.count_eq_zero.2 (lineFeed_notMem_of_inString written)]
      rfl
  | comment single =>
      rw [List.count_cons_of_ne (by decide), List.count_cons_of_ne (by decide)]
      exact List.count_eq_zero.2 single

/-- Only the end of a script has no text. -/
theorem Lexeme.eq_nil_iff (lexeme : token.Lexeme text) : text = [] ↔ token = .endOfFile := by
  cases lexeme with
  | fixed always => cases token <;> cases always <;> simp
  | natural nonempty => simp [nonempty]
  | identifier named =>
      obtain ⟨c, rest, same, -⟩ := named.word
      simp [same]
  | negative | string | comment => simp

end Token

/-! ## Pieces -/

/-- A piece of a script: the text of a token and what stands between it and the one before. -/
structure Piece where
  /-- What stands in front of the token. -/
  gap : List Char
  /-- The text of the token. -/
  lexeme : List Char

/-- The whole text of a piece. -/
def Piece.text (piece : Piece) : List Char :=
  piece.gap ++ piece.lexeme

/-- From a place on, pieces are read as tokens, of which the last one is the end of the script. -/
inductive Cut : Position → List Piece → List PlacedToken → Prop
  | last {position : Position} {gap : List Char} (blank : ∀ c ∈ gap, Lexer.isGap c = true) :
      Cut position [⟨gap, []⟩] [⟨.endOfFile, position.after gap⟩]
  | cons {position : Position} {piece : Piece} {pieces : List Piece} {token : Token}
      {tokens : List PlacedToken} (blank : ∀ c ∈ piece.gap, Lexer.isGap c = true)
      (lexeme : token.Lexeme piece.lexeme) (real : token ≠ .endOfFile)
      (others : Cut (position.after piece.text) pieces tokens) :
      Cut position (piece :: pieces) (⟨token, position.after piece.gap⟩ :: tokens)

namespace Cut

variable {position : Position} {pieces : List Piece} {tokens : List PlacedToken}

/-- One more character in the first gap. -/
theorem widen {c : Char} (gap : Lexer.isGap c = true)
    (cut : Cut (position.next c) pieces tokens) :
    ∃ pieces', Cut position pieces' tokens ∧
      pieces'.flatMap Piece.text = c :: pieces.flatMap Piece.text := by
  cases cut with
  | @last _ front blank =>
      exact ⟨[⟨c :: front, []⟩], .last (List.forall_mem_cons.2 ⟨gap, blank⟩), rfl⟩
  | @cons _ piece pieces token tokens blank lexeme real others =>
      exact ⟨⟨c :: piece.gap, piece.lexeme⟩ :: pieces,
        .cons (List.forall_mem_cons.2 ⟨gap, blank⟩) lexeme real others, rfl⟩

/-- What is read falls into pieces. -/
theorem of_tokensFrom {source : List Char} (read : Lexer.tokensFrom position source = .ok tokens) :
    ∃ pieces, Cut position pieces tokens ∧ pieces.flatMap Piece.text = source := by
  fun_induction Lexer.tokensFrom position source generalizing tokens with
  | case1 position =>
      cases read
      exact ⟨[⟨[], []⟩], .last (List.forall_mem_nil _), rfl⟩
  | case2 position c rest gap induction =>
      obtain ⟨pieces, cut, same⟩ := induction read
      obtain ⟨wider, cut', same'⟩ := cut.widen gap
      exact ⟨wider, cut', by rw [same', same]⟩
  | case3 => contradiction
  | case4 position c rest gap reading token induction =>
      obtain ⟨others, further, rfl⟩ := Result.map_eq_ok_iff.1 read
      obtain ⟨pieces, cut, same⟩ := induction further
      have lexeme := Lexer.lexeme_of_readToken token
      have nonempty : reading.lexeme ≠ [] := by
        intro empty
        have first := Lexer.readToken_head token
        rw [empty] at first
        contradiction
      have real : reading.token ≠ .endOfFile := fun ended => nonempty (lexeme.eq_nil_iff.2 ended)
      refine ⟨⟨[], reading.lexeme⟩ :: pieces, .cons (List.forall_mem_nil _) lexeme real cut, ?_⟩
      rw [List.flatMap_cons, same]
      exact Lexer.readToken_source token

theorem forall₂ (cut : Cut position pieces tokens) :
    List.Forall₂ (fun piece placed => (∀ c ∈ piece.gap, Lexer.isGap c = true) ∧
      placed.token.Lexeme piece.lexeme) pieces tokens := by
  induction cut with
  | last blank => exact .cons ⟨blank, .fixed rfl⟩ .nil
  | cons blank lexeme real others induction => exact .cons ⟨blank, lexeme⟩ induction

/-- The end of the script comes last, and only there. -/
theorem eq_append (cut : Cut position pieces tokens) :
    ∃ front last, tokens = front ++ [⟨.endOfFile, last⟩] ∧
      ∀ placed ∈ front, placed.token ≠ .endOfFile := by
  induction cut with
  | last blank => exact ⟨[], _, rfl, List.forall_mem_nil _⟩
  | cons blank lexeme real others induction =>
      obtain ⟨front, last, rfl, within⟩ := induction
      exact ⟨_ :: front, last, rfl, List.forall_mem_cons.2 ⟨real, within⟩⟩

/-- A token stands behind the pieces in front of it and behind its own gap. -/
theorem position_eq (cut : Cut position pieces tokens) {index : Nat} {piece : Piece}
    {placed : PlacedToken} (there : pieces[index]? = some piece)
    (here : tokens[index]? = some placed) :
    placed.position = position.after ((pieces.take index).flatMap Piece.text ++ piece.gap) := by
  induction cut generalizing index with
  | last blank =>
      cases index with
      | zero =>
          cases there
          cases here
          rfl
      | succ index => cases there
  | cons blank lexeme real others induction =>
      cases index with
      | zero =>
          cases there
          cases here
          rfl
      | succ index =>
          rw [induction there here, List.take_succ_cons, List.flatMap_cons, List.append_assoc]
          exact (Position.after_append ..).symm

/-- Tokens follow each other in the order of their places, from the place where reading begins. -/
theorem increasing (cut : Cut position pieces tokens) :
    (∀ placed ∈ tokens, placed.position = position ∨ position.Before placed.position) ∧
      tokens.Pairwise fun placed later => placed.position.Before later.position := by
  induction cut with
  | @last position gap blank =>
      refine ⟨fun placed member => ?_, List.pairwise_singleton _ _⟩
      rw [List.mem_singleton.1 member]
      exact position.after_eq_or_before gap
  | @cons position piece pieces token tokens blank lexeme real others induction =>
      have onward : (position.after piece.gap).Before (position.after piece.text) := by
        rw [Piece.text, Position.after_append]
        exact Position.before_after _ fun empty => real (lexeme.eq_nil_iff.1 empty)
      have behind (placed : PlacedToken) (member : placed ∈ tokens) :
          (position.after piece.gap).Before placed.position := by
        rcases induction.1 placed member with same | later
        · rw [same]
          exact onward
        · exact onward.trans later
      refine ⟨fun placed member => ?_, List.pairwise_cons.2 ⟨behind, induction.2⟩⟩
      rcases List.mem_cons.1 member with rfl | later
      · exact position.after_eq_or_before piece.gap
      · right
        rcases position.after_eq_or_before piece.gap with same | before
        · rw [← same]
          exact behind placed later
        · exact before.trans (behind placed later)

/-- A gap has no line feeds. -/
theorem count_gap {gap : List Char} (blank : ∀ c ∈ gap, Lexer.isGap c = true) :
    gap.count '\n' = 0 :=
  List.count_eq_zero.2 fun member => absurd (blank _ member) (by decide)

/-- A piece has a line feed if it is that of a line end. -/
theorem count_piece {piece : Piece} {token : Token}
    (blank : ∀ c ∈ piece.gap, Lexer.isGap c = true) (lexeme : token.Lexeme piece.lexeme) :
    piece.text.count '\n' = if token = .newline then 1 else 0 := by
  rw [Piece.text, List.count_append, count_gap blank, lexeme.count_lineFeed, Nat.zero_add]

/-- There are as many line ends as line feeds. -/
theorem count_newline (cut : Cut position pieces tokens) :
    tokens.countP (·.token = .newline) = (pieces.flatMap Piece.text).count '\n' := by
  induction cut with
  | last blank => simp [Piece.text, count_gap blank]
  | @cons position piece pieces token tokens blank lexeme real others induction =>
      rw [List.countP_cons, induction, List.flatMap_cons, List.count_append,
        count_piece blank lexeme, Nat.add_comm]
      simp only [decide_eq_true_eq]

/-- A token stands on the line that the line ends in front of it lead to. -/
theorem line_eq_add_countP (cut : Cut position pieces tokens) {front back : List PlacedToken}
    {placed : PlacedToken} (split : tokens = front ++ placed :: back) :
    placed.position.line = position.line + front.countP (·.token = .newline) := by
  have behind (position : Position) {gap : List Char} (blank : ∀ c ∈ gap, Lexer.isGap c = true) :
      (position.after gap).line = position.line := by
    rw [Position.line_after, count_gap blank, Nat.add_zero]
  induction cut generalizing front with
  | @last position gap blank =>
      cases front with
      | nil =>
          obtain ⟨rfl, -⟩ := List.cons.inj split
          exact behind position blank
      | cons first front => simp at split
  | @cons position piece pieces token tokens blank lexeme real others induction =>
      cases front with
      | nil =>
          obtain ⟨rfl, -⟩ := List.cons.inj split
          exact behind position blank
      | cons first front =>
          obtain ⟨rfl, rest⟩ := List.cons.inj split
          rw [induction rest, Position.line_after, count_piece blank lexeme, List.countP_cons,
            Nat.add_assoc, Nat.add_comm (front.countP _)]
          simp only [decide_eq_true_eq]

end Cut

/-- The text of a script that is read falls into one piece for each token, a gap of blanks and a
text of the token. The end of the script comes last and is the only token without text; places count
the line feeds in front of a token and the characters behind the last one of them, so they increase
from token to token; and line feeds stand in the texts of line ends only, one in each of them. -/
theorem Token.partition_of_ofScript {script : String} {tokens : List PlacedToken}
    (read : Token.ofScript script = .ok tokens) :
    ∃ pieces : List Piece, pieces.flatMap Piece.text = script.toList ∧
      List.Forall₂ (fun piece placed =>
        (∀ c ∈ piece.gap, c = ' ' ∨ c = '\t' ∨ c = '\r') ∧ placed.token.Lexeme piece.lexeme ∧
          (piece.lexeme = [] ↔ placed.token = .endOfFile) ∧
          ('\n' ∈ piece.lexeme → placed.token = .newline)) pieces tokens ∧
      (∃ front last, tokens = front ++ [⟨.endOfFile, last⟩] ∧
        ∀ placed ∈ front, placed.token ≠ .endOfFile) ∧
      (∀ index piece placed, pieces[index]? = some piece → tokens[index]? = some placed →
        let before := (pieces.take index).flatMap Piece.text ++ piece.gap
        placed.position.line = 1 + before.count '\n' ∧
          placed.position.column = 1 + (before.reverse.takeWhile (· ≠ '\n')).length) ∧
      (tokens.Pairwise fun placed later => placed.position.Before later.position) ∧
      tokens.countP (·.token = .newline) = script.toList.count '\n' := by
  obtain ⟨pieces, cut, same⟩ := Cut.of_tokensFrom read
  refine ⟨pieces, same, ?_, cut.eq_append, ?_, cut.increasing.2, same ▸ cut.count_newline⟩
  · refine cut.forall₂.imp fun piece placed ⟨blank, lexeme⟩ => ?_
    refine ⟨fun c member => ?_, lexeme, lexeme.eq_nil_iff, fun member => ?_⟩
    · simpa [Lexer.isGap, or_assoc] using blank c member
    · by_contra other
      have none := lexeme.count_lineFeed
      rw [if_neg other] at none
      exact List.count_eq_zero.1 none member
  · intro index piece placed there here before
    rw [cut.position_eq there here]
    exact ⟨Position.line_after _ _, Position.column_after_start _⟩

/-- A script with a line feed written in a string and one that ends a line. -/
def twoLines : String :=
  "print \"\\n\"; //x\n  x;"

/-- Its tokens and their places. -/
def tokensOfTwoLines : List PlacedToken :=
  [⟨.printKeyword, ⟨1, 1⟩⟩, ⟨.string "\n", ⟨1, 7⟩⟩, ⟨.semicolon, ⟨1, 11⟩⟩, ⟨.comment "x", ⟨1, 13⟩⟩,
    ⟨.newline, ⟨1, 16⟩⟩, ⟨.identifier "x", ⟨2, 3⟩⟩, ⟨.semicolon, ⟨2, 4⟩⟩, ⟨.endOfFile, ⟨2, 5⟩⟩]

theorem partition_of_ofScript_twoLines :
    Token.ofScript twoLines = .ok tokensOfTwoLines ∧
      ∃ pieces : List Piece, pieces.flatMap Piece.text = twoLines.toList ∧ pieces.length = 8 ∧
        ∀ piece, pieces[5]? = some piece →
          let before := (pieces.take 5).flatMap Piece.text ++ piece.gap
          2 = 1 + before.count '\n' ∧
            3 = 1 + (before.reverse.takeWhile (· ≠ '\n')).length := by
  have read : Token.ofScript twoLines = .ok tokensOfTwoLines := by decide +kernel
  obtain ⟨pieces, same, each, -, places, -⟩ := Token.partition_of_ofScript read
  exact ⟨read, pieces, same, each.length_eq, fun piece there => places 5 piece _ there rfl⟩

end StackScript
