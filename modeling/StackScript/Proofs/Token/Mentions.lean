import StackScript.Proofs.Text.Quoted
import StackScript.Proofs.Token.Names

/-!
# Mentions

Identifiers and constants among the tokens of a script mention symbols. Symbols of one name are
mentioned by one token, whatever the lines that they are entered for: that of the token behind the
mention, or of the one behind the sign if the mention is assigned to.
-/

namespace StackScript

/-- The token that mentions a symbol. -/
def Symbol.token (symbol : Symbol) : Token :=
  match symbol.content with
  | .identifier => .identifier symbol.name
  | .string text => .string text
  | .integer value => .integer value

/-- Whether a token mentions a symbol. -/
def Token.isMention : Token → Bool
  | identifier _ | string _ | integer _ => true
  | _ => false

theorem Token.isMention_iff {token : Token} {line : Nat} :
    token.isMention = true ↔ ∃ symbol, token.mention? line = some symbol := by
  cases token <;> simp [isMention, mention?]

theorem Symbol.token_of_mention? {token : Token} {line : Nat} {symbol : Symbol}
    (mentions : token.mention? line = some symbol) : symbol.token = token := by
  cases token <;> cases mentions <;> rfl

theorem Token.line_of_mention? {token : Token} {line : Nat} {symbol : Symbol}
    (mentions : token.mention? line = some symbol) : symbol.line = line := by
  cases token <;> cases mentions <;> rfl

/-- Lawful symbols have one name exactly if one token mentions them. -/
theorem Symbol.Lawful.token_eq_iff {left right : Symbol} (first : left.Lawful)
    (second : right.Lawful) : left.token = right.token ↔ left.name = right.name := by
  constructor
  · intro same
    cases first <;> cases second <;> cases same <;> rfl
  · intro same
    have alike := first.alike second same
    cases first with
    | identifier =>
        cases second with
        | identifier => exact congrArg Token.identifier same
        | string | integer => exact absurd alike id
    | string =>
        cases second with
        | string => exact congrArg Token.string (Text.quoted_injective same)
        | identifier | integer => exact absurd alike id
    | integer =>
        cases second with
        | integer =>
            exact congrArg Token.integer (Int64.toInt_inj.1 (Text.decimal_injective same))
        | identifier | string => exact absurd alike id

/-! ## Lines -/

namespace PlacedToken

/-- The line of the token behind a token, or its own if it is the last one. -/
def lineBehind (placed : PlacedToken) (rest : List PlacedToken) : Nat :=
  (rest.head?.map (·.position.line)).getD placed.position.line

/-- The line that a mention is entered for. -/
def entryLine (placed : PlacedToken) : List PlacedToken → Nat
  | [] => placed.position.line
  | next :: rest => if next.token = .assign then next.lineBehind rest else next.position.line

theorem entryLine_of_head?_ne (placed : PlacedToken) {rest : List PlacedToken}
    (other : rest.head?.map PlacedToken.token ≠ some .assign) :
    placed.entryLine rest = placed.lineBehind rest := by
  cases rest with
  | nil => rfl
  | cons next rest => exact if_neg fun same => other (congrArg some same)

end PlacedToken

namespace Token

/-- The symbols that tokens mention, in order, each with the line that it would be entered for. -/
def mentions : List PlacedToken → List Symbol
  | [] => []
  | placed :: rest => (placed.token.mention? (placed.entryLine rest)).toList ++ mentions rest

variable {placed : PlacedToken} {rest : List PlacedToken}

theorem mentions_cons_of_mention? {line : Nat} {symbol : Symbol}
    (found : placed.token.mention? line = some symbol) (here : placed.entryLine rest = line) :
    mentions (placed :: rest) = symbol :: mentions rest := by
  rw [mentions, here, found]
  rfl

theorem mentions_cons_of_not_isMention (other : placed.token.isMention = false) :
    mentions (placed :: rest) = mentions rest := by
  have none : placed.token.mention? (placed.entryLine rest) = none := by
    rw [Option.eq_none_iff_forall_ne_some]
    intro symbol found
    rw [isMention_iff.2 ⟨symbol, found⟩] at other
    cases other
  rw [mentions, none]
  rfl

/-- The mentions among tokens are those tokens that mention something. -/
theorem map_token_mentions (tokens : List PlacedToken) :
    (mentions tokens).map Symbol.token = (tokens.map PlacedToken.token).filter isMention := by
  induction tokens with
  | nil => rfl
  | cons placed rest induction =>
      by_cases mentioned : placed.token.isMention = true
      · obtain ⟨symbol, found⟩ := isMention_iff.1 mentioned
        rw [mentions_cons_of_mention? found rfl, List.map_cons, List.map_cons,
          List.filter_cons_of_pos mentioned, induction, Symbol.token_of_mention? found]
      · rw [mentions_cons_of_not_isMention (Bool.not_eq_true _ ▸ mentioned), List.map_cons,
          List.filter_cons_of_neg mentioned, induction]

/-- A mention stands at a place between the tokens of the mentions around it. -/
theorem exists_of_mentions_eq_append {tokens : List PlacedToken} {before after : List Symbol}
    {symbol : Symbol} (shape : mentions tokens = before ++ symbol :: after) :
    ∃ front placed rest, tokens = front ++ placed :: rest ∧
      placed.token.mention? (placed.entryLine rest) = some symbol ∧ mentions rest = after ∧
      (front.map PlacedToken.token).filter isMention = before.map Symbol.token := by
  induction tokens generalizing before with
  | nil => exact absurd shape.symm (List.append_ne_nil_of_right_ne_nil _ (List.cons_ne_nil _ _))
  | cons placed rest induction =>
      by_cases mentioned : placed.token.isMention = true
      · obtain ⟨first, found⟩ := isMention_iff.1 mentioned
        rw [mentions_cons_of_mention? found rfl] at shape
        cases before with
        | nil =>
            obtain ⟨rfl, behind⟩ := List.cons.inj shape
            exact ⟨[], placed, rest, rfl, found, behind, rfl⟩
        | cons head before =>
            obtain ⟨rfl, others⟩ := List.cons.inj shape
            obtain ⟨front, here, later, rfl, mention, behind, earlier⟩ := induction others
            refine ⟨placed :: front, here, later, rfl, mention, behind, ?_⟩
            rw [List.map_cons, List.filter_cons_of_pos mentioned, earlier, List.map_cons,
              Symbol.token_of_mention? found]
      · rw [mentions_cons_of_not_isMention (Bool.not_eq_true _ ▸ mentioned)] at shape
        obtain ⟨front, here, later, rfl, mention, behind, earlier⟩ := induction shape
        refine ⟨placed :: front, here, later, rfl, mention, behind, ?_⟩
        rw [List.map_cons, List.filter_cons_of_neg mentioned, earlier]

/-- Tokens that mention lawful symbols, whatever the lines, have lawful mentions. -/
theorem lawful_of_mem_mentions {tokens : List PlacedToken}
    (lawful : ∀ placed ∈ tokens, ∀ line symbol,
      placed.token.mention? line = some symbol → symbol.Lawful) :
    ∀ symbol ∈ mentions tokens, symbol.Lawful := by
  intro symbol member
  obtain ⟨before, after, shape⟩ := List.append_of_mem member
  obtain ⟨front, placed, rest, rfl, found, -⟩ := exists_of_mentions_eq_append shape
  exact lawful placed (List.mem_append_right _ List.mem_cons_self) _ _ found

end Token

end StackScript
