import StackScript.Proofs.Result
import StackScript.Symbol
import StackScript.Token.Lexer

/-!
# Names

The name of a variable begins with a letter or an underscore, that of a string constant with a
double quote and that of an integer constant with a minus sign or a digit. So symbols of one name
are of one kind.
-/

namespace StackScript

namespace Lexer

/-- No character in front of the capital letters begins a name. -/
theorem le_toNat_of_beginsName {c : Char} (begins : beginsName c = true) : 0x41 ≤ c.toNat := by
  have letters : ∀ range ∈ Text.letterRanges, 0x41 ≤ range.1 := by decide +kernel
  simp only [beginsName, Bool.or_eq_true, decide_eq_true_eq] at begins
  rcases begins with letter | rfl
  · obtain ⟨range, member, low, -⟩ := Text.Ranges.contains_iff.1 letter
    exact Nat.le_trans (letters range member) low
  · decide

end Lexer

/-- A decimal number begins with a minus sign or a digit. -/
theorem Text.head?_decimal (n : Int) :
    ∃ c, (Text.decimal n).toList.head? = some c ∧
      (c.toNat = 0x2D ∨ 0x30 ≤ c.toNat ∧ c.toNat ≤ 0x39) := by
  unfold decimal
  split
  · exact ⟨'-', by rw [String.toList_ofList]; rfl, .inl rfl⟩
  · have nonempty : digits n.natAbs ≠ [] := Nat.toDigits_ne_nil
    refine ⟨(digits n.natAbs).head nonempty, ?_, .inr ?_⟩
    · rw [String.toList_ofList, List.head?_eq_some_head]
    · have digit := isDigit_of_mem_digits (List.head_mem nonempty)
      simp only [Char.isDigit, Bool.and_eq_true, decide_eq_true_eq, ge_iff_le,
        UInt32.le_iff_toNat_le] at digit
      exact digit

/-- A symbol of a variable whose name begins as names do, or of a constant. -/
inductive Symbol.Lawful : Symbol → Prop
  | identifier {name : String} {c : Char} (line : Nat) (first : name.toList.head? = some c)
      (begins : Lexer.beginsName c = true) : Lawful (.identifier name line)
  | string (text : String) (line : Nat) : Lawful (.string text line)
  | integer (value : Int64) (line : Nat) : Lawful (.integer value line)

namespace Content

/-- The code points that names of symbols begin with, by what the symbols stand for. -/
def Begins (n : Nat) : Content → Prop
  | identifier => 0x41 ≤ n
  | string _ => n = 0x22
  | integer _ => n = 0x2D ∨ 0x30 ≤ n ∧ n ≤ 0x39

/-- Two symbols stand for variables, for strings or for integers. -/
def Alike : Content → Content → Prop
  | identifier, identifier | string _, string _ | integer _, integer _ => True
  | _, _ => False

theorem alike_of_begins {left right : Content} {n : Nat} (first : left.Begins n)
    (second : right.Begins n) : left.Alike right := by
  cases left <;> cases right <;> simp only [Begins, Alike] at first second ⊢ <;> omega

end Content

/-- A lawful name begins as what its symbol stands for asks. -/
theorem Symbol.Lawful.begins {symbol : Symbol} (lawful : symbol.Lawful) :
    ∃ c, symbol.name.toList.head? = some c ∧ symbol.content.Begins c.toNat := by
  cases lawful with
  | identifier line first begins => exact ⟨_, first, Lexer.le_toNat_of_beginsName begins⟩
  | string text line =>
      refine ⟨'"', ?_, rfl⟩
      simp only [Symbol.string, Text.quoted, String.toList_ofList]
      rfl
  | integer value line => exact Text.head?_decimal value.toInt

/-- Lawful symbols of one name are of one kind. -/
theorem Symbol.Lawful.alike {left right : Symbol} (first : left.Lawful) (second : right.Lawful)
    (same : left.name = right.name) : left.content.Alike right.content := by
  obtain ⟨c, head, begins⟩ := first.begins
  obtain ⟨d, head', begins'⟩ := second.begins
  rw [same, head', Option.some.injEq] at head
  exact Content.alike_of_begins begins (head ▸ begins')

/-- The symbol that a token mentions, on a line. -/
def Token.mention? (line : Nat) : Token → Option Symbol
  | identifier name => some (.identifier name line)
  | string text => some (.string text line)
  | integer value => some (.integer value line)
  | _ => none

namespace Lexer

/-- A word that is no keyword names the variable of that name. -/
theorem name_of_ofWord {word name : String} (named : Token.ofWord word = .identifier name) :
    name = word := by
  unfold Token.ofWord at named
  split at named <;> try contradiction
  split at named <;> try contradiction
  split at named <;> try contradiction
  split at named <;> try contradiction
  exact (Token.identifier.inj named).symm

/-- No sign is the name of a variable. -/
theorem ne_identifier_of_sign? {c : Char} {token : Token} (sign : sign? c = some token)
    (name : String) : token ≠ .identifier name := by
  unfold sign? at sign
  split at sign <;> cases sign <;> intro same <;> cases same

/-- A number that is read is an integer. -/
theorem readNumber_token {position : Position} {negative : Bool} {source : List Char}
    {reading : Reading} (read : readNumber position negative source = .ok reading) :
    ∃ value, reading.token = .integer value := by
  simp only [readNumber] at read
  split at read <;> simp only [reduceCtorEq, Except.ok.injEq] at read
  exact ⟨_, by rw [← read]⟩

/-- The name of a variable that is read begins with the character that it is read at. -/
theorem head?_of_readToken {position : Position} {c : Char} {rest : List Char} {reading : Reading}
    (read : readToken position c rest = .ok reading) {name : String}
    (named : reading.token = .identifier name) :
    name.toList.head? = some c ∧ beginsName c = true := by
  unfold readToken at read
  split at read
  next =>
    cases read
    contradiction
  split at read
  next =>
    obtain ⟨parts, -, rfl⟩ := Result.map_eq_ok_iff.1 read
    contradiction
  split at read
  next =>
    obtain ⟨value, integer⟩ := readNumber_token read
    rw [integer] at named
    contradiction
  split at read
  next =>
    obtain ⟨value, integer⟩ := readNumber_token read
    rw [integer] at named
    contradiction
  split at read
  next begins =>
    cases read
    have word := name_of_ofWord named
    rw [word, String.toList_ofList, List.takeWhile_cons_of_pos (continuesName_of_beginsName begins)]
    exact ⟨rfl, begins⟩
  split at read
  next =>
    cases read
    contradiction
  split at read
  next token sign =>
    cases read
    exact absurd named (ne_identifier_of_sign? sign name)
  next => contradiction

/-- A token that is read mentions a lawful symbol, if any. -/
theorem lawful_of_readToken {position : Position} {c : Char} {rest : List Char} {reading : Reading}
    (read : readToken position c rest = .ok reading) {line : Nat} {symbol : Symbol}
    (mentions : reading.token.mention? line = some symbol) : symbol.Lawful := by
  cases token : reading.token with
  | identifier name =>
      rw [token, Token.mention?, Option.some.injEq] at mentions
      obtain ⟨first, begins⟩ := head?_of_readToken read token
      exact mentions ▸ .identifier line first begins
  | string text =>
      rw [token, Token.mention?, Option.some.injEq] at mentions
      exact mentions ▸ .string text line
  | integer value =>
      rw [token, Token.mention?, Option.some.injEq] at mentions
      exact mentions ▸ .integer value line
  | _ =>
      rw [token] at mentions
      contradiction

/-- The tokens of a text mention lawful symbols only. -/
theorem lawful_of_tokensFrom {position : Position} {source : List Char} {tokens : List PlacedToken}
    (read : tokensFrom position source = .ok tokens) {placed : PlacedToken}
    (member : placed ∈ tokens) {line : Nat} {symbol : Symbol}
    (mentions : placed.token.mention? line = some symbol) : symbol.Lawful := by
  fun_induction tokensFrom position source generalizing tokens with
  | case1 =>
      cases read
      rw [List.mem_singleton] at member
      rw [member] at mentions
      contradiction
  | case2 _ _ _ _ induction => exact induction read member
  | case3 => contradiction
  | case4 _ _ _ _ _ token induction =>
      obtain ⟨others, further, rfl⟩ := Result.map_eq_ok_iff.1 read
      rcases List.mem_cons.1 member with rfl | later
      · exact lawful_of_readToken token mentions
      · exact induction further later

end Lexer

/-- The significant tokens of a script mention lawful symbols only. -/
theorem Token.lawful_significant {text : String} {tokens : List PlacedToken}
    (scanned : ofScript text = .ok tokens) :
    ∀ placed ∈ significant tokens, ∀ line symbol,
      placed.token.mention? line = some symbol → symbol.Lawful :=
  fun _ member _ _ mentions =>
    Lexer.lawful_of_tokensFrom scanned (List.mem_filter.1 member).1 mentions

end StackScript
