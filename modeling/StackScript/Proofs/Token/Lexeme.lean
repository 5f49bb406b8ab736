import Mathlib.Data.List.Forall2
import Mathlib.Data.List.TakeWhile
import StackScript.Proofs.Token.Names

/-!
# Lexemes

The texts that a token may be written with, token by token and without regard to how they are read.
A token is only ever read from one of its own texts; and from each of its texts it is read if a
space stands behind it, where the text of a comment takes the space in.
-/

namespace StackScript

namespace Token

/-- The text of a token that is always written in the same way. -/
def fixedText? : Token → Option (List Char)
  | ifKeyword => some ['i', 'f']
  | elseKeyword => some ['e', 'l', 's', 'e']
  | printKeyword => some ['p', 'r', 'i', 'n', 't']
  | inputKeyword => some ['i', 'n', 'p', 'u', 't']
  | assign => some ['=']
  | equal => some ['=', '=']
  | plus => some ['+']
  | semicolon => some [';']
  | leftParen => some ['(']
  | rightParen => some [')']
  | leftBrace => some ['{']
  | rightBrace => some ['}']
  | newline => some ['\n']
  | endOfFile => some []
  | integer _ | string _ | identifier _ | comment _ => none

/-- A text that begins and goes on as names do. -/
def IsWord (text : List Char) : Prop :=
  ∃ c rest, text = c :: rest ∧ Lexer.beginsName c = true ∧ ∀ d ∈ rest, Lexer.continuesName d = true

theorem isWord_cons {c : Char} {rest : List Char} (begins : Lexer.beginsName c = true)
    (continues : rest.all Lexer.continuesName = true) : IsWord (c :: rest) :=
  ⟨c, rest, rfl, begins, List.all_eq_true.1 continues⟩

/-- A name that a variable may have: a word that is not reserved. -/
structure IsVariable (name : String) : Prop where
  word : IsWord name.toList
  free : name ∉ ["if", "else", "print", "input"]

/-- The letter that stands behind a backslash for a character. -/
def escapeLetter? : Char → Option Char
  | '"' => some '"'
  | '\\' => some '\\'
  | '\n' => some 'n'
  | '\t' => some 't'
  | '\r' => some 'r'
  | '\x00' => some '0'
  | _ => none

/-- The texts that a character of a string may be written with between the quotes. -/
inductive InString : Char → List Char → Prop
  | raw {c : Char} (quote : c ≠ '"') (backslash : c ≠ '\\') (lineFeed : c ≠ '\n') : InString c [c]
  | escaped {c letter : Char} (escape : escapeLetter? c = some letter) : InString c ['\\', letter]

/-- The texts that a token may be written with. -/
inductive Lexeme : Token → List Char → Prop
  | fixed {token : Token} {text : List Char} (always : token.fixedText? = some text) :
      Lexeme token text
  | natural {digits : List Char} {value : Int64} (nonempty : digits ≠ [])
      (decimal : ∀ c ∈ digits, c.isDigit = true)
      (denotes : value.toInt = Nat.ofDigitChars 10 digits 0) : Lexeme (.integer value) digits
  | negative {digits : List Char} {value : Int64} (nonempty : digits ≠ [])
      (decimal : ∀ c ∈ digits, c.isDigit = true)
      (denotes : value.toInt = -Nat.ofDigitChars 10 digits 0) :
      Lexeme (.integer value) ('-' :: digits)
  | identifier {name : String} (named : IsVariable name) : Lexeme (.identifier name) name.toList
  | string {text : String} {parts : List (List Char)}
      (written : List.Forall₂ InString text.toList parts) :
      Lexeme (.string text) ('"' :: (parts.flatten ++ ['"']))
  | comment {body : List Char} (single : '\n' ∉ body) :
      Lexeme (.comment (String.ofList (Text.trim body))) ('/' :: '/' :: body)

/-- A word that is not reserved is a variable. -/
theorem ofWord_of_isVariable {name : String} (named : IsVariable name) :
    Token.ofWord name = .identifier name := by
  have free := named.free
  simp only [List.mem_cons, List.not_mem_nil, or_false, not_or] at free
  unfold Token.ofWord
  rw [if_neg free.1, if_neg free.2.1, if_neg free.2.2.1, if_neg free.2.2.2]

/-- The two tables of escapes belong together. -/
theorem escaped?_eq_some_iff {c letter : Char} :
    Lexer.escaped? letter = some c ↔ escapeLetter? c = some letter := by
  constructor
  · intro escape
    unfold Lexer.escaped? at escape
    split at escape <;> cases escape <;> rfl
  · intro escape
    unfold escapeLetter? at escape
    split at escape <;> cases escape <;> rfl

end Token

open Token

namespace Lexer

/-! ## What is read is a lexeme -/

/-- Between quotes, each character is read from one of its texts. -/
theorem inString_of_readString {opening position : Position} {source : List Char}
    {characters text rest : List Char}
    (read : readString opening position source = .ok (characters, text, rest)) :
    ∃ parts, List.Forall₂ InString characters parts ∧ text = parts.flatten ++ ['"'] := by
  fun_induction readString opening position source generalizing characters text rest with
  | case1 => contradiction
  | case2 =>
      simp only [Except.ok.injEq, Prod.mk.injEq] at read
      obtain ⟨rfl, rfl, -⟩ := read
      exact ⟨[], .nil, rfl⟩
  | case3 => contradiction
  | case4 => contradiction
  | case5 => contradiction
  | case6 position letter after value escape _ _ induction =>
      obtain ⟨⟨others, otherText, _⟩, next, same⟩ := Result.map_eq_ok_iff.1 read
      simp only [Prod.mk.injEq] at same
      obtain ⟨rfl, rfl, -⟩ := same
      obtain ⟨parts, written, rfl⟩ := induction next
      exact ⟨_, .cons (.escaped (escaped?_eq_some_iff.1 escape)) written, rfl⟩
  | case7 position c after quote lineFeed backslash induction =>
      obtain ⟨⟨others, otherText, _⟩, next, same⟩ := Result.map_eq_ok_iff.1 read
      simp only [Prod.mk.injEq] at same
      obtain ⟨rfl, rfl, -⟩ := same
      obtain ⟨parts, written, rfl⟩ := induction next
      exact ⟨_, .cons (.raw quote backslash lineFeed) written, rfl⟩

/-- The integer of a sign and digits is the one that they denote. -/
theorem toInt_of_integer? {negative : Bool} {digits : List Char} {value : Int64}
    (found : integer? negative digits = some value) :
    value.toInt =
      if negative then -(Nat.ofDigitChars 10 digits 0 : Int) else Nat.ofDigitChars 10 digits 0 := by
  simp only [integer?, Option.ite_none_right_eq_some, Option.some.injEq] at found
  obtain ⟨⟨low, high⟩, rfl⟩ := found
  exact Int64.toInt_ofInt_of_le low (Int.lt_of_le_of_lt high (by decide))

/-- A sign and digits that denote an integer are read as that integer. -/
theorem integer?_eq_some {negative : Bool} {digits : List Char} {value : Int64}
    (denotes : value.toInt =
      if negative then -(Nat.ofDigitChars 10 digits 0 : Int) else Nat.ofDigitChars 10 digits 0) :
    integer? negative digits = some value := by
  have low := value.minValue_le_toInt
  have high := value.toInt_le
  simp only [integer?, ← denotes, Int64.ofInt_toInt]
  rw [if_pos ⟨low, high⟩]

/-- The word that is read is a lexeme of its token, reserved or not. -/
theorem lexeme_ofWord {word : List Char} (isWord : IsWord word) :
    (Token.ofWord (String.ofList word)).Lexeme word := by
  have spelled {text : String} (same : String.ofList word = text) : word = text.toList := by
    rw [← same, String.toList_ofList]
  unfold Token.ofWord
  split
  next same => exact spelled same ▸ .fixed rfl
  split
  next same => exact spelled same ▸ .fixed rfl
  split
  next same => exact spelled same ▸ .fixed rfl
  split
  next same => exact spelled same ▸ .fixed rfl
  next notIf notElse notPrint notInput =>
    have named : IsVariable (String.ofList word) :=
      ⟨by rwa [String.toList_ofList], by simp [notIf, notElse, notPrint, notInput]⟩
    have lexeme := Lexeme.identifier named
    rwa [String.toList_ofList] at lexeme

/-- A number that is read is written with the sign in front of it and digits. -/
theorem lexeme_of_readNumber {position : Position} {negative : Bool} {source : List Char}
    {reading : Reading} (read : readNumber position negative source = .ok reading)
    (first : source.head?.any Char.isDigit = true) : reading.token.Lexeme reading.lexeme := by
  have nonempty : source.takeWhile Char.isDigit ≠ [] := by
    cases source with
    | nil => contradiction
    | cons c rest =>
        rw [List.takeWhile_cons_of_pos (by simpa using first)]
        exact List.cons_ne_nil _ _
  have decimal : ∀ c ∈ source.takeWhile Char.isDigit, c.isDigit = true :=
    fun c member => List.mem_takeWhile_imp member
  simp only [readNumber] at read
  split at read
  next => contradiction
  next => contradiction
  next value _ found =>
    simp only [Except.ok.injEq] at read
    have denotes := toInt_of_integer? found
    subst read
    cases negative with
    | true => exact .negative nonempty decimal denotes
    | false => exact .natural nonempty decimal denotes

/-- A sign is the only text of its token. -/
theorem lexeme_of_sign? {c : Char} {token : Token} (sign : sign? c = some token) :
    token.Lexeme [c] := by
  unfold sign? at sign
  split at sign <;> cases sign <;> exact .fixed rfl

/-- A token is read from one of its texts. -/
theorem lexeme_of_readToken {position : Position} {c : Char} {rest : List Char} {reading : Reading}
    (read : readToken position c rest = .ok reading) : reading.token.Lexeme reading.lexeme := by
  unfold readToken at read
  split at read
  next slashes =>
    simp only [Except.ok.injEq] at read
    subst read
    refine .comment fun member => ?_
    simpa using List.mem_takeWhile_imp member
  split at read
  next quote =>
    obtain ⟨⟨characters, text, after⟩, string, same⟩ := Result.map_eq_ok_iff.1 read
    obtain ⟨parts, written, rfl⟩ := inString_of_readString string
    subst same quote
    exact .string (by rwa [String.toList_ofList])
  split at read
  next minus => exact lexeme_of_readNumber read minus.2
  split at read
  next digit => exact lexeme_of_readNumber read digit
  split at read
  next begins =>
    simp only [Except.ok.injEq] at read
    subst read
    refine lexeme_ofWord ⟨c, rest.takeWhile continuesName, ?_, begins, fun d member => ?_⟩
    · exact List.takeWhile_cons_of_pos (continuesName_of_beginsName begins)
    · exact List.mem_takeWhile_imp member
  split at read
  next double =>
    simp only [Except.ok.injEq] at read
    subst read
    rw [double.1]
    exact .fixed rfl
  split at read
  next token sign =>
    simp only [Except.ok.injEq] at read
    subst read
    exact lexeme_of_sign? sign
  next => contradiction

/-! ## A lexeme is read -/

theorem readString_quote (opening position : Position) (rest : List Char) :
    readString opening position ('"' :: rest) = .ok ([], ['"'], rest) := by
  rw [readString.eq_def]
  rfl

theorem readString_raw {c : Char} (quote : c ≠ '"') (backslash : c ≠ '\\') (lineFeed : c ≠ '\n')
    (opening position : Position) (rest : List Char) :
    readString opening position (c :: rest) =
      (readString opening (position.next c) rest).map
        fun (characters, text, rest) => (c :: characters, c :: text, rest) := by
  rw [readString.eq_def]
  simp only [if_neg quote, if_neg lineFeed, if_neg backslash]

theorem readString_escaped {letter value : Char} (escape : escaped? letter = some value)
    (opening position : Position) (rest : List Char) :
    readString opening position ('\\' :: letter :: rest) =
      (readString opening ((position.next '\\').next letter) rest).map
        fun (characters, text, rest) => (value :: characters, '\\' :: letter :: text, rest) := by
  rw [readString.eq_def]
  simp only [escape]
  rfl

/-- What characters are written with between quotes is read as these characters. -/
theorem readString_of_inString {characters : List Char} {parts : List (List Char)}
    (written : List.Forall₂ InString characters parts) (opening position : Position)
    (rest : List Char) :
    readString opening position (parts.flatten ++ '"' :: rest) =
      .ok (characters, parts.flatten ++ ['"'], rest) := by
  induction written generalizing position with
  | nil => exact readString_quote opening position rest
  | cons first others induction =>
      rw [List.flatten_cons, List.append_assoc]
      cases first with
      | raw quote backslash lineFeed =>
          rw [List.singleton_append, readString_raw quote backslash lineFeed, induction]
          rfl
      | escaped escape =>
          rw [List.cons_append, List.singleton_append,
            readString_escaped (escaped?_eq_some_iff.2 escape), induction]
          rfl

/-- Characters of a class are read up to the first one that is not of the class. -/
theorem takeWhile_append_cons {p : Char → Bool} {front : List Char} (all : ∀ c ∈ front, p c = true)
    {d : Char} (other : p d = false) (rest : List Char) :
    (front ++ d :: rest).takeWhile p = front ∧ (front ++ d :: rest).dropWhile p = d :: rest := by
  rw [List.takeWhile_append_of_pos all, List.dropWhile_append_of_pos all]
  simp [other]

/-- A space does not stand inside a name. -/
theorem continuesName_space : continuesName ' ' = false := by
  decide +kernel

/-- Digits in front of a space are read as the integer that they denote with their sign. -/
theorem readNumber_of_denotes (negative : Bool) {digits : List Char} {value : Int64}
    (decimal : ∀ c ∈ digits, c.isDigit = true)
    (denotes : value.toInt =
      if negative then -(Nat.ofDigitChars 10 digits 0 : Int) else Nat.ofDigitChars 10 digits 0)
    (position : Position) (rest : List Char) :
    readNumber position negative (digits ++ ' ' :: rest) =
      .ok ⟨.integer value, if negative then '-' :: digits else digits, ' ' :: rest⟩ := by
  obtain ⟨taken, dropped⟩ := takeWhile_append_cons decimal (d := ' ') rfl rest
  have apart : beginsName ' ' = false := by
    rw [Bool.eq_false_iff]
    intro begins
    exact absurd (continuesName_of_beginsName begins) (by rw [continuesName_space]; decide)
  simp only [readNumber, taken, dropped, List.head?_cons, Option.filter_some, apart,
    integer?_eq_some denotes]
  rfl

/-- A text is read as a token, wherever it stands in front of a space. -/
def IsRead (token : Token) (text : List Char) : Prop :=
  ∃ c tail, text = c :: tail ∧ isGap c = false ∧ ∀ position rest,
    readToken position c (tail ++ ' ' :: rest) = .ok ⟨token, text, ' ' :: rest⟩

/-- A name begins with no character in front of the capital letters. -/
theorem ne_of_beginsName {c d : Char} (begins : beginsName c = true) (small : d.toNat < 0x41) :
    c ≠ d := by
  rintro rfl
  exact absurd (le_toNat_of_beginsName begins) (Nat.not_le_of_lt small)

theorem isDigit_eq_false_of_beginsName {c : Char} (begins : beginsName c = true) :
    c.isDigit = false := by
  have low := le_toNat_of_beginsName begins
  simp only [Char.isDigit, Bool.and_eq_false_iff, decide_eq_false_iff_not, ge_iff_le,
    UInt32.le_iff_toNat_le]
  right
  change ¬ c.toNat ≤ 0x39
  omega

/-- A word is read to its end. -/
theorem isRead_of_isWord {text : List Char} (word : IsWord text) :
    IsRead (Token.ofWord (String.ofList text)) text := by
  obtain ⟨c, tail, rfl, begins, continues⟩ := word
  have apart {d : Char} (small : d.toNat < 0x41) : c ≠ d := ne_of_beginsName begins small
  have all : ∀ d ∈ c :: tail, continuesName d = true :=
    List.forall_mem_cons.2 ⟨continuesName_of_beginsName begins, continues⟩
  refine ⟨c, tail, rfl, ?_, fun position rest => ?_⟩
  · simp [isGap, apart]
  · obtain ⟨taken, dropped⟩ := takeWhile_append_cons all continuesName_space rest
    rw [List.cons_append] at taken dropped
    unfold readToken
    rw [if_neg (fun slashes => apart (by decide) slashes.1), if_neg (apart (by decide)),
      if_neg (fun minus => apart (by decide) minus.1),
      if_neg (by rw [isDigit_eq_false_of_beginsName begins]; decide), if_pos begins, readWord,
      taken, dropped]

/-- Digits are read as the integer that they denote. -/
theorem isRead_natural {digits : List Char} {value : Int64} (nonempty : digits ≠ [])
    (decimal : ∀ c ∈ digits, c.isDigit = true)
    (denotes : value.toInt = Nat.ofDigitChars 10 digits 0) : IsRead (.integer value) digits := by
  obtain ⟨c, tail, rfl⟩ := List.exists_cons_of_ne_nil nonempty
  have digit : c.isDigit = true := decimal c List.mem_cons_self
  have apart {d : Char} (other : d.isDigit = false) : c ≠ d := by
    rintro rfl
    rw [digit] at other
    contradiction
  refine ⟨c, tail, rfl, ?_, fun position rest => ?_⟩
  · simp [isGap, apart]
  · unfold readToken
    rw [if_neg (fun slashes => apart (by decide) slashes.1), if_neg (apart (by decide)),
      if_neg (fun minus => apart (by decide) minus.1), if_pos digit, ← List.cons_append]
    exact readNumber_of_denotes false decimal denotes position rest

/-- A minus sign and digits are read as the integer that they denote together. -/
theorem isRead_negative {digits : List Char} {value : Int64} (nonempty : digits ≠ [])
    (decimal : ∀ c ∈ digits, c.isDigit = true)
    (denotes : value.toInt = -Nat.ofDigitChars 10 digits 0) :
    IsRead (.integer value) ('-' :: digits) := by
  refine ⟨'-', digits, rfl, rfl, fun position rest => ?_⟩
  have first : (digits ++ ' ' :: rest).head?.any Char.isDigit = true := by
    obtain ⟨c, tail, rfl⟩ := List.exists_cons_of_ne_nil nonempty
    simpa using decimal c List.mem_cons_self
  unfold readToken
  rw [if_neg (fun slashes => by cases slashes.1), if_neg (by decide), if_pos ⟨rfl, first⟩]
  exact readNumber_of_denotes true decimal denotes position rest

/-- What characters are written with is read as a string of them. -/
theorem isRead_string {text : String} {parts : List (List Char)}
    (written : List.Forall₂ InString text.toList parts) :
    IsRead (.string text) ('"' :: (parts.flatten ++ ['"'])) := by
  refine ⟨'"', parts.flatten ++ ['"'], rfl, rfl, fun position rest => ?_⟩
  unfold readToken
  rw [if_neg (fun slashes => by cases slashes.1), if_pos rfl, List.append_assoc,
    List.singleton_append, readString_of_inString written]
  simp only [Except.map, String.ofList_toList]

/-- No name, number, string or comment begins with a sign. -/
theorem apart_of_sign? {c : Char} {token : Token} (sign : sign? c = some token) :
    (c ≠ '/' ∧ c ≠ '"' ∧ c ≠ '-') ∧ c.isDigit = false ∧ beginsName c = false ∧ isGap c = false := by
  unfold sign? at sign
  split at sign <;> first | contradiction | decide +kernel

/-- A sign is read as its token, also if it might go on as a longer one. -/
theorem isRead_sign {c : Char} {token : Token} (sign : sign? c = some token) :
    IsRead token [c] := by
  obtain ⟨⟨slash, quote, minus⟩, digit, letter, gap⟩ := apart_of_sign? sign
  refine ⟨c, [], rfl, gap, fun position rest => ?_⟩
  unfold readToken
  rw [if_neg (fun slashes => slash slashes.1), if_neg quote,
    if_neg (fun negative => minus negative.1), if_neg (by rw [digit]; decide),
    if_neg (by rw [letter]; decide), if_neg (fun double => by cases double.2), sign]
  rfl

/-- A token that is always written in the same way is read from that text. -/
theorem isRead_fixed {token : Token} {text : List Char} (always : token.fixedText? = some text)
    (real : token ≠ .endOfFile) : IsRead token text := by
  cases token with
  | ifKeyword =>
      cases always
      exact isRead_of_isWord (isWord_cons (by decide) (by decide))
  | elseKeyword =>
      cases always
      exact isRead_of_isWord (isWord_cons (by decide) (by decide))
  | printKeyword =>
      cases always
      exact isRead_of_isWord (isWord_cons (by decide) (by decide))
  | inputKeyword =>
      cases always
      exact isRead_of_isWord (isWord_cons (by decide) (by decide))
  | equal =>
      cases always
      refine ⟨'=', ['='], rfl, rfl, fun position rest => ?_⟩
      obtain ⟨-, digit, letter, -⟩ := apart_of_sign? (c := '=') rfl
      unfold readToken
      rw [if_neg (fun slashes => by cases slashes.1), if_neg (by decide),
        if_neg (fun minus => by cases minus.1), if_neg (by decide),
        if_neg (by rw [letter]; decide), if_pos ⟨rfl, rfl⟩]
      rfl
  | endOfFile => exact absurd rfl real
  | integer | string | identifier | comment => contradiction
  | _ =>
      cases always
      exact isRead_sign rfl

/-- Every text of a token is read as that token, except that a comment goes on to the end of its
line and that the end of a script is not read from anything. -/
theorem isRead_of_lexeme {token : Token} {text : List Char} (lexeme : token.Lexeme text)
    (real : token ≠ .endOfFile) (plain : ∀ body, token ≠ .comment body) : IsRead token text := by
  cases lexeme with
  | fixed always => exact isRead_fixed always real
  | natural nonempty decimal denotes => exact isRead_natural nonempty decimal denotes
  | negative nonempty decimal denotes => exact isRead_negative nonempty decimal denotes
  | @identifier name named =>
      have read := isRead_of_isWord named.word
      rwa [String.ofList_toList, ofWord_of_isVariable named] at read
  | string written => exact isRead_string written
  | comment single => exact absurd rfl (plain _)

/-- A space at the end is trimmed. -/
theorem trim_append_space (body : List Char) : Text.trim (body ++ [' ']) = Text.trim body := by
  have blank : Text.isBlank ' ' = true := by decide
  unfold Text.trim Text.trimLeft Text.trimRight
  rw [List.dropWhile_append]
  split
  next none =>
    rw [List.isEmpty_iff.1 none, List.dropWhile_cons_of_pos blank]
    rfl
  next => rw [List.reverse_append, List.reverse_singleton, List.singleton_append,
      List.dropWhile_cons_of_pos blank]

/-- A comment in front of a space is read to the end of its line, and the space does not matter. -/
theorem readToken_comment {body : List Char} (single : '\n' ∉ body) {rest : List Char}
    (line : rest = [] ∨ rest.head? = some '\n') (position : Position) :
    readToken position '/' ('/' :: body ++ ' ' :: rest) =
      .ok ⟨.comment (String.ofList (Text.trim body)), '/' :: '/' :: (body ++ [' ']), rest⟩ := by
  have within : ∀ c ∈ body ++ [' '], decide (c ≠ '\n') = true := by
    intro c member
    rcases List.mem_append.1 member with inside | last
    · simpa using ne_of_mem_of_not_mem inside single
    · rw [List.mem_singleton.1 last]
      rfl
  have ends : rest.takeWhile (· ≠ '\n') = [] ∧ rest.dropWhile (· ≠ '\n') = rest := by
    rcases line with rfl | first
    · exact ⟨rfl, rfl⟩
    · obtain ⟨tail, rfl⟩ := List.head?_eq_some_iff.1 first
      exact ⟨rfl, rfl⟩
  have behind : body ++ ' ' :: rest = body ++ [' '] ++ rest := by
    rw [List.append_assoc, List.singleton_append]
  unfold readToken
  rw [if_pos ⟨rfl, rfl⟩, List.cons_append, List.tail_cons, readComment, behind,
    List.takeWhile_append_of_pos within, List.dropWhile_append_of_pos within, ends.1, ends.2,
    List.append_nil, trim_append_space]

end Lexer

end StackScript
