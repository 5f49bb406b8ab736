import StackScript.Text.Blank
import StackScript.Text.Letter
import StackScript.Text.Numeric
import StackScript.Token

/-!
# Lexical analysis

A script is cut into tokens from the front: spaces, tabs and carriage returns are passed over, and
every other character begins a token. Each reader splits what is left of the script into the text of
a token and the rest, so that the cut loses nothing and places follow from the text in front.
-/

namespace StackScript

/-- Why the text of a script is not made of tokens. -/
inductive LexicalFault where
  /-- A backslash before a character that has no escape. -/
  | unknownEscape (c : Char)
  /-- A backslash at the end of the script. -/
  | escapeAtEnd
  /-- A line that ends inside a string. -/
  | lineEndInString
  /-- A script that ends inside a string. -/
  | unterminatedString
  /-- A letter or underscore directly behind the digits of a number. -/
  | gluedNumber (digits : List Char) (c : Char)
  /-- A number beyond the range of 64-bit integers. -/
  | integerOutOfRange (text : List Char)
  /-- A character that no token begins with. -/
  | unexpectedCharacter (c : Char)
deriving DecidableEq, Repr

/-- The wording of a fault. -/
def LexicalFault.message : LexicalFault → String
  | unknownEscape c => "unknown escape sequence: \\" ++ c.toString
  | escapeAtEnd => "unexpected EOF in escape sequence"
  | lineEndInString => "unterminated string (newline before closing quote)"
  | unterminatedString => "unterminated string literal"
  | gluedNumber digits c =>
      "invalid integer literal: " ++ String.ofList digits ++ c.toString
  | integerOutOfRange text => "invalid integer: " ++ String.ofList text
  | unexpectedCharacter c => "unexpected character: '" ++ c.toString ++ "'"

/-- A fault and the place it is reported at. -/
structure LexicalError where
  /-- What is wrong. -/
  fault : LexicalFault
  /-- Where it is. -/
  position : Position
deriving DecidableEq, Repr

/-- The place and wording of an error. -/
def LexicalError.message (error : LexicalError) : String :=
  Text.decimal error.position.line ++ ":" ++ Text.decimal error.position.column ++ ": "
    ++ error.fault.message

namespace Lexer

/-- A token with the text it was read from and the text behind it. -/
structure Reading where
  /-- The token. -/
  token : Token
  /-- Its text. -/
  lexeme : List Char
  /-- What is left of the script. -/
  rest : List Char
deriving DecidableEq, Repr

/-- Whether a character only stands between tokens. -/
def isGap (c : Char) : Bool :=
  c = ' ' || c = '\t' || c = '\r'

/-- Whether a name may begin with a character. -/
def beginsName (c : Char) : Bool :=
  Text.isLetter c || c = '_'

/-- Whether a name may go on with a character. -/
def continuesName (c : Char) : Bool :=
  Text.isLetter c || Text.isNumeric c || c = '_'

/-- The character that an escape stands for, by the character behind its backslash. -/
def escaped? : Char → Option Char
  | 'n' => some '\n'
  | 't' => some '\t'
  | 'r' => some '\r'
  | '\\' => some '\\'
  | '"' => some '"'
  | '0' => some '\x00'
  | _ => none

/-- The characters, text and rest of a string behind its opening quote. -/
def readString (opening : Position) :
    Position → List Char → Except LexicalError (List Char × List Char × List Char)
  | _, [] => .error ⟨.unterminatedString, opening⟩
  | position, c :: rest =>
      if c = '"' then .ok ([], [c], rest)
      else if c = '\n' then .error ⟨.lineEndInString, opening⟩
      else if c = '\\' then
        match rest with
        | [] => .error ⟨.escapeAtEnd, position.next c⟩
        | d :: rest =>
            match escaped? d with
            | none => .error ⟨.unknownEscape d, position.next c⟩
            | some value =>
                (readString opening ((position.next c).next d) rest).map
                  fun (characters, text, rest) => (value :: characters, c :: d :: text, rest)
      else
        (readString opening (position.next c) rest).map
          fun (characters, text, rest) => (c :: characters, c :: text, rest)

/-- The integer that a sign and digits denote, if it is in range. -/
def integer? (negative : Bool) (digits : List Char) : Option Int64 :=
  let magnitude : Int := Nat.ofDigitChars 10 digits 0
  let value := if negative then -magnitude else magnitude
  if Int64.minValue.toInt ≤ value ∧ value ≤ Int64.maxValue.toInt then some (Int64.ofInt value)
  else none

/-- Read a number whose sign has been read already. -/
def readNumber (position : Position) (negative : Bool) (source : List Char) :
    Except LexicalError Reading :=
  let digits := source.takeWhile Char.isDigit
  let rest := source.dropWhile Char.isDigit
  let lexeme := if negative then '-' :: digits else digits
  let glued := rest.head?.filter beginsName
  match glued, integer? negative digits with
  | some c, _ => .error ⟨.gluedNumber digits c, position⟩
  | none, none => .error ⟨.integerOutOfRange lexeme, position⟩
  | none, some value => .ok ⟨.integer value, lexeme, rest⟩

/-- Read a keyword or an identifier. -/
def readWord (source : List Char) : Reading :=
  let word := source.takeWhile continuesName
  ⟨Token.ofWord (String.ofList word), word, source.dropWhile continuesName⟩

/-- Read a comment behind its two slashes. -/
def readComment (source : List Char) : Reading :=
  let body := source.takeWhile (· ≠ '\n')
  ⟨.comment (String.ofList (Text.trim body)), '/' :: '/' :: body, source.dropWhile (· ≠ '\n')⟩

/-- The operator or delimiter that a single character is. -/
def sign? : Char → Option Token
  | '=' => some .assign
  | '+' => some .plus
  | ';' => some .semicolon
  | '(' => some .leftParen
  | ')' => some .rightParen
  | '{' => some .leftBrace
  | '}' => some .rightBrace
  | '\n' => some .newline
  | _ => none

/-- Read the token that a character begins. -/
def readToken (position : Position) (c : Char) (rest : List Char) :
    Except LexicalError Reading :=
  if c = '/' ∧ rest.head? = some '/' then .ok (readComment rest.tail)
  else if c = '"' then
    (readString position (position.next c) rest).map
      fun (characters, text, rest) => ⟨.string (String.ofList characters), c :: text, rest⟩
  else if c = '-' ∧ rest.head?.any Char.isDigit then readNumber position true rest
  else if c.isDigit then readNumber position false (c :: rest)
  else if beginsName c then .ok (readWord (c :: rest))
  else if c = '=' ∧ rest.head? = some '=' then .ok ⟨.equal, [c, '='], rest.tail⟩
  else
    match sign? c with
    | some token => .ok ⟨token, [c], rest⟩
    | none => .error ⟨.unexpectedCharacter c, position⟩

/-- A string's text and rest make up what it was read from. -/
theorem readString_source {opening position : Position} {source : List Char}
    {characters text rest : List Char}
    (read : readString opening position source = .ok (characters, text, rest)) :
    text ++ rest = source := by
  fun_induction readString opening position source generalizing characters text rest with
  | case1 => simp at read
  | case2 =>
      simp only [Except.ok.injEq, Prod.mk.injEq] at read
      obtain ⟨-, rfl, rfl⟩ := read
      rfl
  | case3 => simp at read
  | case4 => simp at read
  | case5 => simp at read
  | case6 position d after value _ _ _ induction =>
      cases next : readString opening ((position.next '\\').next d) after with
      | error error => simp [next, Except.map] at read
      | ok result =>
          simp only [next, Except.map, Except.ok.injEq, Prod.mk.injEq] at read
          obtain ⟨-, rfl, rfl⟩ := read
          simp [induction next]
  | case7 position c after _ _ _ induction =>
      cases next : readString opening (position.next c) after with
      | error error => simp [next, Except.map] at read
      | ok result =>
          simp only [next, Except.map, Except.ok.injEq, Prod.mk.injEq] at read
          obtain ⟨-, rfl, rfl⟩ := read
          simp [induction next]

/-- A number's text, its sign included, and its rest make up what it was read from. -/
theorem readNumber_source {position : Position} {negative : Bool} {source : List Char}
    {reading : Reading} (read : readNumber position negative source = .ok reading) :
    reading.lexeme ++ reading.rest = if negative then '-' :: source else source := by
  cases negative <;> simp only [readNumber] at read <;> split at read <;>
    simp only [reduceCtorEq, Except.ok.injEq] at read <;> subst read <;>
    simp [List.takeWhile_append_dropWhile]

/-- A token's text and rest make up what it was read from. -/
theorem readToken_source {position : Position} {c : Char} {rest : List Char} {reading : Reading}
    (read : readToken position c rest = .ok reading) :
    reading.lexeme ++ reading.rest = c :: rest := by
  unfold readToken at read
  split at read
  next slashes =>
    obtain ⟨rfl, head⟩ := slashes
    obtain ⟨tail, rfl⟩ := List.head?_eq_some_iff.1 head
    simp only [Except.ok.injEq] at read
    simp [← read, readComment, List.takeWhile_append_dropWhile]
  split at read
  next =>
    cases string : readString position (position.next c) rest with
    | error error => simp [string, Except.map] at read
    | ok result =>
        simp only [string, Except.map, Except.ok.injEq] at read
        simp [← read, readString_source string]
  split at read
  next minus =>
    have source := readNumber_source read
    simpa [minus.1] using source
  split at read
  next => simpa using readNumber_source read
  split at read
  next =>
    simp only [Except.ok.injEq] at read
    simp [← read, readWord, List.takeWhile_append_dropWhile]
  split at read
  next double =>
    obtain ⟨tail, rfl⟩ := List.head?_eq_some_iff.1 double.2
    simp only [Except.ok.injEq] at read
    simp [← read]
  split at read
  next =>
    simp only [Except.ok.injEq] at read
    simp [← read]
  next => simp at read

/-- A name may go on with any character that it may begin with. -/
theorem continuesName_of_beginsName {c : Char} (begins : beginsName c = true) :
    continuesName c = true := by
  simp only [beginsName, continuesName, Bool.or_eq_true] at begins ⊢
  rcases begins with letter | underscore
  · exact .inl (.inl letter)
  · exact .inr underscore

/-- The text of a token begins with the character that the token was read at. -/
theorem readToken_head {position : Position} {c : Char} {rest : List Char} {reading : Reading}
    (read : readToken position c rest = .ok reading) : reading.lexeme.head? = some c := by
  unfold readToken at read
  split at read
  next slashes =>
    simp only [Except.ok.injEq] at read
    simp [← read, readComment, slashes.1]
  split at read
  next =>
    cases string : readString position (position.next c) rest with
    | error error => simp [string, Except.map] at read
    | ok result =>
        simp only [string, Except.map, Except.ok.injEq] at read
        simp [← read]
  split at read
  next minus =>
    simp only [readNumber] at read
    split at read <;> simp only [reduceCtorEq, Except.ok.injEq] at read
    simp [← read, minus.1]
  split at read
  next digit =>
    simp only [readNumber] at read
    split at read <;> simp only [reduceCtorEq, Except.ok.injEq] at read
    simp [← read, digit]
  split at read
  next begins =>
    simp only [Except.ok.injEq] at read
    simp [← read, readWord, continuesName_of_beginsName begins]
  split at read
  next =>
    simp only [Except.ok.injEq] at read
    simp [← read]
  split at read
  next =>
    simp only [Except.ok.injEq] at read
    simp [← read]
  next => simp at read

/-- A token takes at least the character that it begins with. -/
theorem length_rest_le {position : Position} {c : Char} {rest : List Char} {reading : Reading}
    (read : readToken position c rest = .ok reading) : reading.rest.length ≤ rest.length := by
  obtain ⟨tail, lexeme⟩ := List.head?_eq_some_iff.1 (readToken_head read)
  have source := readToken_source read
  rw [lexeme, List.cons_append, List.cons.injEq] at source
  rw [← source.2, List.length_append]
  exact Nat.le_add_left _ _

/-- The tokens of a script from a place on, ended by the token for its end. -/
def tokensFrom (position : Position) : List Char → Except LexicalError (List PlacedToken)
  | [] => .ok [⟨.endOfFile, position⟩]
  | c :: rest =>
      if isGap c then tokensFrom (position.next c) rest
      else
        match _read : readToken position c rest with
        | .error error => .error error
        | .ok reading =>
            (tokensFrom (position.after reading.lexeme) reading.rest).map
              (⟨reading.token, position⟩ :: ·)
termination_by source => source.length
decreasing_by
  · exact Nat.lt_succ_self _
  · exact Nat.lt_succ_of_le (length_rest_le _read)

end Lexer

/-- The tokens of a script, comments and line ends among them. -/
def Token.ofScript (script : String) : Except LexicalError (List PlacedToken) :=
  Lexer.tokensFrom .start script.toList

/-- Tokens without those that only separate. -/
def Token.significant (tokens : List PlacedToken) : List PlacedToken :=
  tokens.filter fun placed => !placed.token.isSeparator

end StackScript
