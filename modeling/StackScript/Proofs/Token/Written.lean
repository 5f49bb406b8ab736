import StackScript.Proofs.Token.Lexeme

/-!
# Written tokens

Tokens are written in a row with a space behind each of them: integers in decimal without needless
zeros, strings with the escapes that they need and others as one likes, comments behind two slashes.
Whatever tokens are written so are read back, in order and with nothing else but the end of the
script behind them.
-/

namespace StackScript

namespace Token

/-- A token that stands for something that can be written: the name of a variable is one that a
variable may have, and a comment is a single line without white space at its ends. -/
def IsWritable : Token → Prop
  | identifier name => IsVariable name
  | comment text => Text.trim text.toList = text.toList ∧ '\n' ∉ text.toList
  | endOfFile => False
  | _ => True

/-- The texts that a token is written as. Some characters of a string may be written in two ways. -/
inductive Written : Token → List Char → Prop
  | fixed {token : Token} {text : List Char} (always : token.fixedText? = some text) :
      Written token text
  | integer (value : Int64) : Written (.integer value) (Text.decimal value.toInt).toList
  | identifier (name : String) : Written (.identifier name) name.toList
  | string {text : String} {parts : List (List Char)}
      (written : List.Forall₂ InString text.toList parts) :
      Written (.string text) ('"' :: (parts.flatten ++ ['"']))
  | comment (text : String) : Written (.comment text) ('/' :: '/' :: text.toList)

/-- The texts that tokens are written as, with a space behind each token. -/
inductive AllWritten : List Token → List Char → Prop
  | nil : AllWritten [] []
  | cons {token : Token} {tokens : List Token} {text rest : List Char}
      (first : token.Written text) (others : AllWritten tokens rest) :
      AllWritten (token :: tokens) (text ++ ' ' :: rest)

/-- Each comment stands at the end of the tokens or in front of a line end. -/
def CommentsEndLines (tokens : List Token) : Prop :=
  tokens.IsChain fun token next => ∀ text, token = .comment text → next = .newline

/-! ## Everything can be written -/

/-- Every character can be written between quotes. -/
theorem exists_inString (c : Char) : ∃ part, InString c part := by
  by_cases quote : c = '"'
  · exact ⟨['\\', '"'], .escaped (by rw [quote]; rfl)⟩
  by_cases backslash : c = '\\'
  · exact ⟨['\\', '\\'], .escaped (by rw [backslash]; rfl)⟩
  by_cases lineFeed : c = '\n'
  · exact ⟨['\\', 'n'], .escaped (by rw [lineFeed]; rfl)⟩
  · exact ⟨_, .raw quote backslash lineFeed⟩

theorem exists_forall₂_inString (characters : List Char) :
    ∃ parts, List.Forall₂ InString characters parts := by
  induction characters with
  | nil => exact ⟨[], .nil⟩
  | cons c rest induction =>
      obtain ⟨part, first⟩ := exists_inString c
      obtain ⟨parts, others⟩ := induction
      exact ⟨part :: parts, .cons first others⟩

theorem exists_written (token : Token) : ∃ text, token.Written text := by
  cases token with
  | integer value => exact ⟨_, .integer value⟩
  | string text =>
      obtain ⟨parts, written⟩ := exists_forall₂_inString text.toList
      exact ⟨_, .string written⟩
  | identifier name => exact ⟨_, .identifier name⟩
  | comment text => exact ⟨_, .comment text⟩
  | _ => exact ⟨_, .fixed rfl⟩

theorem exists_allWritten (tokens : List Token) : ∃ text, AllWritten tokens text := by
  induction tokens with
  | nil => exact ⟨[], .nil⟩
  | cons token tokens induction =>
      obtain ⟨text, first⟩ := token.exists_written
      obtain ⟨rest, others⟩ := induction
      exact ⟨_, .cons first others⟩

/-! ## What is written is read -/

/-- The decimal text of an integer is one of its texts. -/
theorem lexeme_decimal (value : Int64) :
    Lexeme (.integer value) (Text.decimal value.toInt).toList := by
  have nonempty : Text.digits value.toInt.natAbs ≠ [] := Nat.toDigits_ne_nil
  have decimal : ∀ c ∈ Text.digits value.toInt.natAbs, c.isDigit = true :=
    fun c member => Text.isDigit_of_mem_digits member
  have magnitude := Text.ofDigitChars_digits value.toInt.natAbs
  unfold Text.decimal
  split
  next negative =>
    rw [String.toList_ofList]
    refine .negative nonempty decimal ?_
    rw [magnitude]
    omega
  next natural =>
    rw [String.toList_ofList]
    refine .natural nonempty decimal ?_
    rw [magnitude]
    omega

theorem Written.lexeme {token : Token} {text : List Char} (written : token.Written text)
    (writable : token.IsWritable) : token.Lexeme text := by
  cases written with
  | fixed always => exact .fixed always
  | integer value => exact lexeme_decimal value
  | identifier name => exact .identifier writable
  | string written => exact .string written
  | comment text =>
      have lexeme := Lexeme.comment writable.2
      rwa [writable.1, String.ofList_toList] at lexeme

/-- Nothing or a line end is written behind a comment. -/
theorem AllWritten.line {body : String} {tokens : List Token} {rest : List Char}
    (others : AllWritten tokens rest) (ended : CommentsEndLines (.comment body :: tokens)) :
    rest = [] ∨ rest.head? = some '\n' := by
  cases others with
  | nil => exact .inl rfl
  | cons first others =>
      obtain rfl := (List.isChain_cons_cons.1 ended).1 body rfl
      cases first with
      | fixed always =>
          cases always
          exact .inr rfl

end Token

open Token

namespace Lexer

theorem tokensFrom_of_isGap {c : Char} (gap : isGap c = true) (position : Position)
    (rest : List Char) :
    tokensFrom position (c :: rest) = tokensFrom (position.next c) rest := by
  rw [tokensFrom, if_pos gap]

theorem tokensFrom_of_readToken {position : Position} {c : Char} {rest : List Char}
    {reading : Reading} (starts : isGap c = false)
    (read : readToken position c rest = .ok reading) :
    tokensFrom position (c :: rest) =
      (tokensFrom (position.after reading.lexeme) reading.rest).map
        (⟨reading.token, position⟩ :: ·) := by
  rw [tokensFrom, if_neg (by rw [starts]; decide)]
  split
  next fault failed =>
    rw [read] at failed
    contradiction
  next found done =>
    rw [read, Except.ok.injEq] at done
    rw [done]

/-- A token that is written, and the space behind it, are read as the token alone. -/
theorem tokensFrom_of_written {token : Token} {text rest : List Char} {tokens : List Token}
    (written : token.Written text) (writable : token.IsWritable) (others : AllWritten tokens rest)
    (ended : CommentsEndLines (token :: tokens)) (position : Position) :
    ∃ next, tokensFrom position (text ++ ' ' :: rest) =
      (tokensFrom next rest).map (⟨token, position⟩ :: ·) := by
  by_cases commented : ∃ body, token = .comment body
  · obtain ⟨body, rfl⟩ := commented
    cases written with
    | fixed always => contradiction
    | comment =>
        have read := readToken_comment writable.2 (others.line ended) position
        rw [writable.1, String.ofList_toList] at read
        exact ⟨_, tokensFrom_of_readToken rfl read⟩
  · have real : token ≠ .endOfFile := by
      rintro rfl
      exact writable
    obtain ⟨c, tail, rfl, starts, read⟩ :=
      isRead_of_lexeme (written.lexeme writable) real fun body same => commented ⟨body, same⟩
    refine ⟨(position.after (c :: tail)).next ' ', ?_⟩
    rw [List.cons_append, tokensFrom_of_readToken starts (read position rest),
      tokensFrom_of_isGap rfl]

theorem tokensFrom_of_allWritten {tokens : List Token} {text : List Char}
    (written : AllWritten tokens text) (writable : ∀ token ∈ tokens, token.IsWritable)
    (ended : CommentsEndLines tokens) (position : Position) :
    ∃ placed, tokensFrom position text = .ok placed ∧
      placed.map PlacedToken.token = tokens ++ [.endOfFile] := by
  induction written generalizing position with
  | nil => exact ⟨[⟨.endOfFile, position⟩], by rw [tokensFrom], rfl⟩
  | @cons token tokens text rest first others induction =>
      rw [List.forall_mem_cons] at writable
      obtain ⟨next, read⟩ := tokensFrom_of_written first writable.1 others ended position
      obtain ⟨placed, further, same⟩ := induction writable.2 ended.of_cons next
      refine ⟨⟨token, position⟩ :: placed, ?_, ?_⟩
      · rw [read, further]
        rfl
      · rw [List.map_cons, same]
        rfl

end Lexer

/-- Any tokens but the end of a script can be written, and in whichever way they are written, just
these tokens are read from the text, with the end of the script behind them. -/
theorem Token.ofScript_of_allWritten {tokens : List Token}
    (writable : ∀ token ∈ tokens, token.IsWritable) (ended : CommentsEndLines tokens) :
    (∃ script : String, AllWritten tokens script.toList) ∧
      ∀ script : String, AllWritten tokens script.toList →
        ∃ placed, Token.ofScript script = .ok placed ∧
          placed.map PlacedToken.token = tokens ++ [.endOfFile] := by
  constructor
  · obtain ⟨text, written⟩ := exists_allWritten tokens
    exact ⟨String.ofList text, by rwa [String.toList_ofList]⟩
  · intro script written
    exact Lexer.tokensFrom_of_allWritten written writable ended .start

/-- A string with a tab that is escaped and one that is not, a negative number, and a comment that
reads like a string and another comment. -/
def mixedTokens : List Token :=
  [.string "\t\"\t", .equal, .identifier "x1", .integer (-50), .comment "\"b // c", .newline]

/-- One of the ways to write these tokens. -/
def mixedScript : String :=
  "\"\\t\\\"\t\" == x1 -50 //\"b // c \n "

theorem allWritten_mixedTokens : Token.AllWritten mixedTokens mixedScript.toList := by
  have string : Token.Written (.string "\t\"\t")
      ('"' :: ([['\\', 't'], ['\\', '"'], ['\t']].flatten ++ ['"'])) :=
    .string (.cons (.escaped rfl) (.cons (.escaped rfl)
      (.cons (.raw (by decide) (by decide) (by decide)) .nil)))
  have equal : Token.Written .equal ['=', '='] := .fixed rfl
  have newline : Token.Written .newline ['\n'] := .fixed rfl
  exact .cons string (.cons equal (.cons (.identifier "x1") (.cons (.integer (-50))
    (.cons (.comment "\"b // c") (.cons newline .nil)))))

theorem ofScript_of_allWritten_mixed :
    (∀ token ∈ mixedTokens, token.IsWritable) ∧ Token.CommentsEndLines mixedTokens ∧
      ∃ placed, Token.ofScript mixedScript = .ok placed ∧
        placed.map PlacedToken.token = mixedTokens ++ [.endOfFile] := by
  have word : Token.IsWord ['x', '1'] := Token.isWord_cons (by decide) (by decide +kernel)
  have named : Token.IsVariable "x1" := ⟨word, by decide⟩
  have writable : ∀ token ∈ mixedTokens, token.IsWritable := by
    simp only [mixedTokens, List.forall_mem_cons, Token.IsWritable, true_and]
    exact ⟨named, ⟨by decide +kernel, by decide +kernel⟩, by simp⟩
  have ended : Token.CommentsEndLines mixedTokens := by
    simp [mixedTokens, Token.CommentsEndLines]
  exact ⟨writable, ended,
    (Token.ofScript_of_allWritten writable ended).2 mixedScript allWritten_mixedTokens⟩

end StackScript
