import StackScript.Text.Decimal

/-!
# Tokens

The words a script is written in, and the places they stand at.
-/

namespace StackScript

/-- A word of a script. -/
inductive Token where
  /-- An integer in decimal. -/
  | integer (value : Int64)
  /-- Text between double quotes, by the characters it stands for. -/
  | string (text : String)
  /-- The name of a variable. -/
  | identifier (name : String)
  /-- The rest of a line after two slashes, without the white space around it. -/
  | comment (text : String)
  | ifKeyword
  | elseKeyword
  | printKeyword
  | inputKeyword
  | assign
  | equal
  | plus
  | semicolon
  | leftParen
  | rightParen
  | leftBrace
  | rightBrace
  /-- The end of a line. -/
  | newline
  /-- The end of the script. -/
  | endOfFile
deriving DecidableEq, Repr

namespace Token

/-- Whether a token is a reserved word. -/
def isKeyword : Token → Bool
  | ifKeyword | elseKeyword | printKeyword | inputKeyword => true
  | _ => false

/-- Whether a token only separates: comments and line ends have no meaning in the grammar. -/
def isSeparator : Token → Bool
  | comment _ | newline => true
  | _ => false

/-- The wording of a token in a message. -/
def describe : Token → String
  | integer value => "integer " ++ Text.decimal value.toInt
  | string text => "string \"" ++ text ++ "\""
  | identifier name => "identifier '" ++ name ++ "'"
  | comment _ => "comment"
  | ifKeyword => "'if'"
  | elseKeyword => "'else'"
  | printKeyword => "'print'"
  | inputKeyword => "'input'"
  | assign => "'='"
  | equal => "'=='"
  | plus => "'+'"
  | semicolon => "';'"
  | leftParen => "'('"
  | rightParen => "')'"
  | leftBrace => "'\x7b'"
  | rightBrace => "'\x7d'"
  | newline => "newline"
  | endOfFile => "end of file"

/-- The token that a word of letters is: a keyword or an identifier. -/
def ofWord (word : String) : Token :=
  if word = "if" then ifKeyword
  else if word = "else" then elseKeyword
  else if word = "print" then printKeyword
  else if word = "input" then inputKeyword
  else identifier word

end Token

/-- A place in a script, by line and column from one. -/
structure Position where
  /-- The number of the line. -/
  line : Nat
  /-- The number of the character in its line. -/
  column : Nat
deriving DecidableEq, Repr

namespace Position

/-- The place of the first character. -/
def start : Position := ⟨1, 1⟩

/-- The place behind a character. -/
def next (position : Position) (c : Char) : Position :=
  if c = '\n' then ⟨position.line + 1, 1⟩ else ⟨position.line, position.column + 1⟩

/-- The place behind some text. -/
def after (position : Position) (text : List Char) : Position :=
  text.foldl next position

@[simp] theorem after_nil (position : Position) : position.after [] = position := rfl

@[simp] theorem after_cons (position : Position) (c : Char) (text : List Char) :
    position.after (c :: text) = (position.next c).after text := rfl

/-- The place behind two texts in a row is the place behind the second, from behind the first. -/
theorem after_append (position : Position) (left right : List Char) :
    position.after (left ++ right) = (position.after left).after right :=
  List.foldl_append

end Position

/-- A token at the place of its first character. -/
structure PlacedToken where
  /-- The token. -/
  token : Token
  /-- Where it begins. -/
  position : Position
deriving DecidableEq, Repr

end StackScript
