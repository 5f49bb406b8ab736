import StackScript.Text.Column
import StackScript.Text.Quoted
import StackScript.Token

/-!
# Token listings

One line for each token: its place, its class and its text, in the colour of its class if colours
are wanted.
-/

namespace StackScript.Token

/-- The name of a token's class. -/
def className : Token → String
  | newline => "NEWLINE"
  | comment _ => "COMMENT"
  | endOfFile => "EOF"
  | integer _ => "INT"
  | string _ => "STRING"
  | identifier _ => "IDENT"
  | leftParen | rightParen => "PAREN"
  | leftBrace | rightBrace => "BRACE"
  | semicolon => "SEMI"
  | plus | assign => "OP"
  | equal => "CMP"
  | ifKeyword | elseKeyword | printKeyword | inputKeyword => "KEYWORD"

/-- The control sequence that ends a colour. -/
def plainColour : String := "\x1b[0m"

/-- The control sequence that begins a token's colour. -/
def colour : Token → String
  | newline | comment _ | endOfFile => "\x1b[2m"
  | string _ => "\x1b[32m"
  | identifier _ => "\x1b[33m"
  | plus | assign | equal => "\x1b[35m"
  | integer _ => "\x1b[36m"
  | _ => plainColour

/-- The constructor form of a token: its name, and its content in parentheses. -/
def structural : Token → String
  | integer value => "Integer(" ++ Text.decimal value.toInt ++ ")"
  | string text => "String(" ++ Text.quoted text ++ ")"
  | identifier name => "Ident(" ++ Text.quoted name ++ ")"
  | comment text => "Comment(" ++ Text.quoted text ++ ")"
  | ifKeyword => "If"
  | elseKeyword => "Else"
  | printKeyword => "Print"
  | inputKeyword => "Input"
  | assign => "Assign"
  | equal => "Equal"
  | plus => "Plus"
  | semicolon => "Semicolon"
  | leftParen => "LParen"
  | rightParen => "RParen"
  | leftBrace => "LBrace"
  | rightBrace => "RBrace"
  | newline => "Newline"
  | endOfFile => "Eof"

/-- The plain form of a token. -/
def plain : Token → String
  | comment text => "//" ++ text
  | newline => "NEWLINE"
  | token => token.describe

end Token

/-- How tokens are listed. -/
structure Token.ListingStyle where
  /-- Whether lines are coloured. -/
  coloured : Bool
  /-- Whether tokens have their plain form rather than their constructor form. -/
  plain : Bool
deriving DecidableEq, Repr

namespace PlacedToken

/-- The line of a token in a listing. -/
def line (style : Token.ListingStyle) (placed : PlacedToken) : String :=
  let token := placed.token
  let text := if style.plain then token.plain else token.structural
  let body := Text.leftAligned 8 token.className ++ " " ++ text
  "[" ++ Text.zeroPadded 2 placed.position.line ++ ":" ++ Text.zeroPadded 2 placed.position.column
    ++ "] " ++ if style.coloured then token.colour ++ body ++ Token.plainColour else body

end PlacedToken

/-- The listing of tokens. -/
def Token.listing (style : Token.ListingStyle) (tokens : List PlacedToken) : String :=
  Text.lines (tokens.map (PlacedToken.line style))

end StackScript
