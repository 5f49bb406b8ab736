import StackScript.Phrase

/-!
# Cursors

A cursor stands between the tokens that have been read and those that have not. It remembers the
line of the last token read, where faults at the end of the tokens are reported, and the line that
the next node of the syntax tree is recorded for, which is the same except behind an `if`.
-/

namespace StackScript

/-- A place between the tokens of a script. -/
structure Cursor where
  /-- The tokens that have not been read. -/
  rest : List PlacedToken
  /-- The line of the last token read. -/
  lastLine : Nat
  /-- The line that the next node is recorded for. -/
  nodeLine : Nat
deriving DecidableEq, Repr

namespace Cursor

/-- The place in front of all tokens. -/
def start (tokens : List PlacedToken) : Cursor :=
  ⟨tokens, 1, 1⟩

/-- The next token. -/
def peek? (cursor : Cursor) : Option Token :=
  cursor.rest.head?.map PlacedToken.token

/-- The token after the next one. -/
def peekSecond? (cursor : Cursor) : Option Token :=
  cursor.rest[1]?.map PlacedToken.token

/-- The place behind the next token. -/
def advance (cursor : Cursor) : Cursor :=
  match cursor.rest with
  | [] => cursor
  | placed :: rest => ⟨rest, placed.position.line, placed.position.line⟩

/-- The line of the next token, or of the last one at the end of the tokens. -/
def line (cursor : Cursor) : Nat :=
  (cursor.rest.head?.map (·.position.line)).getD cursor.lastLine

/-- The same place with another line for the next node. -/
def withNodeLine (cursor : Cursor) (line : Nat) : Cursor :=
  { cursor with nodeLine := line }

/-- Whether there is nothing more to read. -/
def atEnd (cursor : Cursor) : Bool :=
  match cursor.peek? with
  | none | some .endOfFile => true
  | _ => false

/-- The fault of finding something else than what the grammar asks for. -/
def unexpected (cursor : Cursor) (wanted : Expectation) : GrammarError :=
  ⟨.unexpected wanted cursor.peek?, cursor.line⟩

/-- Read on behind the next semicolon, or to the next closing brace or the end. -/
def recoverFrom (lastLine nodeLine : Nat) : List PlacedToken → Cursor
  | [] => ⟨[], lastLine, nodeLine⟩
  | placed :: rest =>
      let line := placed.position.line
      match placed.token with
      | .endOfFile | .rightBrace => ⟨placed :: rest, lastLine, nodeLine⟩
      | .semicolon => ⟨rest, line, line⟩
      | _ => recoverFrom line line rest

/-- The place where reading goes on after a fault. -/
def recover (cursor : Cursor) : Cursor :=
  recoverFrom cursor.lastLine cursor.nodeLine cursor.rest

/-- The token after the next one is next behind it. -/
theorem peekSecond?_eq_peek?_advance (cursor : Cursor) :
    cursor.peekSecond? = cursor.advance.peek? := by
  obtain ⟨rest, lastLine, nodeLine⟩ := cursor
  cases rest with
  | nil => rfl
  | cons first rest => cases rest <;> rfl

end Cursor

end StackScript
