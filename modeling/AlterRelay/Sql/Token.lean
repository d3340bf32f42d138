/-
# AlterRelay.Sql.Token — tokens of a statement

A token keeps the raw text it was cut from, quotes included, and its place. A
quoted token also carries the value it spells. The end of the input is a token
of its own kind, with an empty text.
-/
import AlterRelay.Sql.Keyword
import AlterRelay.Sql.Position

namespace AlterRelay.Sql

set_option autoImplicit false

inductive TokenKind where
  | word
  | quotedIdent (value : String)
  | string (value : String)
  | doubleQuoted (value : String)
  | number
  | openParen
  | closeParen
  | comma
  | dot
  | semicolon
  | equals
  | operator
  | endOfInput
  deriving DecidableEq, Repr

structure Token where
  kind : TokenKind
  span : Span
  text : String
  deriving DecidableEq, Repr

namespace Token

def isEnd (token : Token) : Bool := token.kind == .endOfInput

/-- The keyword that a word spells; a quoted name is never a keyword. -/
def keyword? (token : Token) : Option Keyword :=
  if token.kind = .word then Keyword.ofWord? token.text else none

def isKeyword (token : Token) (keyword : Keyword) : Bool := token.keyword? == some keyword

/-- The name that a token gives: a word by its text, a name in back-quotes or double
quotes by its value. -/
def identifier? (token : Token) : Option String :=
  match token.kind with
  | .word => some token.text
  | .quotedIdent value | .doubleQuoted value => some value
  | _ => none

end Token

end AlterRelay.Sql
