/-
# AlterRelay.Proofs.Checked.Cursor — reading a statement as a machine

The cursor is an index into all tokens of a statement, of which the last is an end
token: if the tokens that are given do not have one, it is added. The token at the
cursor, or the one behind it, is looked up by its index, which stops at the last one.
Moving behind the first end token is a trap, and so is closing a parenthesis where
none is open.
-/
import AlterRelay.Proofs.Checked.Machine
import AlterRelay.Sql.StatementReader

namespace AlterRelay.Checked

open AlterRelay.Sql
open AlterRelay.Sql.Reader (addedObject? droppedObject? isDropBehaviour)

set_option autoImplicit false

/-- All tokens of a source, and the index of the next one. -/
structure Cursor where
  tokens : List Token
  position : Nat

/-- The cursor behind the token it is at, as long as it comes to an end token at most. -/
def Cursor.behind? (cursor : Cursor) : Option Cursor :=
  if cursor.position + 1 ≤ cursor.tokens.findIdx Token.isEnd then
    some { cursor with position := cursor.position + 1 }
  else none

/-- Steps of the parser. A step may trap, where an index, a counter or a bound is violated. -/
abbrev Parse (α : Type) := Machine Cursor ParseError α

namespace Parse

/-! ## Single tokens -/

/-- The token some places ahead. The index is clamped to the last token, the end. -/
def peekAhead (distance : Nat) : Parse Token := do
  let cursor ← get
  let last ← checked (decrement? cursor.tokens.length)
  checked cursor.tokens[min (cursor.position + distance) last]?

/-- The token at the cursor. -/
def peek : Parse Token := peekAhead 0

/-- Takes a token, unless it is an end token, which is only told. -/
def advance : Parse Token := do
  let token ← peek
  if token.isEnd then return token
  else
    let behind ← checked (← get).behind?
    set behind
    return token

/-- Fails at the token in front. -/
def fail {α : Type} (expected : Expectation) : Parse α := do
  let token ← peek
  throw (.expecting expected [token])

def peekKeyword : Parse (Option Keyword) := do
  return (← peek).keyword?

/-- Takes a token of this kind, if the cursor is at one. -/
def accept (kind : TokenKind) : Parse Bool := do
  if (← peek).kind = kind then
    let _ ← advance
    return true
  else return false

/-- Takes a token of this kind or fails. -/
def expect (kind : TokenKind) (expected : Expectation) : Parse Unit := do
  if ← accept kind then return () else fail expected

def acceptKeyword (keyword : Keyword) : Parse Bool := do
  if (← peek).isKeyword keyword then
    let _ ← advance
    return true
  else return false

/-- Takes a keyword that has been seen here; it is a trap if another token is found. -/
def takeKeyword (keyword : Keyword) : Parse Unit := do
  if ← acceptKeyword keyword then return () else checked none

/-- Looks one token further, without taking any. -/
def isAtPair (first second : Keyword) : Parse Bool := do
  if (← peek).isKeyword first then return (← peekAhead 1).isKeyword second else return false

/-- Takes two keywords, if they stand at the cursor one behind the other. -/
def acceptPair (first second : Keyword) : Parse Bool := do
  if ← isAtPair first second then
    let _ ← advance
    let _ ← advance
    return true
  else return false

/-- Takes a token that gives a name. -/
def identifier (expected : Expectation) : Parse String := do
  match (← peek).identifier? with
  | some name =>
      let _ ← advance
      return name
  | none => fail expected

/-! ## Loops -/

/-- Turns that have to take tokens. -/
def loop {α β : Type} (body : α → Parse (Turn α β)) : α → Parse β :=
  Checked.loop (fun cursor => cursor.tokens.length - cursor.position) body

/-- One semicolon, if there is one. -/
def skipSemicolonsTurn (_ : Unit) : Parse (Turn Unit Unit) := do
  if ← accept .semicolon then return .again () else return .leave ()

def skipSemicolons : Parse Unit := loop skipSemicolonsTurn ()

/-- The end of a run, whose texts are `before`. -/
def leaveRun {α : Type} (before : List String) (depth : Nat) : Parse (Turn α (List String)) :=
  if 0 < depth then fail .closing else return .leave before

/-- Takes a token for its text, at the depth behind it. -/
def takeText (before : List String) (depth : Nat) :
    Parse (Turn (List String × Nat) (List String)) := do
  let token ← advance
  return .again (before ++ [token.text], depth)

/-- One token of a run. Closing a parenthesis counts down the depth, which must not be zero. -/
def runTurn (inParens : Bool) (run : List String × Nat) :
    Parse (Turn (List String × Nat) (List String)) := do
  let (before, depth) := run
  match (← peek).kind with
  | .endOfInput | .semicolon => leaveRun before depth
  | .comma => if depth = 0 then leaveRun before depth else takeText before depth
  | .openParen => takeText before (depth + 1)
  | .closeParen =>
      if depth = 0 then
        if inParens then leaveRun before depth else fail .separatorOrEnd
      else takeText before (← checked (decrement? depth))
  | _ => takeText before depth

/-- The texts up to the end of a clause, or of a definition in parentheses. -/
def run (inParens : Bool) : Parse (List String) := loop (runTurn inParens) ([], 0)

/-- Passes over the rest of a clause. -/
def skipped (operation : Operation) : Parse Clause := do
  let _ ← run false
  return { operation }

/-! ## Definitions -/

/-- One more modifier, added to the name of the type. -/
def typeModifiersTurn (name : String) : Parse (Turn String String) := do
  if (← peekKeyword).any Keyword.isTypeModifier then
    let token ← advance
    return .again (name ++ " " ++ token.text)
  else return .leave name

/-- A type's name with the attributes that stand here. -/
def typeModifiers (name : String) : Parse String := loop typeModifiersTurn name

/-- One token of an argument, a comma, or the closing parenthesis. -/
def typeArgumentsTurn (read : List String × List String) :
    Parse (Turn (List String × List String) (List String)) := do
  let (arguments, current) := read
  match (← peek).kind with
  | .endOfInput => fail .closing
  | .openParen => fail .typeArgument
  | .closeParen =>
      let _ ← advance
      return .leave
        (if current.isEmpty then arguments else arguments ++ [" ".intercalate current])
  | .comma =>
      let _ ← advance
      return .again (arguments ++ [" ".intercalate current], [])
  | _ =>
      let token ← advance
      return .again (arguments, current ++ [token.text])

/-- Arguments up to a closing parenthesis. -/
def typeArguments : Parse (List String) := loop typeArgumentsTurn ([], [])

/-- The pair `CHARACTER SET` is looked for as a whole, then `CHARSET`. -/
def characterSet : Parse (Option String) := do
  if ← acceptPair .character .set then
    let name ← identifier .characterSet
    return some name
  else if ← acceptKeyword .charset then
    let name ← identifier .characterSet
    return some name
  else return none

def typeWord : Parse String := do
  if (← peek).kind = .word then return (← advance).text else fail .dataType

/-- The modifiers on both sides of the arguments become one name. -/
def dataType : Parse DataType := do
  let word ← typeWord
  let front ← typeModifiers word
  if ← accept .openParen then
    let arguments ← typeArguments
    let name ← typeModifiers front
    let characterSet ← characterSet
    return ⟨name, arguments, characterSet⟩
  else
    let characterSet ← characterSet
    return ⟨front, [], characterSet⟩

def definition (inParens : Bool) : Parse ColumnDefinition := do
  let name ← identifier .columnName
  let type ← dataType
  let specs ← run inParens
  return ⟨name, type, specs⟩

/-! ## Clauses -/

/-- A definition and what stands behind it in the list. -/
def definitionsTurn (before : List ColumnDefinition) :
    Parse (Turn (List ColumnDefinition) (List ColumnDefinition)) := do
  let next ← definition true
  if ← accept .comma then return .again (before ++ [next])
  else
    expect .closeParen .separatorOrClosing
    return .leave (before ++ [next])

def addedDefinitions : Parse (List ColumnDefinition) := do
  if ← accept .openParen then loop definitionsTurn []
  else
    let only ← definition false
    return [only]

/-- `COLUMN` has been taken already, or was not there. -/
def addedColumns : Parse Clause := do
  let definitions ← addedDefinitions
  return { operation := .add, column := definitions.head?.map (·.name), definitions }

/-- `COLUMN` is looked for before an object is. -/
def addClause : Parse Clause := do
  if ← acceptKeyword .column then addedColumns
  else
    match (← peekKeyword).bind addedObject? with
    | some operation => skipped operation
    | none => addedColumns

def acceptDropBehaviour : Parse Unit := do
  if isDropBehaviour (← peek) then
    let _ ← advance
    return ()
  else return ()

def droppedColumn : Parse Clause := do
  let _ ← acceptPair .ifWord .existsWord
  let column ← identifier .columnName
  acceptDropBehaviour
  return { operation := .drop, column }

/-- As for `ADD`, `COLUMN` is looked for first. -/
def dropClause : Parse Clause := do
  if ← acceptKeyword .column then droppedColumn
  else
    match (← peekKeyword).bind droppedObject? with
    | some operation => skipped operation
    | none => droppedColumn

def changeClause : Parse Clause := do
  let _ ← acceptKeyword .column
  let oldColumn ← identifier .columnName
  let new ← definition false
  return { operation := .change, column := new.name, oldColumn, definitions := [new] }

/-- A dot and the part of a table name behind it. -/
def partsTurn (before : List String) : Parse (Turn (List String) (List String)) := do
  if ← accept .dot then
    let part ← identifier .tableName
    return .again (before ++ [part])
  else return .leave before

def tableName : Parse TableName := do
  let first ← identifier .tableName
  let parts ← loop partsTurn [first]
  return ⟨parts⟩

def renamedTo (oldColumn : String) : Parse Clause := do
  let column ← identifier .columnName
  return { operation := .rename, column, oldColumn }

def renamedColumn : Parse Clause := do
  let oldColumn ← identifier .columnName
  if ← acceptKeyword .toWord then renamedTo oldColumn else fail .renameTarget

def acceptToOrAs : Parse Bool := do
  if ← acceptKeyword .toWord then return true else acceptKeyword .asWord

/-- A rename without `COLUMN`, whose target is known only behind the name. -/
def renamedTable : Parse Clause := do
  let _ ← acceptToOrAs
  let name ← tableName
  if ← acceptKeyword .toWord then renamedTo name.text else return { operation := .renameTable }

def renameClause : Parse Clause := do
  if ← acceptKeyword .column then renamedColumn
  else
    match ← peekKeyword with
    | some .index | some .key => skipped (.other "RENAME INDEX")
    | _ => renamedTable

def modifyClause : Parse Clause := do
  let _ ← acceptKeyword .column
  let new ← definition false
  return { operation := .modify, column := new.name, definitions := [new] }

def alterColumnClause : Parse Clause := do
  let _ ← acceptKeyword .column
  let column ← identifier .columnName
  let _ ← run false
  return { operation := .alterColumn, column }

/-- What a clause does is decided by its first word. -/
def clauseBehind (word : Token) : Parse Clause :=
  match word.keyword? with
  | some .add => addClause
  | some .drop => dropClause
  | some .change => changeClause
  | some .rename => renameClause
  | some .modify => modifyClause
  | some .alter => alterColumnClause
  | _ => skipped (.other word.text.toUpper)

/-- Takes the first word of a clause, and goes on by it. -/
def clause : Parse Clause := do
  let token ← peek
  if token.kind = .word then
    let _ ← advance
    clauseBehind token
  else fail .alteration

/-! ## Statements -/

/-- A clause, and whether another one follows. -/
def clausesTurn (before : List Clause) : Parse (Turn (List Clause) (List Clause)) := do
  let next ← clause
  if ← accept .comma then return .again (before ++ [next]) else return .leave (before ++ [next])

def alterTable : Parse AlterTable := do
  takeKeyword .alter
  takeKeyword .table
  let ifExists ← acceptPair .ifWord .existsWord
  let table ← tableName
  let clauses ← loop clausesTurn []
  skipSemicolons
  if (← peek).isEnd then return ⟨table, ifExists, clauses⟩ else fail .separatorOrEnd

/-- The leading keywords decide whether the rest is read. -/
def statement : Parse Statement := do
  skipSemicolons
  let first ← peek
  if first.isEnd then throw .empty
  else if ← isAtPair .alter .table then
    let statement ← alterTable
    return .alterTable statement
  else return .other first.text.toUpper

end Parse

/-- The tokens with an end token behind them, unless the last one is. -/
def withEnd (tokens : List Token) : List Token :=
  match tokens.getLast? with
  | none => [⟨.endOfInput, ⟨0, 0, 0, 0⟩, ""⟩]
  | some last =>
      if last.isEnd then tokens
      else tokens ++ [⟨.endOfInput, ⟨last.span.stop, last.span.stop, last.span.line,
        last.span.column⟩, ""⟩]

/-- The statement that a list of tokens spells, or its error, unless the machine traps. -/
def statement? (tokens : List Token) : Option (Except ParseError Statement) :=
  result? Parse.statement ⟨withEnd tokens, 0⟩

end AlterRelay.Checked
