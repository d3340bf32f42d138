/-
# AlterRelay.Sql.StatementReader — reading one statement

Semicolons in front are passed over. `ALTER TABLE` is read to the end of the
input, where semicolons may stand again; any other statement is known by its
first token alone. Tokens that hold nothing else are an empty statement.
-/
import AlterRelay.Sql.ClauseReader

namespace AlterRelay.Sql

set_option autoImplicit false

namespace Reader

/-- Clauses separated by commas, at least one. -/
def clausesFrom (tokens : List Token) : Except ParseError (List Clause × List Token) :=
  match _taken : clause tokens with
  | .error error => .error error
  | .ok (first, []) => .ok ([first], [])
  | .ok (first, token :: rest) =>
      if token.kind = .comma then
        match clausesFrom rest with
        | .error error => .error error
        | .ok (more, behind) => .ok (first :: more, behind)
      else .ok ([first], token :: rest)
termination_by tokens.length
decreasing_by
  have := (clause_shrinks ‹_›).length_le
  simp only [List.length_cons] at this
  omega

def skipSemicolons (tokens : List Token) : List Token :=
  tokens.dropWhile fun token => token.kind == .semicolon

def atEnd : List Token → Bool
  | [] => true
  | token :: _ => token.isEnd

def endOfStatement : Reader Unit :=
  fun tokens =>
    let rest := skipSemicolons tokens
    if atEnd rest then .ok ((), rest) else .error (.expecting .separatorOrEnd rest)

/-- What stands behind `ALTER TABLE`. -/
def alterTable : Reader AlterTable := do
  let ifExists ← ifExists
  let table ← tableName
  let clauses ← clausesFrom
  endOfStatement
  pure ⟨table, ifExists, clauses⟩

end Reader

/-- The statement that a list of tokens spells. -/
def Statement.ofTokens (tokens : List Token) : Except ParseError Statement :=
  match Reader.skipSemicolons tokens with
  | [] => .error .empty
  | first :: rest =>
      if first.isEnd then .error .empty
      else
        match Reader.afterKeywords? [.alter, .table] (first :: rest) with
        | some behind => (Reader.alterTable behind).map fun read => .alterTable read.1
        | none => .ok (.other first.text.toUpper)

/-- The statement that a source text spells. -/
def Statement.parse (source : String) : Except ParseError Statement :=
  match tokenize source with
  | .error error => .error (.lex error)
  | .ok tokens => Statement.ofTokens tokens

end AlterRelay.Sql
