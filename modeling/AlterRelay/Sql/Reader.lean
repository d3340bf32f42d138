/-
# AlterRelay.Sql.Reader — reading tokens from the front

A reader takes tokens off the front of a list and gives a result, or tells what
it expected instead of the token it met. The input ends at the first end token,
or where the list ends: a reader never takes an end token, so nothing behind it
is ever seen.

`Shrinks` says that a reader leaves a suffix of what it was given. It holds of
every primitive here and is kept by sequencing, which is what makes the loops
over clauses and definitions end.
-/
import AlterRelay.Sql.Source

namespace AlterRelay.Sql

set_option autoImplicit false

/-! ## Errors -/

/-- What would have let the reading go on. -/
inductive Expectation where
  | tableName
  | columnName
  | dataType
  | characterSet
  | alteration
  | renameTarget
  | typeArgument
  | closing
  | separatorOrClosing
  | separatorOrEnd
  deriving DecidableEq, Repr

/-- How an expectation is spoken of in an error. -/
def Expectation.text : Expectation → String
  | tableName => "table name"
  | columnName => "column name"
  | dataType => "data type"
  | characterSet => "character set"
  | alteration => "alter operation"
  | renameTarget => "TO"
  | typeArgument => "type argument"
  | closing => "')'"
  | separatorOrClosing => "',' or ')'"
  | separatorOrEnd => "',' or end of statement"

/-- Why a source is refused: at a token, at the end of the input, or before there are tokens. -/
inductive ParseError where
  | lex (error : LexError)
  | unexpectedToken (found : String) (expected : Expectation) (line column : Nat)
  | unexpectedEnd (expected : Expectation)
  | empty
  deriving DecidableEq, Repr

def ParseError.message : ParseError → String
  | lex error => "lexer error: " ++ error.message
  | unexpectedToken found expected line column =>
      "unexpected '" ++ found ++ "' at " ++ toString line ++ ":" ++ toString column ++
        ", expected " ++ expected.text
  | unexpectedEnd expected => "unexpected end of input, expected " ++ expected.text
  | empty => "empty statement"

/-- The error at the front of the remaining tokens. -/
def ParseError.expecting (expected : Expectation) : List Token → ParseError
  | [] => .unexpectedEnd expected
  | token :: _ =>
      if token.isEnd then .unexpectedEnd expected
      else .unexpectedToken token.text expected token.span.line token.span.column

/-! ## Readers -/

/-- Steps of the parser. The state is what is left of the tokens. -/
abbrev Reader (α : Type) := StateT (List Token) (Except ParseError) α

namespace Reader

variable {α β : Type}

/-- Fails at the token in front. -/
def fail (expected : Expectation) : Reader α :=
  fun tokens => .error (.expecting expected tokens)

/-- The keyword at the front, which stays there. -/
def peekKeyword : Reader (Option Keyword) :=
  fun tokens => .ok (tokens.head?.bind Token.keyword?, tokens)

/-- Whether the token in front is of this kind. -/
def beginsWith (kind : TokenKind) : List Token → Bool
  | [] => false
  | token :: _ => token.kind == kind

/-- Takes a token of this kind, if one stands at the front. -/
def accept (kind : TokenKind) : Reader Bool :=
  fun tokens => .ok (if beginsWith kind tokens then (true, tokens.tail) else (false, tokens))

/-- What stands behind these keywords, if they stand in front one behind the other. -/
def afterKeywords? : List Keyword → List Token → Option (List Token)
  | [], tokens => some tokens
  | _ :: _, [] => none
  | keyword :: more, token :: tokens =>
      if token.isKeyword keyword then afterKeywords? more tokens else none

/-- Takes these keywords, if all of them stand at the front in this order. -/
def acceptKeywords (keywords : List Keyword) : Reader Bool :=
  fun tokens =>
    match afterKeywords? keywords tokens with
    | some rest => .ok (true, rest)
    | none => .ok (false, tokens)

def acceptKeyword (keyword : Keyword) : Reader Bool := acceptKeywords [keyword]

/-- Takes a token that gives a name. -/
def identifier (expected : Expectation) : Reader String :=
  fun tokens =>
    match tokens with
    | [] => .error (.expecting expected [])
    | token :: rest =>
        match token.identifier? with
        | some name => .ok (name, rest)
        | none => .error (.expecting expected (token :: rest))

/-! ## What is left is a suffix -/

/-- What a reader leaves is the tail end of what there was. -/
def Shrinks (reader : Reader α) : Prop :=
  ∀ ⦃tokens rest : List Token⦄ ⦃value : α⦄, reader tokens = .ok (value, rest) → rest <:+ tokens

/-- Two readers succeed in sequence if the second does behind the first. -/
theorem bind_eq_ok {reader : Reader α} {next : α → Reader β} {tokens rest : List Token}
    {value : β} :
    (reader >>= next) tokens = .ok (value, rest) ↔
      ∃ first behind, reader tokens = .ok (first, behind) ∧
        next first behind = .ok (value, rest) := by
  change (reader tokens >>= fun p => next p.1 p.2) = _ ↔ _
  cases reader tokens with
  | error e => simp [bind, Except.bind]
  | ok p => simp [bind, Except.bind, Prod.ext_iff, and_assoc]

theorem pure_eq_ok {value result : α} {tokens rest : List Token} :
    (pure value : Reader α) tokens = .ok (result, rest) ↔ value = result ∧ tokens = rest := by
  constructor
  · intro same
    cases same
    exact ⟨rfl, rfl⟩
  · rintro ⟨rfl, rfl⟩
    rfl

theorem Shrinks.pure (value : α) : Shrinks (Pure.pure value : Reader α) := by
  intro tokens rest result taken
  obtain ⟨_, rfl⟩ := pure_eq_ok.mp taken
  exact List.suffix_refl _

/-- A tail end of a tail end is one too. -/
theorem Shrinks.bind {reader : Reader α} {next : α → Reader β} (first : Shrinks reader)
    (second : ∀ value, Shrinks (next value)) : Shrinks (reader >>= next) := by
  intro tokens rest value taken
  obtain ⟨middle, behind, taken, taken'⟩ := bind_eq_ok.mp taken
  exact (second middle taken').trans (first taken)

theorem Shrinks.ite {condition : Prop} [Decidable condition] {first second : Reader α}
    (yes : Shrinks first) (no : Shrinks second) :
    Shrinks (if condition then first else second) := by
  split
  · exact yes
  · exact no

theorem fail_shrinks (expected : Expectation) : Shrinks (fail expected : Reader α) := by
  intro tokens rest value taken
  cases taken

theorem peekKeyword_shrinks : Shrinks peekKeyword := by
  intro tokens rest value taken
  cases taken
  exact List.suffix_refl _

theorem accept_shrinks (kind : TokenKind) : Shrinks (accept kind) := by
  intro tokens rest value taken
  unfold accept at taken
  split at taken
  · cases taken
    exact List.tail_suffix tokens
  · cases taken
    exact List.suffix_refl _

/-- Keywords are taken off the front. -/
theorem afterKeywords?_suffix {keywords : List Keyword} {tokens rest : List Token}
    (found : afterKeywords? keywords tokens = some rest) : rest <:+ tokens := by
  fun_induction afterKeywords? keywords tokens with
  | case1 tokens =>
      cases found
      exact List.suffix_refl _
  | case2 => cases found
  | case3 keyword more token tokens _ ih => exact (ih found).trans (List.suffix_cons token tokens)
  | case4 => cases found

theorem acceptKeywords_shrinks (keywords : List Keyword) : Shrinks (acceptKeywords keywords) := by
  intro tokens rest value taken
  unfold acceptKeywords at taken
  split at taken
  · rename_i found
    cases taken
    exact afterKeywords?_suffix found
  · cases taken
    exact List.suffix_refl _

theorem acceptKeyword_shrinks (keyword : Keyword) : Shrinks (acceptKeyword keyword) :=
  acceptKeywords_shrinks [keyword]

theorem identifier_shrinks (expected : Expectation) : Shrinks (identifier expected) := by
  intro tokens rest value taken
  unfold identifier at taken
  split at taken
  · cases taken
  · split at taken
    · cases taken
      exact List.suffix_cons _ _
    · cases taken

end Reader

end AlterRelay.Sql
