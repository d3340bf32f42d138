/-
# AlterRelay.Proofs.Sql.Placeless — what a statement means does not depend on places

Tokens that differ in their places alone are alike (`Likeness.inPlace`), so the
same lexemes spell the same statement, or the same error at another place
(`ofTokens_of_lexemes`). The meaning of a source depends on its lexemes only, and
can be read off them (`parse_of_cutInto`).
-/
import AlterRelay.Proofs.Sql.Cutting
import AlterRelay.Proofs.Sql.Likeness

namespace AlterRelay.Sql

set_option autoImplicit false

/-! ## Errors without their places -/

def LexError.unplaced (error : LexError) : LexError := { error with line := 0, column := 0 }

/-- An error without its line and column. -/
def ParseError.unplaced : ParseError → ParseError
  | .lex error => .lex error.unplaced
  | .unexpectedToken found expected _ _ => .unexpectedToken found expected 0 0
  | .unexpectedEnd expected => .unexpectedEnd expected
  | .empty => .empty

/-! ## Tokens at other places -/

namespace Likeness

/-- Tokens that differ in their places alone. -/
def inPlace : Likeness where
  Text := Eq
  Place _ _ := True
  same _ := rfl
  joined := by
    rintro a _ c _ rfl rfl
    rfl
  upper same := congrArg String.toUpper same

theorem inPlace_tokens {a b : Token} (same : a.lexeme = b.lexeme) : inPlace.Tokens a b where
  kind := congrArg Lexeme.kind same
  text := String.toList_injective (congrArg Lexeme.raw same)
  place := trivial

theorem forall₂_inPlace {tokens tokens' : List Token}
    (same : tokens.map Token.lexeme = tokens'.map Token.lexeme) :
    List.Forall₂ inPlace.Tokens tokens tokens' := by
  rw [← List.forall₂_eq_eq_eq, List.forall₂_map_left_iff, List.forall₂_map_right_iff] at same
  exact same.imp fun _ _ => inPlace_tokens

/-- Lists of values that are alike are equal, if the values are. -/
theorem eq_of_forall₂ {α : Type} {related : α → α → Prop} (same : ∀ {a b}, related a b → a = b)
    {values values' : List α} (alike : List.Forall₂ related values values') : values = values' :=
  List.forall₂_eq_eq_eq ▸ alike.imp fun _ _ => same

theorem Named.eq {name name' : Option String} (alike : inPlace.Named name name') :
    name = name' := by
  cases alike with
  | none => rfl
  | some same => exact congrArg some same

theorem Types.eq {a b : DataType} (alike : inPlace.Types a b) : a = b := by
  cases a
  cases b
  congr
  · exact alike.name
  · exact eq_of_forall₂ id alike.arguments
  · exact Named.eq alike.characterSet

theorem Definitions.eq {a b : ColumnDefinition} (alike : inPlace.Definitions a b) : a = b := by
  cases a
  cases b
  congr
  · exact alike.name
  · exact alike.type.eq
  · exact eq_of_forall₂ id alike.specs

theorem Clauses.eq {a b : Clause} (alike : inPlace.Clauses a b) : a = b := by
  cases a
  cases b
  congr
  · exact alike.operation
  · exact Named.eq alike.column
  · exact Named.eq alike.oldColumn
  · exact eq_of_forall₂ Definitions.eq alike.definitions

theorem Statements.eq {a b : Statement} (alike : inPlace.Statements a b) : a = b := by
  cases alike with
  | other => rfl
  | @alterTable a b alike =>
      obtain ⟨⟨parts⟩, ifExists, clauses⟩ := a
      obtain ⟨⟨parts'⟩, ifExists', clauses'⟩ := b
      congr
      · exact eq_of_forall₂ id alike.table
      · exact alike.ifExists
      · exact eq_of_forall₂ Clauses.eq alike.clauses

theorem Errors.unplaced_eq {a b : ParseError} (alike : inPlace.Errors a b) :
    a.unplaced = b.unplaced := by
  cases alike with
  | unexpectedToken tokens expected =>
      exact congrArg (ParseError.unexpectedToken · expected 0 0) tokens.text
  | unexpectedEnd => rfl
  | empty => rfl

end Likeness

/-- Tokens with the same lexemes spell the same, but for the place of an error. -/
theorem ofTokens_of_lexemes {tokens tokens' : List Token}
    (same : tokens.map Token.lexeme = tokens'.map Token.lexeme) :
    (Statement.ofTokens tokens).mapError ParseError.unplaced =
      (Statement.ofTokens tokens').mapError ParseError.unplaced := by
  have spelt := Likeness.ofTokens_alike (Likeness.forall₂_inPlace same)
  generalize Statement.ofTokens tokens = read at spelt
  generalize Statement.ofTokens tokens' = read' at spelt
  cases spelt with
  | ok alike => exact congrArg Except.ok alike.eq
  | error alike => exact congrArg Except.error alike.unplaced_eq

/-! ## Texts -/

theorem toOption_eq_some {ε α : Type} {result : Except ε α} {value : α} :
    result.toOption = some value ↔ result = .ok value := by
  cases result <;> simp [Except.toOption]

theorem toOption_mapError {ε ε' α : Type} (weaken : ε → ε') (result : Except ε α) :
    (result.mapError weaken).toOption = result.toOption := by
  cases result <;> rfl

/-- Values are the same, whatever of an error is forgotten. -/
theorem eq_ok_of_mapError {ε ε' α : Type} {weaken : ε → ε'} {result : Except ε α} {value : α}
    (read : result.mapError weaken = .ok value) : result = .ok value := by
  rw [← toOption_eq_some, ← toOption_mapError weaken, read]
  rfl

/-- Of an error, what is not forgotten is the same. -/
theorem eq_error_of_mapError {ε ε' α : Type} {weaken : ε → ε'} {result : Except ε α} {told : ε'}
    (read : result.mapError weaken = .error told) :
    ∃ error, result = .error error ∧ weaken error = told := by
  cases result with
  | ok value => cases read
  | error error => exact ⟨error, rfl, Except.error.inj read⟩

/-- The token that a lexeme makes, without a place. -/
def Lexeme.token (lexeme : Lexeme) : Token :=
  ⟨lexeme.kind, ⟨0, 0, 0, 0⟩, String.ofList lexeme.raw⟩

theorem Lexeme.lexeme_token (lexeme : Lexeme) : lexeme.token.lexeme = lexeme := by
  simp [Lexeme.token, Token.lexeme]

/-- The token without its place. -/
def Token.bare (token : Token) : Token := { token with span := ⟨0, 0, 0, 0⟩ }

theorem Token.bare_eq (token : Token) : token.bare = token.lexeme.token := by
  simp [Token.bare, Token.lexeme, Lexeme.token]

theorem map_lexeme_token (tokens : List Token) :
    (tokens.map Token.lexeme).map Lexeme.token = tokens.map Token.bare := by
  rw [List.map_map]
  exact List.map_congr_left fun token _ => token.bare_eq.symm

/-- The end of the input, without a place. -/
def Token.finish : Token := ⟨.endOfInput, ⟨0, 0, 0, 0⟩, ""⟩

/-- What a text spells can be read off its lexemes, but for the place of an error. -/
theorem parse_unplaced {source : String} {lexemes : List Lexeme}
    (cut : CutInto source.toList lexemes) :
    (Statement.parse source).mapError ParseError.unplaced =
      (Statement.ofTokens (lexemes.map Lexeme.token ++ [Token.finish])).mapError
        ParseError.unplaced := by
  obtain ⟨tokens, final, lexed, rfl⟩ := cutInto_iff_tokenize.mp cut
  have same : (tokens ++ [Token.endAt final]).map Token.lexeme =
      ((tokens.map Token.lexeme).map Lexeme.token ++ [Token.finish]).map Token.lexeme := by
    have again : ((tokens.map Token.lexeme).map Lexeme.token).map Token.lexeme =
        tokens.map Token.lexeme := by
      rw [List.map_map]
      exact List.map_id'' Lexeme.lexeme_token _
    rw [List.map_append, List.map_append, again]
    rfl
  rw [Statement.parse, lexed]
  exact ofTokens_of_lexemes same

theorem parse_of_cutInto {source : String} {lexemes : List Lexeme}
    (cut : CutInto source.toList lexemes) :
    (Statement.parse source).toOption =
      (Statement.ofTokens (lexemes.map Lexeme.token ++ [Token.finish])).toOption := by
  rw [← toOption_mapError ParseError.unplaced, parse_unplaced cut, toOption_mapError]

end AlterRelay.Sql
