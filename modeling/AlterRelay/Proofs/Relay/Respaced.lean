/-
# AlterRelay.Proofs.Relay.Respaced — blanks and comments mean nothing

A source may be written with other blanks and comments between its tokens
(`respaced`). It keeps its tokens, so it is read as the same statement, or refused
with the same error at another place, and whatever it is relayed to, it is relayed
to the same (`relay_respaced`). Only a notice that quotes the error of a source
tells its line and column.
-/
import AlterRelay.Proofs.Sql.Respacing
import AlterRelay.Relay.Run

namespace AlterRelay.Relay

open AlterRelay.Source
open AlterRelay.Sql

set_option autoImplicit false

/-! ## The same result, but for places -/

/-- The same notice, but for the line and column in it. -/
inductive Notice.SameButPlace : Notice → Notice → Prop where
  | same (notice : Notice) : SameButPlace notice notice
  | syntaxError {error error' : ParseError} (same : error.unplaced = error'.unplaced) :
      SameButPlace (.syntaxError error.message) (.syntaxError error'.message)

structure Outcome.SameButPlaces (outcome outcome' : Outcome) : Prop where
  statements : outcome.statements = outcome'.statements
  notices : List.Forall₂ Notice.SameButPlace outcome.notices outcome'.notices

/-- The same error, or the same outcome but for places. -/
inductive SameResult : Except RelayError Outcome → Except RelayError Outcome → Prop where
  | error (error : RelayError) : SameResult (.error error) (.error error)
  | ok {outcome outcome' : Outcome} (same : outcome.SameButPlaces outcome') :
      SameResult (.ok outcome) (.ok outcome')

theorem SameResult.refl (result : Except RelayError Outcome) : SameResult result result := by
  cases result with
  | error error => exact .error error
  | ok outcome => exact .ok ⟨rfl, List.forall₂_same.mpr fun notice _ => .same notice⟩

/-- Sources that are read alike are relayed alike. -/
theorem sameResult_of_parse {source source' : String}
    (read : (Statement.parse source).mapError ParseError.unplaced =
      (Statement.parse source').mapError ParseError.unplaced)
    (resolver : TypeResolver) (config : Config) (connector : Connector) (table : String) :
    SameResult (Engine.relay { resolver, config } connector source table)
      (Engine.relay { resolver, config } connector source' table) := by
  unfold Engine.relay Engine.run
  dsimp only
  generalize Statement.parse source = first at read
  generalize Statement.parse source' = second at read
  cases first with
  | error error =>
      cases second with
      | error error' =>
          have same : error.unplaced = error'.unplaced := Except.error.inj read
          exact .ok ⟨rfl, .cons (.syntaxError same) .nil⟩
      | ok statement => cases read
  | ok statement =>
      cases second with
      | error error => cases read
      | ok statement' =>
          obtain rfl : statement = statement' := Except.ok.inj read
          exact SameResult.refl _

/-! ## Other trivia -/

/-- A source with other blanks and comments between its tokens has the same tokens, is read as
the same statement or refused with the same error, and gives the same result, but for places. -/
theorem relay_respaced {source : String} {tokens : List Token} {ending : Token}
    (lexed : tokenize source = .ok (tokens ++ [ending])) {lead : String}
    {separators : List String} (leads : IsTrivia tokens.isEmpty lead.toList)
    (each : separators.length = tokens.length)
    (separates : ∀ separator ∈ separators, IsSeparator separator.toList) :
    (∃ again, tokenize (respaced lead tokens separators) = .ok again ∧
        again.map Token.lexeme = (tokens ++ [ending]).map Token.lexeme) ∧
      (Statement.parse (respaced lead tokens separators)).mapError ParseError.unplaced =
        (Statement.parse source).mapError ParseError.unplaced ∧
      ∀ (resolver : TypeResolver) (config : Config) (connector : Connector) (table : String),
        SameResult
          (Engine.relay { resolver, config } connector (respaced lead tokens separators) table)
          (Engine.relay { resolver, config } connector source table) := by
  obtain ⟨again, lexed', same⟩ := tokenize_respaced lexed leads each separates
  have read : (Statement.parse (respaced lead tokens separators)).mapError ParseError.unplaced =
      (Statement.parse source).mapError ParseError.unplaced := by
    unfold Statement.parse
    rw [lexed', lexed]
    exact ofTokens_of_lexemes same
  exact ⟨⟨again, lexed', same⟩, read, sameResult_of_parse read⟩

/-- A source with an operator where its clause should end. -/
def crampedSource : String := "ALTER TABLE t DROP a-b"

def crampedTokens : List Token := ((tokenize crampedSource).toOption.getD []).dropLast

def commentedSeparators : List String := [" ", " ", "\n", " ", " -- '\n", " ", "\t"]

theorem relay_respaced_commented :
    tokenize crampedSource = .ok (crampedTokens ++ [Token.endAt ⟨22, 1, 23⟩]) ∧
      respaced "#-\n/*\"*/" crampedTokens commentedSeparators =
        "#-\n/*\"*/ALTER TABLE t\nDROP a -- '\n- b\t" ∧
      Statement.parse crampedSource = .error (.unexpectedToken "-" .separatorOrEnd 1 21) ∧
      Statement.parse (respaced "#-\n/*\"*/" crampedTokens commentedSeparators) =
        .error (.unexpectedToken "-" .separatorOrEnd 4 1) ∧
      SameResult
        (Engine.relay {} .mysql (respaced "#-\n/*\"*/" crampedTokens commentedSeparators) "t")
        (Engine.relay {} .mysql crampedSource "t") := by
  have lexed : tokenize crampedSource = .ok (crampedTokens ++ [Token.endAt ⟨22, 1, 23⟩]) := by
    decide +kernel
  have empty : crampedTokens.isEmpty = false := by decide +kernel
  have comment : IsTrivia false ['/', '*', '"', '*', '/'] :=
    @IsTrivia.block false ['"'] [] (by decide) .nil
  have leads : IsTrivia false "#-\n/*\"*/".toList :=
    @IsTrivia.line false ['#'] ['-'] _ (by decide) (by decide) (.inl rfl)
      (.blank (by decide) comment)
  have separates : ∀ separator ∈ commentedSeparators, IsSeparator separator.toList := by
    have ended : IsTrivia false ['-', '-', ' ', '\'', '\n'] :=
      @IsTrivia.line false ['-', '-'] [' ', '\''] _ (by decide) (by decide) (.inl rfl)
        (.blank (by decide) .nil)
    intro separator member
    simp only [commentedSeparators, List.mem_cons, List.not_mem_nil, or_false] at member
    rcases member with rfl | rfl | rfl | rfl | rfl | rfl | rfl
    case inr.inr.inr.inr.inl => exact ⟨' ', _, rfl, by decide, ended⟩
    all_goals exact ⟨_, [], rfl, by decide, .nil⟩
  have same := relay_respaced lexed (empty ▸ leads) (by decide +kernel) separates
  refine ⟨lexed, by decide +kernel, by decide +kernel, by decide +kernel, ?_⟩
  exact same.2.2 TypeResolver.doris {} .mysql "t"

end AlterRelay.Relay
