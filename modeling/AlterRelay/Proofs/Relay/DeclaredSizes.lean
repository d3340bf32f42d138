/-
# AlterRelay.Proofs.Relay.DeclaredSizes — declared sizes reach the resolver

A column may be added anywhere in a statement, in a type that is written with
arguments, with empty parentheses or with none. The sizes that the arguments declare
are what the resolver is asked with, or the addition is refused for the argument that
is no numeral (`relay_declaredSizes`). Nothing is lost on the way: no token of an
argument, no digit of a numeral, and no argument in front of the one that is told.

The source decides about the type alone. Whether the statement can be read at all
depends on what stands behind it, and not on the arguments.
-/
import AlterRelay.Proofs.Column.DeclaredSizes
import AlterRelay.Proofs.Relay.Accounting
import AlterRelay.Proofs.Sql.Placeless
import AlterRelay.Proofs.Sql.SizedAddition
import AlterRelay.Proofs.Sql.TokenText

namespace AlterRelay.Relay

open AlterRelay.Column
open AlterRelay.Source
open AlterRelay.Sql
open AlterRelay.Text

set_option autoImplicit false

/-! ## Additions -/

/-- The type that a column is added with, if its arguments declare these sizes. -/
def declaredType (resolver : TypeResolver) (connector : Connector) (definition : ColumnDefinition) :
    Except String TypeSizes → Except RelayError String
  | .error argument => .error (.malformedNumericArgument definition.name argument)
  | .ok sizes =>
      match resolver connector definition.type.name sizes.length sizes.scale with
      | .error cause => .error (.typeResolution definition.name cause)
      | .ok type => .ok type

theorem targetType_eq (resolver : TypeResolver) (connector : Connector)
    (definition : ColumnDefinition) :
    targetType resolver connector definition =
      declaredType resolver connector definition
        (TypeSizes.ofArguments definition.type.arguments) := by
  unfold targetType sizesOf
  cases TypeSizes.ofArguments definition.type.arguments with
  | error argument => rfl
  | ok sizes =>
      simp only [declaredType, bind, Except.bind, pure, Except.pure]
      cases resolver connector definition.type.name sizes.length sizes.scale <;> rfl

/-- What an addition gives, with the column in its type. -/
def Engine.addition (engine : Engine) (table : String) (first : ColumnDefinition)
    (more : List ColumnDefinition) (type : String) : Outcome where
  statements := [engine.written table (.addColumn (newColumn first type))]
  notices := surplusNotices first more ++
    (danglingNotices first .defaultValue ++ danglingNotices first .comment)

theorem outcome_of_addition {engine : Engine} {connector : Connector} {clause : Clause}
    {first : ColumnDefinition} {more : List ColumnDefinition} (adds : clause.operation = .add)
    (defined : clause.definitions = first :: more) (source table : String) :
    (engine.clauseRun connector clause).outcome (engine.telling source table) =
      (targetType engine.resolver connector first).map (engine.addition table first more) := by
  cases typed : targetType engine.resolver connector first with
  | error error =>
      have untyped := targetType_eq_error_iff.mp typed
      exact (outcome_eq_error_iff _).mpr (.untyped adds defined untyped)
  | ok type => exact (Accounted.added adds defined typed).outcome source

/-! ## Statements -/

/-- One outcome among others, which are taken in their order. -/
theorem joined_around (outcome : Clause → Except RelayError Outcome) (front behind : List Clause)
    (clause : Clause) :
    ((front ++ clause :: behind).mapM outcome).map Outcome.joined =
      (do
        let earlier ← front.mapM outcome
        let here ← outcome clause
        let others ← behind.mapM outcome
        pure (Outcome.joined (earlier ++ here :: others))) := by
  show Outcome.joined <$> (front ++ clause :: behind).mapM outcome = _
  rw [List.mapM_append, List.mapM_cons]
  simp only [map_eq_pure_bind, bind_assoc, pure_bind]

theorem declares_written (type : WrittenType) :
    Declares type.arguments (TypeSizes.ofArguments type.arguments) :=
  .ofArguments (List.forall_mem_map.mpr fun form _ => form.trimBlank_text)

/-- A statement that adds a column gives what the clauses in front of it give, then the column,
then what the clauses behind it give. The resolver is asked with the sizes that the arguments of
the written type declare, or the addition is refused for the one that is no numeral. Only what
stands behind the type can make the statement unreadable. -/
theorem relay_declaredSizes (front : AdditionFront) (alone : front.column.listed.getD [] = [])
    (type : WrittenType) {rest : List Lexeme}
    (ends : type.EndsAt (rest.map Lexeme.token ++ [Token.finish])) {source : String}
    (cut : CutInto source.toList (front.lexemes ++ (type.lexemes ++ rest))) :
    (∃ declared, Declares type.arguments declared) ∧
      ∀ (resolver : TypeResolver) (config : Config) (connector : Connector) (table : String),
        let engine : Engine := { resolver, config }
        let outcome := fun clause =>
          (engine.clauseRun connector clause).outcome (engine.telling source table)
        let read := Reader.behindType front.column.listed.isSome
          (rest.map Lexeme.token ++ [Token.finish])
        (∀ error, read = .error error →
          ∃ error' : ParseError, error'.unplaced = error.unplaced ∧
            engine.relay connector source table = .ok ⟨[], [.syntaxError error'.message]⟩) ∧
        ∀ behind final, read = .ok (behind, final) →
          ∀ declared, Declares type.arguments declared →
            let column := behind.definition front.column.name.name type
            engine.relay connector source table = (do
              let earlier ← (front.clauses.map Whole.value).mapM outcome
              let here ← (declaredType resolver connector column declared).map
                (engine.addition table column behind.definitions)
              let others ← behind.clauses.mapM outcome
              pure (Outcome.joined (earlier ++ here :: others))) := by
  have declares := declares_written type
  refine ⟨⟨_, declares⟩, ?_⟩
  intro resolver config connector table engine outcome read
  have spelt := parse_unplaced cut
  simp only [List.map_append, List.append_assoc] at spelt
  rw [ofTokens_sized front alone type ends] at spelt
  constructor
  -- What stands behind the type cannot be read, so the statement is not read either.
  · intro error refused
    rw [show Reader.behindType _ _ = .error error from refused] at spelt
    obtain ⟨error', parsed, same⟩ := eq_error_of_mapError spelt
    refine ⟨error', same, ?_⟩
    rw [Engine.relay, Engine.run, show engine.read source = .error error' from parsed]
    rfl
  · intro behind final taken declared declares' column
    rw [show Reader.behindType _ _ = .ok (behind, final) from taken] at spelt
    have parsed : Statement.parse source = .ok (.alterTable ⟨⟨front.names.map NameForm.name⟩,
        front.ifExists.isSome, front.clauses.map Whole.value ++
          behind.addition front.column.name.name type :: behind.clauses⟩) :=
      eq_ok_of_mapError spelt
    -- Sizes are declared uniquely, so `declared` is what the type was shown to declare.
    have here : outcome (behind.addition front.column.name.name type) =
        (declaredType resolver connector column declared).map
          (engine.addition table column behind.definitions) := by
      rw [declares'.unique declares, show type.arguments = column.type.arguments from rfl,
        ← targetType_eq]
      exact outcome_of_addition rfl rfl source table
    rw [Engine.relay_of_parse parsed table source, ← here]
    exact joined_around outcome _ _ _

/-- The first column of a list, in a clause behind another one. -/
def sizedFront : AdditionFront where
  semicolons := 0
  alter := Keyword.capitals .alter
  table := Keyword.capitals .table
  ifExists := none
  names := [.word "t"]
  named := List.cons_ne_nil _ _
  clauses := [⟨[.word "DROP", .word "b"], { operation := .drop, column := "b" }, by decide +kernel⟩]
  column :=
    { add := Keyword.capitals .add
      column := none
      listed := some []
      name := .word "c"
      apart := fun _ bare => by cases bare }
  apart := by decide +kernel

def numeralArgument (numeral : String) (whole : (Lexeme.number numeral).IsWhole) :
    ArgumentForm where
  lexemes := [.number numeral]
  nonempty := List.cons_ne_nil _ _
  whole := by simpa using whole
  plain := by simp [Lexeme.number]

/-- Arguments between the modifiers, one with a sign and zeros in front. -/
def sizedType : WrittenType where
  word := ⟨"DECIMAL", by decide, trivial⟩
  before := [⟨"UNSIGNED", by decide, by decide +kernel⟩]
  listed := some
    [numeralArgument "+0010" (cutInto_of_toOption (by decide +kernel)),
      numeralArgument "2" (cutInto_of_toOption (by decide +kernel))]
  behind := [⟨"zerofill", by decide, by decide +kernel⟩]

/-- An argument that is too large by one. -/
def largeType : WrittenType where
  word := ⟨"CHAR", by decide, trivial⟩
  before := []
  listed := some [numeralArgument "4294967296" (cutInto_of_toOption (by decide +kernel))]
  behind := []

def sizedRest : List Lexeme :=
  [.word "NOT", .word "NULL", .comma, .word "d", .word "INT", .closeParen, .comma, .word "DROP",
    .word "y"]

def sizedSource : String :=
  "ALTER TABLE t DROP b, ADD (c DECIMAL UNSIGNED ( +0010 , /* scale */ 2 ) zerofill NOT NULL, " ++
    "d INT), DROP y"

def largeSource : String :=
  "ALTER TABLE t DROP b, ADD (c CHAR(4294967296) NOT NULL, d INT), DROP y"

theorem relay_declaredSizes_several :
    Engine.relay { resolver := TypeResolver.echo } .mysql sizedSource "t" =
        .ok ⟨["ALTER TABLE `t` DROP COLUMN `b`",
            "ALTER TABLE `t` ADD COLUMN `c` mysql/DECIMAL UNSIGNED zerofill/10/2",
            "ALTER TABLE `t` DROP COLUMN `y`"],
          [.severalColumns "c" 2]⟩ ∧
      Engine.relay { resolver := TypeResolver.echo } .mysql largeSource "t" =
        .error (.malformedNumericArgument "c" "4294967296") := by
  have behind : Reader.behindType true (sizedRest.map Lexeme.token ++ [Token.finish]) =
      .ok (⟨none, ["NOT", "NULL"], [⟨"d", ⟨"INT", [], none⟩, []⟩],
        [{ operation := .drop, column := "y" }]⟩, [Token.finish]) := by decide +kernel
  have ends : ∀ type : WrittenType, type.listed ≠ none →
      type.EndsAt (sizedRest.map Lexeme.token ++ [Token.finish]) := by
    intro type listed
    exact headed_cons.mpr ⟨by decide +kernel, fun bare => absurd bare listed⟩
  have length : IsNumeral "+0010" 10 :=
    ⟨['0', '0', '1', '0'], .inr (by decide), by decide, by simp, by decide⟩
  have scale : IsNumeral "2" 2 := ⟨['2'], .inl (by decide), by decide, by simp, by decide⟩
  have large : NoNumeral "4294967296" := noNumeral_of_numeral? (by decide +kernel)
  constructor
  · have cut : CutInto sizedSource.toList
        (sizedFront.lexemes ++ (sizedType.lexemes ++ sizedRest)) :=
      cutInto_of_toOption (by decide +kernel)
    have sized := relay_declaredSizes sizedFront rfl sizedType
      (ends _ (Option.some_ne_none _)) cut
    refine ((sized.2 TypeResolver.echo {} .mysql "t").2 _ _ behind _ (.two length scale)).trans ?_
    decide +kernel
  · have cut : CutInto largeSource.toList
        (sizedFront.lexemes ++ (largeType.lexemes ++ sizedRest)) :=
      cutInto_of_toOption (by decide +kernel)
    have sized := relay_declaredSizes sizedFront rfl largeType
      (ends _ (Option.some_ne_none _)) cut
    refine ((sized.2 TypeResolver.echo {} .mysql "t").2 _ _ behind _
      (.malformedLength large [])).trans ?_
    decide +kernel

end AlterRelay.Relay
