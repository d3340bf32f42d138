/-
# AlterRelay.Proofs.Relay.UnrelatedSpecs — what an added column takes from its specs

Of the tokens behind a type an addition takes the values of `DEFAULT` and `COMMENT`, and
of the type it does not take the character set. So two definitions are added alike if
they agree in the rest (`SameAddition`), whatever else they are declared with: in
particular after tokens that spell neither keyword are put in anywhere but behind the
keyword that counts (`relay_unrelated_specs`).
-/
import AlterRelay.Proofs.Column.OptionPlace
import AlterRelay.Proofs.Relay.Refusal

namespace AlterRelay.Relay

open AlterRelay.Column
open AlterRelay.Source
open AlterRelay.Sql

set_option autoImplicit false

/-- Two definitions with all that an addition takes from them in common. -/
structure SameAddition (definition definition' : ColumnDefinition) : Prop where
  name : definition.name = definition'.name
  typeName : definition.type.name = definition'.type.name
  arguments : definition.type.arguments = definition'.type.arguments
  values : ∀ option : ColumnOption,
    option.lookup definition.specs = option.lookup definition'.specs

section

variable {engine : Engine} {connector : Connector} {definition definition' : ColumnDefinition}

theorem SameAddition.alterationRun (same : SameAddition definition definition')
    (declarations : Nat) :
    engine.alterationRun connector (.add definition declarations) =
      engine.alterationRun connector (.add definition' declarations) := by
  have sizes : sizesOf definition = sizesOf definition' := by
    rw [sizesOf, sizesOf, same.arguments, same.name]
  have typed : targetType engine.resolver connector definition =
      targetType engine.resolver connector definition' := by
    rw [targetType, targetType, sizes, same.typeName, same.name]
  have surplus : surplusEntries definition declarations =
      surplusEntries definition' declarations := by
    rw [surplusEntries, surplusEntries, same.name]
  have added : addedEntries definition = addedEntries definition' := by
    funext type
    simp only [addedEntries, danglingEntries, newColumn, same.name, same.values]
  rw [Engine.alterationRun, Engine.alterationRun, typed, surplus, added]

/-- Clauses that add such definitions run alike. -/
theorem SameAddition.clauseRun (same : SameAddition definition definition') {clause : Clause}
    {more : List ColumnDefinition} (adds : clause.operation = .add)
    (defined : clause.definitions = definition :: more) :
    engine.clauseRun connector clause =
      engine.clauseRun connector { clause with definitions := definition' :: more } := by
  have asks : Asks { clause with definitions := definition' :: more }
      (.add definition' (more.length + 1)) := .add adds rfl
  rw [(Asks.add adds defined).clauseRun, asks.clauseRun]
  exact same.alterationRun _

/-- Statements that differ in one such addition are relayed alike. -/
theorem SameAddition.relay (same : SameAddition definition definition') {clause : Clause}
    {more : List ColumnDefinition} (adds : clause.operation = .add)
    (defined : clause.definitions = definition :: more) {before behind : List Clause}
    {source source' : String} {name name' : TableName} {ifExists ifExists' : Bool}
    (read : engine.read source =
      .ok (.alterTable ⟨name, ifExists, before ++ clause :: behind⟩))
    (read' : engine.read source' =
      .ok (.alterTable ⟨name', ifExists',
        before ++ { clause with definitions := definition' :: more } :: behind⟩))
    (table : String) :
    engine.relay connector source table = engine.relay connector source' table := by
  rw [Engine.relay_of_parse read table "", Engine.relay_of_parse read' table "",
    List.mapM_append, List.mapM_append, List.mapM_cons, List.mapM_cons,
    same.clauseRun adds defined]

end

/-- Tokens that spell neither keyword change nothing of what an addition makes, wherever among
the specs they are put in, unless they stand right behind a keyword that counts; nor does
another character set. -/
theorem relay_unrelated_specs {definition : ColumnDefinition} {xs us ys : List String}
    (specs : definition.specs = xs ++ ys)
    (unrelated : ∀ spec ∈ us, ∀ option : ColumnOption, option.Passes spec)
    (apart : xs = [] ∨ ∀ option : ColumnOption, option.place? (xs ++ ys) ≠ some (xs.length - 1))
    (characterSet : Option String) :
    (∀ option : ColumnOption, option.lookup (xs ++ us ++ ys) = option.lookup definition.specs) ∧
      ∀ (engine : Engine) (connector : Connector) (table : String) {clause : Clause}
        {more : List ColumnDefinition}, clause.operation = .add →
        clause.definitions = definition :: more →
        ∀ {name name' : TableName} {ifExists ifExists' : Bool} {before behind : List Clause}
          {source source' : String},
          engine.read source = .ok (.alterTable ⟨name, ifExists, before ++ clause :: behind⟩) →
          engine.read source' =
            .ok (.alterTable ⟨name', ifExists',
              before ++ { clause with definitions :=
                { definition with
                  type := { definition.type with characterSet }
                  specs := xs ++ us ++ ys } :: more } :: behind⟩) →
          engine.relay connector source table = engine.relay connector source' table := by
  have values : ∀ option : ColumnOption,
      option.lookup (xs ++ us ++ ys) = option.lookup definition.specs := by
    intro option
    rw [specs]
    refine ColumnOption.lookup_insert (fun spec member => unrelated spec member option) ?_
    -- A value is moved only if its keyword is the last one in front of the new specs.
    intro place chosen last
    rcases apart with rfl | elsewhere
    · cases last
    · refine elsewhere option ?_
      rw [chosen, ← last, Nat.add_sub_cancel]
  refine ⟨values, ?_⟩
  intro engine connector table clause more adds defined name name' ifExists ifExists' before behind
    source source' read read'
  have same : SameAddition definition
      { definition with
        type := { definition.type with characterSet }
        specs := xs ++ us ++ ys } :=
    ⟨rfl, rfl, rfl, fun option => (values option).symm⟩
  exact same.relay adds defined read read' table

/-- A default in capitals with a comment keyword in small letters at the end. -/
def plainColumn : ColumnDefinition :=
  ⟨"a", ⟨"VARCHAR", ["5"], none⟩, ["NOT", "NULL", "DEFAULT", "'it''s'", "comment"]⟩

/-- The same column with a character set, and a word and parentheses in front of the default. -/
def crowdedColumn : ColumnDefinition :=
  { plainColumn with
    type := { plainColumn.type with characterSet := some "utf8mb4" }
    specs := ["NOT", "NULL"] ++ ["UNIQUE", "(", "k", ")"] ++ ["DEFAULT", "'it''s'", "comment"] }

/-- The clause that adds a column. -/
def additionOf (column : ColumnDefinition) : Clause :=
  { operation := .add, column := some column.name, definitions := [column] }

def plainAddition : String :=
  "ALTER TABLE t DROP x, ADD a VARCHAR(5) NOT NULL DEFAULT 'it''s' comment"

def crowdedAddition : String :=
  "ALTER TABLE t DROP x, ADD a VARCHAR(5) CHARSET utf8mb4 NOT NULL UNIQUE (k) DEFAULT 'it''s'" ++
    " comment"

theorem read_plainAddition : ({} : Engine).read plainAddition =
    .ok (.alterTable ⟨⟨["t"]⟩, false,
      [{ operation := .drop, column := some "x" }] ++ additionOf plainColumn :: []⟩) := by
  decide +kernel

theorem read_crowdedAddition : ({} : Engine).read crowdedAddition =
    .ok (.alterTable ⟨⟨["t"]⟩, false,
      [{ operation := .drop, column := some "x" }] ++ additionOf crowdedColumn :: []⟩) := by
  decide +kernel

theorem relay_unrelated_specs_crowded :
    ({} : Engine).relay .mysql plainAddition "t" =
        .ok ⟨["ALTER TABLE `t` DROP COLUMN `x`",
            "ALTER TABLE `t` ADD COLUMN `a` VARCHAR(15) DEFAULT 'it\\'s'"],
          [.missingOptionValue "a" .comment]⟩ ∧
      ({} : Engine).relay .mysql plainAddition "t" =
        ({} : Engine).relay .mysql crowdedAddition "t" := by
  have unrelated : ∀ spec ∈ ["UNIQUE", "(", "k", ")"], ∀ option : ColumnOption,
      option.Passes spec := by
    intro spec member option
    cases option <;> revert spec <;> unfold ColumnOption.Passes <;> decide +kernel
  have apart : ∀ option : ColumnOption,
      option.place? (["NOT", "NULL"] ++ ["DEFAULT", "'it''s'", "comment"]) ≠ some 1 := by
    intro option
    cases option <;> decide +kernel
  have specs : plainColumn.specs = ["NOT", "NULL"] ++ ["DEFAULT", "'it''s'", "comment"] := rfl
  have same := (relay_unrelated_specs specs unrelated (.inr apart) (some "utf8mb4")).2
  exact ⟨by decide +kernel, same {} .mysql "t" rfl rfl read_plainAddition read_crowdedAddition⟩

end AlterRelay.Relay
