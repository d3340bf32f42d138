/-
# AlterRelay.Proofs.Relay.Switches — what the switches and a dropped type can change

A change carries a whole definition of which only the names are used, and a relay has two
switches. Each of them has its declared effect and no other, whatever else stands in the
statement and whether or not it is refused (`relay_switches`):

* another type in a change alters nothing but the type that its notice tells of
  (`SameButTypes`);
* without changes as renamings, exactly the statements of changes are missing, and each
  notice about a dropped type says that the change is unsupported (`WithoutChanges`);
* without quoting, the same schema changes are written with every name as it was given
  (`Unquoted`).

The first two are shown clause by clause; the third holds of a run as a whole, which does
not know how its changes will be written.
-/
import AlterRelay.Proofs.Doris.Pieces
import AlterRelay.Proofs.Relay.Accounting
import AlterRelay.Proofs.Relay.TwoRuns

namespace AlterRelay.Relay

open AlterRelay.Doris
open AlterRelay.Source
open AlterRelay.Sql

set_option autoImplicit false

/-! ## Effects -/

/-- The same engine with changes applied as renamings, or not. -/
def Engine.applyingChanges (engine : Engine) (switch : Bool) : Engine :=
  { engine with config := { engine.config with changeAsRename := switch } }

/-- The same engine with names quoted, or not. -/
def Engine.quotingNames (engine : Engine) (switch : Bool) : Engine :=
  { engine with config := { engine.config with quoteIdentifiers := switch } }

/-- The same clause, or a change that declares columns of the same names in any other way. -/
inductive Retyped : Clause → Clause → Prop where
  | same (clause : Clause) : Retyped clause clause
  | change {clause : Clause} {definitions : List ColumnDefinition}
      (changes : clause.operation = .change)
      (names : clause.definitions.map ColumnDefinition.name =
        definitions.map ColumnDefinition.name) :
      Retyped clause { clause with definitions }

inductive Notice.SameButType : Notice → Notice → Prop where
  | same (notice : Notice) : SameButType notice notice
  | type (oldName newName type type' : String) :
      SameButType (.typeChangeIgnored oldName newName type)
        (.typeChangeIgnored oldName newName type')

/-- The same statements, and notices that differ in dropped types only. -/
structure SameButTypes (first second : Outcome) : Prop where
  statements : first.statements = second.statements
  notices : List.Forall₂ Notice.SameButType first.notices second.notices

/-- What is said of a change that is not applied. -/
def Notice.unapplied : Notice → Notice
  | typeChangeIgnored _ _ _ => unsupportedOperation "CHANGE"
  | other => other

/-- How the outcome of some clauses changes when changes are no longer applied: every statement
is written for a clause, in order, and those for changes are missing. -/
def WithoutChanges (clauses : List Clause) (on off : Outcome) : Prop :=
  (∃ written : List (Operation × String),
    written.map Prod.fst = (clauses.filter makesChange).map Clause.operation ∧
    on.statements = written.map Prod.snd ∧
    off.statements = (written.filter fun each => each.1 ≠ .change).map Prod.snd) ∧
  off.notices = on.notices.map Notice.unapplied

/-- How an outcome changes when names are no longer quoted: the same changes are written with
each name as it was given. -/
def Unquoted (table : String) (on off : Outcome) : Prop :=
  (∃ changes : List SchemaChange,
    on.statements = changes.map (fun change =>
      String.join ((change.pieces table).map Piece.quoted)) ∧
    off.statements = changes.map fun change =>
      String.join ((change.pieces table).map Piece.verbatim)) ∧
  on.notices = off.notices

section

variable {engine engine' : Engine} {connector : Connector} {table : String} {clause : Clause}

theorem Accounted.clauseOutcome {outcome : Outcome}
    (accounted : Accounted engine connector table clause outcome) :
    engine.clauseOutcome connector table clause = .ok outcome :=
  accounted.outcome ""

theorem Refused.clauseOutcome {error : RelayError}
    (refused : Refused engine connector clause error) (table : String) :
    engine.clauseOutcome connector table clause = .error error :=
  (outcome_eq_error_iff _).mpr refused

/-! ## Types of changes -/

theorem joins_sameButTypes : Joins fun _ => SameButTypes where
  none := ⟨rfl, .nil⟩
  further := by
    intro clause clauses first first' behind behind' here further
    refine ⟨?_, ?_⟩
    · simp [Outcome.joined, here.statements, further.statements]
    · simpa [Outcome.joined] using List.rel_append here.notices further.notices

theorem SameButTypes.refl (outcome : Outcome) : SameButTypes outcome outcome :=
  ⟨rfl, List.forall₂_same.mpr fun notice _ => .same notice⟩

/-- Two changes of the same names. -/
inductive Alteration.SameChange : Alteration → Alteration → Prop where
  | change (oldName newName : String) (new new' : ColumnDefinition) :
      SameChange (.change oldName newName new) (.change oldName newName new')

/-- What a change asks for depends on its definitions in that it must have one. -/
theorem ofClause_retyped {definitions : List ColumnDefinition}
    (changes : clause.operation = .change)
    (names : clause.definitions.map ColumnDefinition.name =
      definitions.map ColumnDefinition.name) :
    Agree Alteration.SameChange (Alteration.ofClause clause)
      (Alteration.ofClause { clause with definitions }) := by
  simp only [Alteration.ofClause, changes, oldColumnOf, columnOf, definitionOf]
  cases clause.oldColumn with
  | none => exact .error _
  | some oldName =>
      cases clause.column with
      | none => exact .error _
      | some newName =>
          cases defined : clause.definitions with
          | nil =>
              rw [defined] at names
              obtain rfl : definitions = [] := List.map_eq_nil_iff.mp names.symm
              exact .error _
          | cons new more =>
              cases definitions with
              | nil => simp [defined] at names
              | cons new' more' => exact .ok (.change oldName newName new new')

/-- A change is worked on by its names alone. -/
theorem clauseOutcome_retyped {clause' : Clause} (retyped : Retyped clause clause') :
    Agree SameButTypes (engine.clauseOutcome connector table clause)
      (engine.clauseOutcome connector table clause') := by
  cases retyped with
  | same => exact agree_refl SameButTypes.refl _
  | change changes names =>
      have asked := ofClause_retyped changes names
      simp only [Engine.clauseOutcome, Engine.clauseRun]
      generalize Alteration.ofClause clause = first at asked
      generalize Alteration.ofClause _ = second at asked
      cases asked with
      | error error => exact .error error
      | ok same =>
          obtain ⟨oldName, newName, new, new'⟩ := same
          simp only [Engine.alterationRun]
          split
          · exact .ok ⟨rfl, .cons (.type _ _ _ _) .nil⟩
          · exact .ok (SameButTypes.refl _)

/-! ## Changes that are not applied -/

theorem joins_withoutChanges : Joins WithoutChanges where
  none := ⟨⟨[], rfl, rfl, rfl⟩, rfl⟩
  further := by
    rintro clause clauses first first' behind behind' ⟨⟨written, tags, on, off⟩, notices⟩
      ⟨⟨written', tags', on', off'⟩, notices'⟩
    refine ⟨⟨written ++ written', ?_, ?_, ?_⟩, ?_⟩
    · rw [List.map_append, tags, tags', ← List.map_append, ← List.filter_append,
        List.singleton_append]
    · simp [Outcome.joined, on, on']
    · simp [Outcome.joined, off, off']
    · simp [Outcome.joined, notices, notices']

/-- Only the resolver can refuse a clause, or the clause itself. -/
theorem Refused.of_resolver {error : RelayError}
    (refused : Refused engine connector clause error)
    (same : engine.resolver = engine'.resolver) :
    Refused engine' connector clause error := by
  cases refused with
  | lacks lacks => exact .lacks lacks
  | untyped adds defined untyped => exact .untyped adds defined (same ▸ untyped)

theorem surplusNotices_unapplied (first : ColumnDefinition) (more : List ColumnDefinition) :
    (surplusNotices first more).map Notice.unapplied = surplusNotices first more := by
  unfold surplusNotices
  split <;> rfl

theorem danglingNotices_unapplied (definition : ColumnDefinition)
    (option : Column.ColumnOption) :
    (danglingNotices definition option).map Notice.unapplied =
      danglingNotices definition option := by
  unfold danglingNotices
  split <;> rfl

theorem clauseOutcome_withoutChanges (clause : Clause) :
    Agree (WithoutChanges [clause])
      ((engine.applyingChanges true).clauseOutcome connector table clause)
      ((engine.applyingChanges false).clauseOutcome connector table clause) := by
  rcases accounted_or_refused (engine.applyingChanges true) connector table clause with
    ⟨outcome, accounted⟩ | ⟨error, refused⟩
  · rw [accounted.clauseOutcome]
    cases accounted with
    | @added first more type adds defined typed =>
        have added : Accounted (engine.applyingChanges false) connector table clause _ :=
          .added adds defined typed
        rw [added.clauseOutcome]
        refine .ok ⟨⟨[(.add, _)], by simp [makesChange, adds], rfl, rfl⟩, ?_⟩
        simp only [List.map_append, surplusNotices_unapplied, danglingNotices_unapplied]
    | dropped drops named =>
        have dropped : Accounted (engine.applyingChanges false) connector table clause _ :=
          .dropped drops named
        rw [dropped.clauseOutcome]
        exact .ok ⟨⟨[(.drop, _)], by simp [makesChange, drops], rfl, rfl⟩, rfl⟩
    | renamed renames old named =>
        have renamed : Accounted (engine.applyingChanges false) connector table clause _ :=
          .renamed renames old named
        rw [renamed.clauseOutcome]
        exact .ok ⟨⟨[(.rename, _)], by simp [makesChange, renames], rfl, rfl⟩, rfl⟩
    -- The one case in which the switch decides.
    | changed applied changes old named defined =>
        have unchanged : Accounted (engine.applyingChanges false) connector table clause _ :=
          .unchanged rfl changes old named defined
        rw [unchanged.clauseOutcome]
        exact .ok ⟨⟨[(.change, _)], by simp [makesChange, changes], rfl, rfl⟩, rfl⟩
    | unchanged off changes old named defined => cases off
    | unsupported other =>
        have unsupported : Accounted (engine.applyingChanges false) connector table clause _ :=
          .unsupported other
        have passed : makesChange clause = false := by
          cases same : clause.operation <;> simp_all [makesChange]
        rw [unsupported.clauseOutcome]
        exact .ok ⟨⟨[], by simp [passed], rfl, rfl⟩, rfl⟩
  · have refused' : Refused (engine.applyingChanges false) connector clause error :=
      refused.of_resolver rfl
    rw [refused.clauseOutcome, refused'.clauseOutcome]
    exact .error error

/-! ## Names that are not quoted -/

theorem clausesRun_quotingNames (switch : Bool) (clauses : List Clause) :
    (engine.quotingNames switch).clausesRun connector clauses =
      engine.clausesRun connector clauses := by
  induction clauses with
  | nil => rfl
  | cons clause clauses ih =>
      rw [Engine.clausesRun, Engine.clausesRun, ih]
      rfl

/-- A run does not know how its changes will be written. -/
theorem run_quotingNames (switch : Bool) (source : String) :
    (engine.quotingNames switch).run connector source = engine.run connector source := by
  have statements : (engine.quotingNames switch).statementRun connector =
      engine.statementRun connector := by
    funext statement
    cases statement with
    | other keyword => rfl
    | alterTable statement =>
        rw [Engine.statementRun, Engine.statementRun, clausesRun_quotingNames]
  rw [Engine.run, Engine.run, statements]
  rfl

theorem relay_unquoted (source : String) :
    Agree (Unquoted table) ((engine.quotingNames true).relay connector source table)
      ((engine.quotingNames false).relay connector source table) := by
  rw [Engine.relay, Engine.relay, run_quotingNames, run_quotingNames]
  cases failed : (engine.run connector source).failure with
  | some error =>
      rw [Run.outcome, Run.outcome, failed]
      exact .error error
  | none =>
      rw [outcome_of_done failed, outcome_of_done failed]
      refine .ok ⟨⟨(engine.run connector source).entries.filterMap Entry.change?, ?_, ?_⟩, rfl⟩
      · exact List.map_congr_left fun change _ => change.text_eq_join true table
      · exact List.map_congr_left fun change _ => change.text_eq_join false table

end

/-- Types of changes and the two switches alter what they are about and nothing else: with
another type in a change, with changes applied or not, and with names quoted or not, a relay
ends with the same error or with the same result but for these effects. -/
theorem relay_switches :
    (∀ (engine : Engine) (connector : Connector) (table : String) {source source' : String}
        {statement statement' : AlterTable},
        engine.read source = .ok (.alterTable statement) →
        engine.read source' = .ok (.alterTable statement') →
        List.Forall₂ Retyped statement.clauses statement'.clauses →
        Agree SameButTypes (engine.relay connector source table)
          (engine.relay connector source' table)) ∧
      (∀ (engine : Engine) (connector : Connector) (table : String) {source : String}
        {statement : AlterTable}, engine.read source = .ok (.alterTable statement) →
        Agree (WithoutChanges statement.clauses)
          ((engine.applyingChanges true).relay connector source table)
          ((engine.applyingChanges false).relay connector source table)) ∧
      ∀ (engine : Engine) (connector : Connector) (table source : String),
        Agree (Unquoted table) ((engine.quotingNames true).relay connector source table)
          ((engine.quotingNames false).relay connector source table) := by
  refine ⟨?types, ?changes, ?names⟩
  case types =>
    intro engine connector table source source' statement statement' read read' retyped
    exact relay_agree joins_sameButTypes table table read read'
      (retyped.imp fun _ _ => clauseOutcome_retyped)
  case changes =>
    intro engine connector table source statement read
    exact relay_agree joins_withoutChanges table table read read
      (List.forall₂_same.mpr fun clause _ => clauseOutcome_withoutChanges clause)
  case names =>
    intro engine connector table source
    exact relay_unquoted source

/-- A change to a column of some type between other clauses. -/
def changeTo (type : DataType) (specs : List String) : List Clause :=
  [{ operation := .drop, column := some "x" },
    { operation := .change, column := some "b", oldColumn := some "a",
      definitions := [⟨"b", type, specs⟩] },
    { operation := .modify, column := some "c", definitions := [⟨"c", ⟨"INT", [], none⟩, []⟩] }]

def malformedChange : String := "ALTER TABLE t DROP x, CHANGE a b DECIMAL(y) NOT NULL, MODIFY c INT"

def lettersChange : String := "ALTER TABLE t DROP x, CHANGE a b TEXT CHARSET utf8, MODIFY c INT"

/-- No column has a type for MongoDB, and none is asked for. -/
theorem relay_switches_malformed :
    ({} : Engine).relay .mongoDb malformedChange "shop.t" =
        .ok ⟨["ALTER TABLE `shop`.`t` DROP COLUMN `x`",
            "ALTER TABLE `shop`.`t` RENAME COLUMN `a` `b`"],
          [.typeChangeIgnored "a" "b" "DECIMAL(y)", .unsupportedOperation "MODIFY"]⟩ ∧
      Agree SameButTypes (({} : Engine).relay .mongoDb malformedChange "shop.t")
        (({} : Engine).relay .mongoDb lettersChange "shop.t") ∧
      Agree (WithoutChanges (changeTo ⟨"DECIMAL", ["y"], none⟩ ["NOT", "NULL"]))
        ((({} : Engine).applyingChanges true).relay .mongoDb malformedChange "shop.t")
        ((({} : Engine).applyingChanges false).relay .mongoDb malformedChange "shop.t") ∧
      Agree (Unquoted "shop.t")
        ((({} : Engine).quotingNames true).relay .mongoDb malformedChange "shop.t")
        ((({} : Engine).quotingNames false).relay .mongoDb malformedChange "shop.t") := by
  have read : ({} : Engine).read malformedChange =
      .ok (.alterTable ⟨⟨["t"]⟩, false, changeTo ⟨"DECIMAL", ["y"], none⟩ ["NOT", "NULL"]⟩) := by
    decide +kernel
  have read' : ({} : Engine).read lettersChange =
      .ok (.alterTable ⟨⟨["t"]⟩, false, changeTo ⟨"TEXT", [], some "utf8"⟩ []⟩) := by
    decide +kernel
  have retyped : List.Forall₂ Retyped (changeTo ⟨"DECIMAL", ["y"], none⟩ ["NOT", "NULL"])
      (changeTo ⟨"TEXT", [], some "utf8"⟩ []) :=
    .cons (.same _) (.cons (.change rfl rfl) (.cons (.same _) .nil))
  exact ⟨by decide +kernel, relay_switches.1 {} .mongoDb "shop.t" read read' retyped,
    relay_switches.2.1 {} .mongoDb "shop.t" read, relay_switches.2.2 {} .mongoDb "shop.t" _⟩

end AlterRelay.Relay
