/-
# AlterRelay.Proofs.Relay.Composition — a statement is relayed clause by clause

A statement of several clauses is relayed as if each of them stood in a statement
of its own (`relay_compositional`). Its statements and notices are those of its
clauses, in order, and the first clause that cannot be relayed fails all of it.

The reading is composed in `parse_composed`. What is left is that a run keeps no
state from one clause to the next: the outcome of a run is made of the outcomes
of its clauses (`outcome_clausesRun`).
-/
import AlterRelay.Proofs.Sql.ClauseSequence
import AlterRelay.Relay.Run

namespace AlterRelay.Relay

open AlterRelay.Source
open AlterRelay.Sql

set_option autoImplicit false

/-! ## Outcomes -/

/-- Outcomes one behind the other. -/
def Outcome.joined (outcomes : List Outcome) : Outcome :=
  ⟨outcomes.flatMap Outcome.statements, outcomes.flatMap Outcome.notices⟩

theorem Outcome.joined_singleton (outcome : Outcome) : Outcome.joined [outcome] = outcome := by
  simp [Outcome.joined]

theorem Run.outcome_followedBy (telling : Telling) (first second : Run) :
    (first.followedBy second).outcome telling =
      (first.outcome telling).bind fun front =>
        (second.outcome telling).map fun behind => Outcome.joined [front, behind] := by
  obtain ⟨entries, failure⟩ := first
  obtain ⟨entries', failure'⟩ := second
  cases failure with
  | some error => rfl
  | none =>
      cases failure' with
      | some error => rfl
      | none => simp [Run.followedBy, Run.outcome, Outcome.joined, Except.bind, Except.map]

namespace Engine

variable {engine : Engine} {connector : Connector}

/-- The outcome of a run is made of the outcomes of its clauses, each on its own. -/
theorem outcome_clausesRun (telling : Telling) (clauses : List Clause) :
    (engine.clausesRun connector clauses).outcome telling =
      (clauses.mapM fun clause => (engine.clauseRun connector clause).outcome telling).map
        Outcome.joined := by
  induction clauses with
  | nil => rfl
  | cons clause clauses ih =>
      rw [clausesRun, Run.outcome_followedBy, ih, List.mapM_cons]
      cases (engine.clauseRun connector clause).outcome telling with
      | error error => rfl
      | ok front =>
          cases clauses.mapM fun clause => (engine.clauseRun connector clause).outcome telling with
          | error error => rfl
          | ok outcomes => simp [Outcome.joined, Except.bind, Except.map, bind, pure, Except.pure]

/-- What is told of a statement is what is told of its clauses. The source text itself plays no
part. -/
theorem relay_of_parse {source : String} {statement : AlterTable}
    (read : engine.read source = .ok (.alterTable statement)) (table text : String) :
    engine.relay connector source table =
      (statement.clauses.mapM fun clause =>
        (engine.clauseRun connector clause).outcome (engine.telling text table)).map
          Outcome.joined := by
  have started : engine.relay connector source table =
      (engine.clausesRun connector statement.clauses).outcome (engine.telling text table) := by
    have silent : Run.outcome (engine.telling source table)
        ⟨[.started statement.table statement.clauses.length], none⟩ = .ok ⟨[], []⟩ := rfl
    rw [relay, run, read]
    show (Run.followedBy ⟨[.started _ _], none⟩ _).outcome _ = _
    rw [Run.outcome_followedBy, silent]
    show Except.map _ ((engine.clausesRun connector statement.clauses).outcome
      (engine.telling text table)) = _
    cases (engine.clausesRun connector statement.clauses).outcome (engine.telling text table) with
    | error error => rfl
    | ok outcome => simp [Outcome.joined, Except.map]
  rw [started, outcome_clausesRun]

end Engine

/-! ## Statements of several clauses -/

/-- A statement of several clauses can be read if each of its clauses can be read alone. It then
has their clauses and is relayed as they are, in order, up to the first that fails. -/
theorem relay_compositional {names texts : List String} (named : names ≠ [])
    (nonempty : texts ≠ []) (clauseTexts : ∀ text ∈ texts, isClauseText text = true) :
    (IsAlteration (alterText names texts) ↔
        ∀ text ∈ texts, IsAlteration (alterText names [text])) ∧
      ∀ statementOf : String → AlterTable,
        (∀ text ∈ texts,
          Statement.parse (alterText names [text]) = .ok (.alterTable (statementOf text))) →
        Statement.parse (alterText names texts) =
            .ok (.alterTable
              ⟨⟨names⟩, false, texts.flatMap fun text => (statementOf text).clauses⟩) ∧
          ∀ (resolver : TypeResolver) (config : Config) (connector : Connector) (table : String),
            let engine : Engine := { resolver, config }
            engine.relay connector (alterText names texts) table =
              (texts.mapM fun text => engine.relay connector (alterText names [text]) table).map
                Outcome.joined := by
  refine ⟨isAlteration_sequence named nonempty clauseTexts, ?_⟩
  intro statementOf each
  obtain ⟨clauseOf, same, read⟩ := parse_composed named nonempty clauseTexts each
  have clauses : (texts.flatMap fun text => (statementOf text).clauses) = texts.map clauseOf := by
    rw [List.flatMap_def, List.map_congr_left same, ← List.flatMap_def, List.map_eq_flatMap]
  rw [clauses]
  refine ⟨read, ?_⟩
  intro resolver config connector table engine
  -- No outcome tells the source text, so any will do, here the empty one.
  have relayed : ∀ text ∈ texts, engine.relay connector (alterText names [text]) table =
      (engine.clauseRun connector (clauseOf text)).outcome (engine.telling "" table) := by
    intro text member
    have single : engine.relay connector (alterText names [text]) table = _ :=
      Engine.relay_of_parse (each text member) table ""
    rw [single, same text member, List.mapM_cons, List.mapM_nil]
    cases (engine.clauseRun connector (clauseOf text)).outcome (engine.telling "" table) with
    | error error => rfl
    | ok outcome => exact congrArg Except.ok outcome.joined_singleton
  have whole : engine.relay connector (alterText names texts) table = _ :=
    Engine.relay_of_parse read table ""
  rw [whole, mapM_congr relayed, List.mapM_map]
  rfl

/-- Three clauses, of which the first has a comment that only a newline ends and the last is about
no column. -/
def severalClauses : List String :=
  ["ADD `a` DECIMAL(10, 2) COMMENT 'x' -- note", "DROP b", "ADD INDEX i (a, b)"]

/-- What one of the clauses alters by itself. -/
def severalAlone (text : String) : AlterTable :=
  match Statement.parse (alterText ["shop", "t"] [text]) with
  | .ok (.alterTable statement) => statement
  | _ => ⟨⟨[]⟩, false, []⟩

theorem relay_compositional_several :
    (∀ text ∈ severalClauses, isClauseText text = true) ∧
      (∀ text ∈ severalClauses, Statement.parse (alterText ["shop", "t"] [text]) =
        .ok (.alterTable (severalAlone text))) ∧
      ({} : Engine).relay .mysql (alterText ["shop", "t"] severalClauses) "dw.t" =
        .ok ⟨["ALTER TABLE `dw`.`t` ADD COLUMN `a` DECIMALV3(10,2) COMMENT 'x'",
            "ALTER TABLE `dw`.`t` DROP COLUMN `b`"],
          [.unsupportedOperation "ADD_INDEX"]⟩ := by
  have clauseTexts : ∀ text ∈ severalClauses, isClauseText text = true := by decide +kernel
  have alone : ∀ text ∈ severalClauses, Statement.parse (alterText ["shop", "t"] [text]) =
      .ok (.alterTable (severalAlone text)) := by decide +kernel
  have named : ["shop", "t"] ≠ [] := List.cons_ne_nil _ _
  have composed := (relay_compositional named (List.cons_ne_nil _ _) clauseTexts).2 _ alone
  refine ⟨clauseTexts, alone, (composed.2 TypeResolver.doris {} .mysql "dw.t").trans ?_⟩
  decide +kernel

end AlterRelay.Relay
