/-
# AlterRelay.Proofs.Relay.TwoRuns — two relays compared clause by clause

Two runs are compared by a relation of their outcomes, and they agree if they end with
related outcomes or with the same error. A relation that survives putting outcomes one
behind the other (`Joins`) holds of whole statements if it holds of their clauses, taken
in order (`relay_agree`): the runs may be those of two engines, and the clauses of two
statements.
-/
import AlterRelay.Proofs.Relay.Composition
import AlterRelay.Proofs.Sql.TypeSigns
import Mathlib.Data.List.Forall2

namespace AlterRelay.Relay

open AlterRelay.Source
open AlterRelay.Sql

set_option autoImplicit false

/-- The outcome of a clause on its own, told for a table. -/
def Engine.clauseOutcome (engine : Engine) (connector : Connector) (table : String)
    (clause : Clause) : Except RelayError Outcome :=
  (engine.clauseRun connector clause).outcome (engine.telling "" table)

/-- A relation of two outcomes, for the clauses that they are the outcomes of, which survives
putting outcomes one behind the other. -/
structure Joins (related : List Clause → Outcome → Outcome → Prop) : Prop where
  none : related [] (Outcome.joined []) (Outcome.joined [])
  further : ∀ {clause : Clause} {clauses : List Clause} {first first' behind behind' : Outcome},
    related [clause] first first' → related clauses behind behind' →
      related (clause :: clauses) (Outcome.joined [first, behind])
        (Outcome.joined [first', behind'])

theorem agree_refl {ε α : Type} {related : α → α → Prop} (refl : ∀ value, related value value)
    (result : Except ε α) : Agree related result result := by
  cases result with
  | ok value => exact .ok (refl value)
  | error error => exact .error error

section

variable {outcome outcome' : Clause → Except RelayError Outcome}

/-- The first clause is worked on, and then the others. -/
theorem joined_mapM_cons (outcome : Clause → Except RelayError Outcome) (clause : Clause)
    (clauses : List Clause) :
    ((clause :: clauses).mapM outcome).map Outcome.joined =
      (outcome clause).bind fun first =>
        ((clauses.mapM outcome).map Outcome.joined).map fun behind =>
          Outcome.joined [first, behind] := by
  rw [List.mapM_cons]
  cases outcome clause with
  | error error => rfl
  | ok first =>
      cases clauses.mapM outcome with
      | error error => rfl
      | ok others =>
          simp [Outcome.joined, Except.bind, Except.map, bind, pure, Except.pure]

/-- What holds of the clauses holds of the statement: the first error is the same, and without
one the outcomes are related. -/
theorem mapM_agree {related : List Clause → Outcome → Outcome → Prop} (joins : Joins related)
    {clauses clauses' : List Clause}
    (each : List.Forall₂
      (fun clause clause' => Agree (related [clause]) (outcome clause) (outcome' clause'))
      clauses clauses') :
    Agree (related clauses) ((clauses.mapM outcome).map Outcome.joined)
      ((clauses'.mapM outcome').map Outcome.joined) := by
  induction each with
  | nil => exact .ok joins.none
  | @cons clause clause' clauses clauses' here _ ih =>
      rw [joined_mapM_cons, joined_mapM_cons]
      generalize outcome clause = result at here
      generalize outcome' clause' = result' at here
      cases here with
      | error error => exact .error error
      | ok first =>
          generalize (clauses.mapM outcome).map Outcome.joined = results at ih
          generalize (clauses'.mapM outcome').map Outcome.joined = results' at ih
          cases ih with
          | error error => exact .error error
          | ok behind => exact .ok (joins.further first behind)

end

/-- Two relays agree if their clauses do, in order. -/
theorem relay_agree {related : List Clause → Outcome → Outcome → Prop} (joins : Joins related)
    {engine engine' : Engine} {connector connector' : Connector} {source source' : String}
    {statement statement' : AlterTable} (table table' : String)
    (read : engine.read source = .ok (.alterTable statement))
    (read' : engine'.read source' = .ok (.alterTable statement'))
    (each : List.Forall₂
      (fun clause clause' => Agree (related [clause]) (engine.clauseOutcome connector table clause)
        (engine'.clauseOutcome connector' table' clause'))
      statement.clauses statement'.clauses) :
    Agree (related statement.clauses) (engine.relay connector source table)
      (engine'.relay connector' source' table') := by
  rw [Engine.relay_of_parse read table "", Engine.relay_of_parse read' table' ""]
  exact mapM_agree joins each

end AlterRelay.Relay
