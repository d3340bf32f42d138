/-
# AlterRelay.Proofs.Relay.ReadStatement — statements that were read

A clause that was read carries what its operation is about, so it asks for an
alteration and lacks nothing (`asks_of_keepsContract`). What can still fail
is the type of an added column. So a statement that is read from its text is
never refused for a clause without a name or a definition, whoever resolves the
types (`parsed_contract`); only one built by hand can be.
-/
import AlterRelay.Proofs.Relay.Refusal
import AlterRelay.Proofs.Sql.Contract

namespace AlterRelay.Relay

open AlterRelay.Source
open AlterRelay.Sql

set_option autoImplicit false

theorem asks_of_keepsContract {clause : Clause} (kept : clause.KeepsContract) :
    ∃ alteration, Asks clause alteration := by
  obtain ⟨operation, column, oldColumn, definitions⟩ := clause
  cases operation with
  | add =>
      obtain ⟨first, more, defined, -⟩ := kept
      exact ⟨_, .add rfl defined⟩
  | drop =>
      obtain ⟨⟨column, named⟩, -⟩ := kept
      exact ⟨_, .drop rfl named⟩
  | change =>
      obtain ⟨⟨oldName, old⟩, new, defined, named⟩ := kept
      exact ⟨_, .change rfl old named defined⟩
  | rename =>
      obtain ⟨⟨oldName, old⟩, ⟨newName, named⟩, -⟩ := kept
      exact ⟨_, .rename rfl old named⟩
  | _ => exact ⟨_, .unsupported (by simp)⟩

/-- A clause that asks for an alteration can be refused only for a type. -/
theorem Asks.refused {engine : Engine} {connector : Connector} {clause : Clause}
    {alteration : Alteration} {error : RelayError} (asks : Asks clause alteration)
    (refused : Refused engine connector clause error) :
    ∃ definition, Untyped engine.resolver connector definition error := by
  cases refused with
  | lacks lacks =>
      have refused := asks.ofClause
      rw [lacks.ofClause] at refused
      cases refused
  | @untyped first more error adds defined untyped => exact ⟨first, untyped⟩

/-- A source text that cannot be relayed has an added column without a type. -/
theorem untyped_of_relay {resolver : TypeResolver} {config : Config} {connector : Connector}
    {source table : String} {error : RelayError}
    (failed : Engine.relay { resolver, config } connector source table = .error error) :
    ∃ definition, Untyped resolver connector definition error := by
  obtain ⟨statement, read⟩ := alterTable_of_failed failed
  obtain ⟨before, clause, behind, split, -, refused⟩ := (relay_eq_error_iff read).mp failed
  have member : clause ∈ statement.clauses := by simp [split]
  obtain ⟨alteration, asks⟩ := asks_of_keepsContract ((keepsContract_of_parse read).2 clause member)
  exact asks.refused refused

/-- A statement that was read names a table and has clauses, each with exactly the names and
definitions of its operation. So each of them asks for an alteration, and none is refused for
something that it lacks. -/
theorem parsed_contract (source : String) :
    (∀ statement, Statement.parse source = .ok (.alterTable statement) →
        statement.table.parts ≠ [] ∧ statement.clauses ≠ [] ∧
          ∀ clause ∈ statement.clauses, clause.KeepsContract ∧
            ∃ alteration, Alteration.ofClause clause = .ok alteration) ∧
      ∀ (resolver : TypeResolver) (config : Config) (connector : Connector) (table : String)
        (operation : Operation),
        let engine : Engine := { resolver, config }
        engine.relay connector source table ≠ .error (.missingDefinition operation) ∧
          ∀ missing, engine.relay connector source table ≠
            .error (.incompleteClause operation missing) := by
  refine ⟨fun statement read => ?_, fun resolver config connector table operation => ?_⟩
  · obtain ⟨nonempty, kept⟩ := keepsContract_of_parse read
    refine ⟨named_of_parse read, nonempty, fun clause member => ⟨kept clause member, ?_⟩⟩
    obtain ⟨alteration, asks⟩ := asks_of_keepsContract (kept clause member)
    exact ⟨alteration, asks.ofClause⟩
  · refine ⟨fun failed => ?_, fun missing failed => ?_⟩
    · obtain ⟨definition, untyped⟩ := untyped_of_relay failed
      cases untyped
    · obtain ⟨definition, untyped⟩ := untyped_of_relay failed
      cases untyped

/-- A clause of every operation that names a column, and one that names none. -/
def everyName : String :=
  "ALTER TABLE t ADD (a INT, b TEXT), DROP c, CHANGE d e INT, RENAME f TO g, MODIFY h INT, " ++
    "ALTER i, RENAME j"

def everyNameRead : AlterTable :=
  match Statement.parse everyName with
  | .ok (.alterTable statement) => statement
  | _ => ⟨⟨[]⟩, false, []⟩

theorem parsed_contract_everyName :
    Statement.parse everyName = .ok (.alterTable everyNameRead) ∧
      everyNameRead.clauses.map Clause.operation =
        [.add, .drop, .change, .rename, .modify, .alterColumn, .renameTable] ∧
      everyNameRead.table.parts ≠ [] ∧ everyNameRead.clauses ≠ [] ∧
        ∀ clause ∈ everyNameRead.clauses, clause.KeepsContract ∧
          ∃ alteration, Alteration.ofClause clause = .ok alteration := by
  have read : Statement.parse everyName = .ok (.alterTable everyNameRead) := by decide +kernel
  exact ⟨read, by decide +kernel, (parsed_contract everyName).1 everyNameRead read⟩

end AlterRelay.Relay
