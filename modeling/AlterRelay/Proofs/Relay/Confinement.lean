/-
# AlterRelay.Proofs.Relay.Confinement — source text stays inside its quotes

Names, defaults and comments travel from a source statement into the statements
for Doris. However they are spelt, they cannot leave the place they are written
at: every statement that a relay produces is cut into the table reference and one
action, and the action carries the names of the clause it comes from
(`relay_confined`).

`ChangeFor` says which change a clause makes. One step of a run makes the change
of its clause (`clauseRun_changes`), so a whole run makes the changes of its
clauses, in order (`clausesRun_changes`).
-/
import AlterRelay.Proofs.Doris.WrittenChange
import AlterRelay.Proofs.Sql.Contract
import AlterRelay.Relay.Run
import Mathlib.Data.List.Forall2

namespace AlterRelay.Relay

open AlterRelay.Doris
open AlterRelay.Source
open AlterRelay.Sql

set_option autoImplicit false

/-! ## Changes of clauses -/

/-- A clause with one of these operations makes a change, any other is passed over. -/
def makesChange (clause : Clause) : Bool :=
  match clause.operation with
  | .add | .drop | .change | .rename => true
  | _ => false

/-- The change that a clause makes, with the names of the clause. -/
inductive ChangeFor (clause : Clause) : SchemaChange → Prop where
  | add {definition : ColumnDefinition} {more : List ColumnDefinition} (type : ColumnType)
      (adds : clause.operation = .add) (named : clause.column = some definition.name)
      (defined : clause.definitions = definition :: more) :
      ChangeFor clause (.addColumn (newColumn definition type.text))
  | drop {column : String} (drops : clause.operation = .drop)
      (named : clause.column = some column) : ChangeFor clause (.dropColumn column)
  | rename {oldName newName : String}
      (renames : clause.operation = .rename ∨ clause.operation = .change)
      (old : clause.oldColumn = some oldName) (new : clause.column = some newName) :
      ChangeFor clause (.renameColumn oldName newName)

theorem doris_type {connector : Connector} {definition : ColumnDefinition} {type : String}
    (resolved : targetType TypeResolver.doris connector definition = .ok type) :
    ∃ target : ColumnType, type = target.text := by
  unfold targetType at resolved
  cases sizes : sizesOf definition with
  | error error => simp [sizes, bind, Except.bind] at resolved
  | ok sizes' =>
      simp only [sizes, bind, Except.bind, TypeResolver.doris] at resolved
      cases found : resolveType connector
          (.ofText definition.type.name sizes'.length sizes'.scale) with
      | error cause => simp [found, Except.map] at resolved
      | ok target =>
          simp only [found, Except.map] at resolved
          cases resolved
          exact ⟨target, rfl⟩

namespace Run

theorem followedBy_done {first second : Run} (done : (first.followedBy second).failure = none) :
    first.failure = none ∧ second.failure = none ∧
      (first.followedBy second).entries = first.entries ++ second.entries := by
  unfold followedBy at done ⊢
  cases failed : first.failure with
  | some error => simp [failed] at done
  | none => simpa [failed] using done

theorem outcome_statements {telling : Telling} {run : Run} {outcome : Outcome}
    (worked : run.outcome telling = .ok outcome) :
    run.failure = none ∧ outcome.statements =
      (run.entries.filterMap Entry.change?).map
        (SchemaChange.text telling.quoting telling.table) := by
  unfold Run.outcome at worked
  cases failed : run.failure with
  | some error => simp [failed] at worked
  | none =>
      simp only [failed, Except.ok.injEq] at worked
      subst worked
      refine ⟨rfl, ?_⟩
      rw [List.map_filterMap]
      rfl

end Run

section

variable {connector : Connector}

theorem surplusEntries_change? (definition : ColumnDefinition) (declarations : Nat) :
    (surplusEntries definition declarations).filterMap Entry.change? = [] := by
  unfold surplusEntries
  split <;> rfl

theorem addedEntries_change? (definition : ColumnDefinition) (type : String) :
    (addedEntries definition type).filterMap Entry.change? =
      [.addColumn (newColumn definition type)] := by
  have dangling : ∀ option, (danglingEntries definition option).filterMap Entry.change? = [] := by
    intro option
    unfold danglingEntries
    split <;> rfl
  simp [addedEntries, dangling, Entry.change?]

/-- A clause that keeps its contract makes its own change, or none. -/
theorem clauseRun_changes {clause : Clause} (kept : clause.KeepsContract)
    (done : (({} : Engine).clauseRun connector clause).failure = none) :
    List.Forall₂ ChangeFor ([clause].filter makesChange)
      ((({} : Engine).clauseRun connector clause).entries.filterMap Entry.change?) := by
  unfold Engine.clauseRun at done ⊢
  unfold Alteration.ofClause at done ⊢
  unfold Clause.KeepsContract at kept
  cases operation : clause.operation with
  | add =>
      simp only [operation] at kept
      obtain ⟨first, more, defined, named, -⟩ := kept
      simp only [operation, definitionOf, defined, bind, Except.bind, pure, Except.pure,
        Engine.alterationRun] at done ⊢
      cases resolved : targetType TypeResolver.doris connector first with
      | error error => simp [resolved] at done
      | ok type =>
          obtain ⟨target, rfl⟩ := doris_type resolved
          have change := ChangeFor.add target operation named defined
          simpa [makesChange, operation, surplusEntries_change?, addedEntries_change?] using change
  | drop =>
      simp only [operation] at kept
      obtain ⟨⟨column, named⟩, -, -⟩ := kept
      have change := ChangeFor.drop operation named
      simpa [makesChange, operation, columnOf, named, bind, Except.bind, pure, Except.pure,
        Engine.alterationRun, Entry.change?] using change
  | change =>
      simp only [operation] at kept
      obtain ⟨⟨oldName, old⟩, new, defined, named⟩ := kept
      have change := ChangeFor.rename (.inr operation) old named
      simpa [makesChange, operation, columnOf, oldColumnOf, definitionOf, defined, named, old, bind,
        Except.bind, pure, Except.pure, Engine.alterationRun, Entry.change?] using change
  | rename =>
      simp only [operation] at kept
      obtain ⟨⟨oldName, old⟩, ⟨newName, named⟩, -⟩ := kept
      have change := ChangeFor.rename (.inl operation) old named
      simpa [makesChange, operation, columnOf, oldColumnOf, named, old, bind, Except.bind, pure,
        Except.pure, Engine.alterationRun, Entry.change?] using change
  | _ => simp [makesChange, operation, pure, Except.pure, Engine.alterationRun, Entry.change?]

/-- A run over clauses that keep their contracts makes their changes, in order. -/
theorem clausesRun_changes {clauses : List Clause}
    (kept : ∀ clause ∈ clauses, clause.KeepsContract)
    (done : (({} : Engine).clausesRun connector clauses).failure = none) :
    List.Forall₂ ChangeFor (clauses.filter makesChange)
      ((({} : Engine).clausesRun connector clauses).entries.filterMap Entry.change?) := by
  induction clauses with
  | nil => exact .nil
  | cons clause clauses ih =>
      obtain ⟨here, there, entries⟩ := Run.followedBy_done done
      have first := clauseRun_changes (kept clause (by simp)) here
      have others := ih (fun other member => kept other (by simp [member])) there
      rw [Engine.clausesRun, entries, List.filterMap_append, ← List.singleton_append,
        List.filter_append]
      exact List.rel_append first others

end

/-! ## Whole statements -/

/-- The text of a produced statement holds the change of a clause and nothing else: it is
cut into the table reference and an action with the names of the clause. -/
def Confined (table : String) (clause : Clause) (text : String) : Prop :=
  ∃ change action tokens final, ChangeFor clause change ∧ Action change action ∧
    tokenize text = .ok (tokens ++ [Token.endAt final]) ∧
    tokens.map Token.lexeme = [.word "ALTER", .word "TABLE"] ++ referenceLexemes table ++ action

theorem ChangeFor.confined {clause : Clause} {change : SchemaChange}
    (made : ChangeFor clause change) {table : String} (unquoted : IsUnquoted table) :
    Confined table clause (change.text true table) := by
  have typed : ∀ column, change = .addColumn column →
      ∃ type : ColumnType, column.type = type.text := by
    intro column same
    cases made with
    | add type =>
        cases same
        exact ⟨type, rfl⟩
    | drop => cases same
    | rename => cases same
  obtain ⟨action, isAction, cut⟩ := SchemaChange.written unquoted typed
  obtain ⟨tokens, final, lexed, same⟩ := cutInto_iff_tokenize.mp cut
  exact ⟨change, action, tokens, final, made, isAction, lexed, same⟩

/-- Whatever a source statement holds, each statement made from it holds the change of one
of its clauses and nothing else. -/
theorem relay_confined {connector : Connector} {source table : String} {outcome : Outcome}
    (unquoted : IsUnquoted table)
    (relayed : ({} : Engine).relay connector source table = .ok outcome) :
    outcome.statements = [] ∨
      ∃ statement, Statement.parse source = .ok (.alterTable statement) ∧
        List.Forall₂ (Confined table) (statement.clauses.filter makesChange)
          outcome.statements := by
  obtain ⟨done, statements⟩ := Run.outcome_statements relayed
  unfold Engine.run at done statements
  cases read : Statement.parse source with
  | error error =>
      simp only [read] at done statements
      exact .inl statements
  | ok statement =>
      simp only [read] at done statements
      cases statement with
      | other keyword => exact .inl statements
      | alterTable statement =>
          right
          obtain ⟨-, done', entries⟩ := Run.followedBy_done done
          obtain ⟨-, kept⟩ := keepsContract_of_parse read
          have changes := clausesRun_changes kept done'
          refine ⟨statement, rfl, ?_⟩
          rw [statements, Engine.statementRun, entries, List.filterMap_append,
            List.forall₂_map_right_iff]
          exact changes.imp fun clause change made => made.confined unquoted

/-- A statement with a quote, a comment opener or a semicolon in every text it carries. -/
def hostileSource : String :=
  "ALTER TABLE t ADD `c``; DROP` VARCHAR(8) DEFAULT 'it''s\\\\' COMMENT '-- none', DROP `\n/*`"

def hostileOutcome : Outcome where
  statements :=
    ["ALTER TABLE `shop`.`a``b` ADD COLUMN `c``; DROP` VARCHAR(24) DEFAULT 'it\\'s\\\\' " ++
        "COMMENT '-- none'",
      "ALTER TABLE `shop`.`a``b` DROP COLUMN `\n/*`"]
  notices := []

theorem relay_confined_hostile :
    IsUnquoted "shop.a`b" ∧
      ({} : Engine).relay .mysql hostileSource "shop.a`b" = .ok hostileOutcome ∧
      ∃ statement, Statement.parse hostileSource = .ok (.alterTable statement) ∧
        List.Forall₂ (Confined "shop.a`b") (statement.clauses.filter makesChange)
          hostileOutcome.statements := by
  have unquoted : IsUnquoted "shop.a`b" := by decide +kernel
  have relayed : ({} : Engine).relay .mysql hostileSource "shop.a`b" = .ok hostileOutcome := by
    decide +kernel
  exact ⟨unquoted, relayed, (relay_confined unquoted relayed).resolve_left (by decide)⟩

end AlterRelay.Relay
