/-
# AlterRelay.Proofs.Relay.Accounting — every clause is accounted for

A statement that is relayed gives what its clauses give, in order and each once
(`relay_accounts`). `Accounted` lists what a clause gives by what it carries: an
addition, a removal and a renaming write one statement, a change writes one if it
is applied as a renaming, and no other clause writes any. What is left out is told
by a notice: the surplus columns of an addition, an option without a value, the
type of a change, and the whole of a clause that writes nothing. So no clause is
without a trace (`Accounted.leaves_trace`).

A statement is relayed unless one of its clauses is refused, and then it fails
with the first that is.
-/
import AlterRelay.Proofs.Relay.Confinement
import AlterRelay.Proofs.Relay.Refusal

namespace AlterRelay.Relay

open AlterRelay.Column
open AlterRelay.Doris
open AlterRelay.Source
open AlterRelay.Sql

set_option autoImplicit false

/-! ## What a clause gives -/

/-- Of several columns declared by one clause only the first is added. -/
def surplusNotices (first : ColumnDefinition) (more : List ColumnDefinition) : List Notice :=
  if more = [] then [] else [.severalColumns first.name (more.length + 1)]

/-- The keyword of an option is the last token of its column. -/
def danglingNotices (definition : ColumnDefinition) (option : ColumnOption) : List Notice :=
  if option.lookup definition.specs = .dangling then [.missingOptionValue definition.name option]
  else []

def Engine.written (engine : Engine) (table : String) (change : SchemaChange) : String :=
  change.text engine.config.quoteIdentifiers table

/-- The statements and the notices that a clause gives. -/
inductive Accounted (engine : Engine) (connector : Connector) (table : String) (clause : Clause) :
    Outcome → Prop where
  | added {first : ColumnDefinition} {more : List ColumnDefinition} {type : String}
      (adds : clause.operation = .add) (defined : clause.definitions = first :: more)
      (typed : targetType engine.resolver connector first = .ok type) :
      Accounted engine connector table clause
        ⟨[engine.written table (.addColumn (newColumn first type))],
          surplusNotices first more ++
            (danglingNotices first .defaultValue ++ danglingNotices first .comment)⟩
  | dropped {column : String} (drops : clause.operation = .drop)
      (named : clause.column = some column) :
      Accounted engine connector table clause
        ⟨[engine.written table (.dropColumn column)], []⟩
  | renamed {oldName newName : String} (renames : clause.operation = .rename)
      (old : clause.oldColumn = some oldName) (named : clause.column = some newName) :
      Accounted engine connector table clause
        ⟨[engine.written table (.renameColumn oldName newName)], []⟩
  | changed {oldName newName : String} {new : ColumnDefinition} {more : List ColumnDefinition}
      (applied : engine.config.changeAsRename = true) (changes : clause.operation = .change)
      (old : clause.oldColumn = some oldName) (named : clause.column = some newName)
      (defined : clause.definitions = new :: more) :
      Accounted engine connector table clause
        ⟨[engine.written table (.renameColumn oldName newName)],
          [.typeChangeIgnored oldName newName new.type.text]⟩
  | unchanged {oldName newName : String} {new : ColumnDefinition} {more : List ColumnDefinition}
      (off : engine.config.changeAsRename = false) (changes : clause.operation = .change)
      (old : clause.oldColumn = some oldName) (named : clause.column = some newName)
      (defined : clause.definitions = new :: more) :
      Accounted engine connector table clause ⟨[], [.unsupportedOperation "CHANGE"]⟩
  | unsupported (other : clause.operation ∉ [.add, .drop, .change, .rename]) :
      Accounted engine connector table clause
        ⟨[], [.unsupportedOperation clause.operation.text]⟩

/-- Whether a clause writes a statement. -/
def writesStatement (config : Config) (clause : Clause) : Bool :=
  match clause.operation with
  | .add | .drop | .rename => true
  | .change => config.changeAsRename
  | _ => false

section

variable {engine : Engine} {connector : Connector} {table : String} {clause : Clause}

theorem Accounted.statements_length {outcome : Outcome}
    (accounted : Accounted engine connector table clause outcome) :
    outcome.statements.length = if writesStatement engine.config clause then 1 else 0 := by
  unfold writesStatement
  cases accounted with
  | added adds => simp [adds]
  | dropped drops => simp [drops]
  | renamed renames => simp [renames]
  | changed applied changes => simp [changes, applied]
  | unchanged off changes => simp [changes, off]
  | unsupported other => cases same : clause.operation <;> simp_all

/-- No clause is without a trace. -/
theorem Accounted.leaves_trace {outcome : Outcome}
    (accounted : Accounted engine connector table clause outcome) :
    outcome.statements ≠ [] ∨ outcome.notices ≠ [] := by
  cases accounted with
  | unchanged => exact .inr (List.cons_ne_nil _ _)
  | unsupported => exact .inr (List.cons_ne_nil _ _)
  | _ => exact .inl (List.cons_ne_nil _ _)

/-! ## The run of a clause -/

theorem surplusEntries_notice? (first : ColumnDefinition) (more : List ColumnDefinition) :
    (surplusEntries first (more.length + 1)).filterMap Entry.notice? =
      surplusNotices first more := by
  cases more with
  | nil => rfl
  | cons second more => simp [surplusEntries, surplusNotices, Entry.notice?]

theorem danglingEntries_notice? (definition : ColumnDefinition) (option : ColumnOption) :
    (danglingEntries definition option).filterMap Entry.notice? =
      danglingNotices definition option := by
  unfold danglingEntries danglingNotices
  split <;> rfl

theorem addedEntries_notice? (definition : ColumnDefinition) (type : String) :
    (addedEntries definition type).filterMap Entry.notice? =
      danglingNotices definition .defaultValue ++ danglingNotices definition .comment := by
  simp [addedEntries, danglingEntries_notice?, Entry.notice?]

theorem outcome_of_done {telling : Telling} {run : Run} (done : run.failure = none) :
    run.outcome telling =
      .ok ⟨(run.entries.filterMap Entry.change?).map
          (SchemaChange.text telling.quoting telling.table),
        run.entries.filterMap Entry.notice?⟩ := by
  rw [Run.outcome, done, List.map_filterMap]
  rfl

theorem Accounted.outcome {outcome : Outcome}
    (accounted : Accounted engine connector table clause outcome) (source : String) :
    (engine.clauseRun connector clause).outcome (engine.telling source table) = .ok outcome := by
  cases accounted with
  | added adds defined typed =>
      rw [(Asks.add adds defined).clauseRun, Engine.alterationRun, typed, outcome_of_done rfl,
        List.filterMap_append, List.filterMap_append, surplusEntries_change?,
        addedEntries_change?, surplusEntries_notice?, addedEntries_notice?]
      rfl
  | dropped drops named =>
      rw [(Asks.drop drops named).clauseRun]
      rfl
  | renamed renames old named =>
      rw [(Asks.rename renames old named).clauseRun]
      rfl
  | changed applied changes old named defined =>
      rw [(Asks.change changes old named defined).clauseRun, Engine.alterationRun, if_pos applied]
      rfl
  | unchanged off changes old named defined =>
      rw [(Asks.change changes old named defined).clauseRun, Engine.alterationRun,
        if_neg (by simp [off])]
      rfl
  | unsupported other =>
      rw [(Asks.unsupported other).clauseRun]
      rfl

/-- A clause is accounted for unless it is refused. -/
theorem accounted_or_refused (engine : Engine) (connector : Connector) (table : String)
    (clause : Clause) :
    (∃ outcome, Accounted engine connector table clause outcome) ∨
      ∃ error, Refused engine connector clause error := by
  rcases asks_or_lacks clause with ⟨alteration, asks⟩ | ⟨error, lacks⟩
  · cases asks with
    | @add first more adds defined =>
        cases typed : targetType engine.resolver connector first with
        | ok type => exact .inl ⟨_, .added adds defined typed⟩
        | error error =>
            exact .inr ⟨error, .untyped adds defined (targetType_eq_error_iff.mp typed)⟩
    | drop drops named => exact .inl ⟨_, .dropped drops named⟩
    | change changes old named defined =>
        cases switch : engine.config.changeAsRename with
        | true => exact .inl ⟨_, .changed switch changes old named defined⟩
        | false => exact .inl ⟨_, .unchanged switch changes old named defined⟩
    | rename renames old named => exact .inl ⟨_, .renamed renames old named⟩
    | unsupported other => exact .inl ⟨_, .unsupported other⟩
  · exact .inr ⟨error, .lacks lacks⟩

theorem Accounted.not_refused {outcome : Outcome}
    (accounted : Accounted engine connector table clause outcome) (error : RelayError) :
    ¬Refused engine connector clause error := by
  intro refused
  have worked := accounted.outcome ""
  rw [(outcome_eq_error_iff _).mpr refused] at worked
  cases worked

theorem outcome_eq_ok_iff (source : String) {outcome : Outcome} :
    (engine.clauseRun connector clause).outcome (engine.telling source table) = .ok outcome ↔
      Accounted engine connector table clause outcome := by
  refine ⟨fun worked => ?_, fun accounted => accounted.outcome source⟩
  rcases accounted_or_refused engine connector table clause with
    ⟨outcome', accounted⟩ | ⟨error, refused⟩
  · rw [accounted.outcome source] at worked
    cases worked
    exact accounted
  · rw [(outcome_eq_error_iff _).mpr refused] at worked
    cases worked

end

/-! ## Statements -/

/-- Attempts in order that all succeed give their results in order. -/
theorem mapM_eq_ok_iff {ε α β : Type} {attempt : α → Except ε β} {values : List α}
    {results : List β} :
    values.mapM attempt = .ok results ↔
      List.Forall₂ (fun value result => attempt value = .ok result) values results := by
  induction values generalizing results with
  | nil =>
      rw [List.mapM_nil, List.forall₂_nil_left_iff]
      exact ⟨fun same => (Except.ok.inj same).symm, fun same => same ▸ rfl⟩
  | cons first values ih =>
      rw [List.mapM_cons, List.forall₂_cons_left_iff]
      simp only [← ih]
      cases attempt first <;> cases values.mapM attempt <;>
        simp [bind, Except.bind, pure, Except.pure, eq_comm]

theorem relay_eq_ok_iff {engine : Engine} {connector : Connector} {source table : String}
    {statement : AlterTable} (read : engine.read source = .ok (.alterTable statement))
    {outcome : Outcome} :
    engine.relay connector source table = .ok outcome ↔
      ∃ outcomes, List.Forall₂ (Accounted engine connector table) statement.clauses outcomes ∧
        outcome = Outcome.joined outcomes := by
  have told : engine.relay connector source table = _ := Engine.relay_of_parse read table source
  have each : ∀ outcomes, List.Forall₂ (Accounted engine connector table) statement.clauses
      outcomes ↔ (statement.clauses.mapM fun clause => (engine.clauseRun connector clause).outcome
        (engine.telling source table)) = .ok outcomes := by
    intro outcomes
    simp only [mapM_eq_ok_iff, outcome_eq_ok_iff]
  simp only [told, each]
  cases statement.clauses.mapM fun clause => (engine.clauseRun connector clause).outcome
    (engine.telling source table) <;> simp [Except.map, eq_comm]

/-- As many statements are written as there are clauses that write one. -/
theorem joined_statements_length {engine : Engine} {connector : Connector} {table : String}
    {clauses : List Clause} {outcomes : List Outcome}
    (accounted : List.Forall₂ (Accounted engine connector table) clauses outcomes) :
    (Outcome.joined outcomes).statements.length =
      clauses.countP (writesStatement engine.config) := by
  induction accounted with
  | nil => rfl
  | @cons clause outcome clauses outcomes first others ih =>
      have one := first.statements_length
      simp only [Outcome.joined, List.flatMap_cons, List.length_append, List.countP_cons] at ih ⊢
      rw [one, ih, Nat.add_comm]

/-- Each of the first values is related to one of the second. -/
theorem exists_of_forall₂ {α β : Type} {related : α → β → Prop} {firsts : List α}
    {seconds : List β} (all : List.Forall₂ related firsts seconds) :
    ∀ first ∈ firsts, ∃ second ∈ seconds, related first second := by
  induction all with
  | nil => simp
  | cons head tail ih =>
      intro first member
      rcases List.mem_cons.mp member with rfl | behind
      · exact ⟨_, List.mem_cons_self, head⟩
      · obtain ⟨second, among, related⟩ := ih first behind
        exact ⟨second, List.mem_cons_of_mem _ among, related⟩

/-- A statement fails if one of its clauses is refused, and with the first that is. Otherwise
it gives what its clauses give, in order, and leaves none of them without a trace. -/
theorem relay_accounts {engine : Engine} {connector : Connector} {source table : String}
    {statement : AlterTable} (read : engine.read source = .ok (.alterTable statement)) :
    ((∃ error, engine.relay connector source table = .error error) ↔
        ∃ clause ∈ statement.clauses, ∃ error, Refused engine connector clause error) ∧
      (∀ error, engine.relay connector source table = .error error ↔
        ∃ before clause behind, statement.clauses = before ++ clause :: behind ∧
          (∀ earlier ∈ before, ∀ error, ¬Refused engine connector earlier error) ∧
          Refused engine connector clause error) ∧
      ∀ outcome, engine.relay connector source table = .ok outcome →
        ∃ outcomes, List.Forall₂ (Accounted engine connector table) statement.clauses outcomes ∧
          outcome = Outcome.joined outcomes ∧
          (∀ each ∈ outcomes, each.statements ≠ [] ∨ each.notices ≠ []) ∧
          outcome.statements.length =
            statement.clauses.countP (writesStatement engine.config) := by
  refine ⟨⟨?fails, ?refuses⟩, fun error => relay_eq_error_iff read, ?gives⟩
  case fails =>
    rintro ⟨error, failed⟩
    obtain ⟨before, clause, behind, split, -, refused⟩ := (relay_eq_error_iff read).mp failed
    exact ⟨clause, by simp [split], error, refused⟩
  case refuses =>
    rintro ⟨clause, member, error, refused⟩
    cases relayed : engine.relay connector source table with
    | error error' => exact ⟨error', rfl⟩
    | ok outcome =>
        -- Every clause of a relayed statement is accounted for, and then it is not refused.
        obtain ⟨outcomes, each, -⟩ := (relay_eq_ok_iff read).mp relayed
        obtain ⟨given, -, accounted⟩ := exists_of_forall₂ each clause member
        exact absurd refused (accounted.not_refused error)
  case gives =>
    intro outcome relayed
    obtain ⟨outcomes, each, rfl⟩ := (relay_eq_ok_iff read).mp relayed
    refine ⟨outcomes, each, rfl, ?_, joined_statements_length each⟩
    intro outcome member
    obtain ⟨clause, -, accounted⟩ := exists_of_forall₂ each.flip outcome member
    exact accounted.leaves_trace

/-- Clauses of which each leaves something out. -/
def mixedSource : String :=
  "ALTER TABLE t ADD (a INT COMMENT 'x' DEFAULT, b INT), CHANGE c d INT, MODIFY e INT, DROP f"

def mixedClauses : List Clause :=
  match Statement.parse mixedSource with
  | .ok (.alterTable statement) => statement.clauses
  | _ => []

def mixedOutcome : Outcome where
  statements :=
    ["ALTER TABLE `shop`.`t` ADD COLUMN `a` INT COMMENT 'x'",
      "ALTER TABLE `shop`.`t` DROP COLUMN `f`"]
  notices :=
    [.severalColumns "a" 2, .missingOptionValue "a" .defaultValue, .unsupportedOperation "CHANGE",
      .unsupportedOperation "MODIFY"]

/-- Changes are not applied as renamings. -/
def unchangingEngine : Engine := { config := { changeAsRename := false } }

theorem relay_accounts_mixed :
    unchangingEngine.read mixedSource =
        .ok (.alterTable ⟨⟨["t"]⟩, false, mixedClauses⟩) ∧
      unchangingEngine.relay .mysql mixedSource "shop.t" = .ok mixedOutcome ∧
      ∃ outcomes,
        List.Forall₂ (Accounted unchangingEngine .mysql "shop.t") mixedClauses outcomes ∧
        mixedOutcome = Outcome.joined outcomes ∧
        (∀ each ∈ outcomes, each.statements ≠ [] ∨ each.notices ≠ []) ∧
        mixedOutcome.statements.length =
          mixedClauses.countP (writesStatement unchangingEngine.config) := by
  have read : unchangingEngine.read mixedSource =
      .ok (.alterTable ⟨⟨["t"]⟩, false, mixedClauses⟩) := by
    decide +kernel
  have relayed : unchangingEngine.relay .mysql mixedSource "shop.t" = .ok mixedOutcome := by
    decide +kernel
  exact ⟨read, relayed, (relay_accounts read).2.2 mixedOutcome relayed⟩

end AlterRelay.Relay
