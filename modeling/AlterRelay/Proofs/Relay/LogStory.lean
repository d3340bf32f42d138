/-
# AlterRelay.Proofs.Relay.LogStory — the log tells what was given

The work emits its events and pushes its results in steps of their own. Still,
whoever reads only the log learns the same as whoever reads only the outcome
(`log_tells_outcome`). The statements are the `statement` fields of the events, in
order. Every notice is told by one warning (`Notice.warning`), and no other event
is a warning.

A failed run has no outcome, and its log ends with the one event that says so. In
front of it stand the events of the clauses before the refused one (`Told`), and
the warning about its surplus columns, which comes before a type is asked for.
-/
import AlterRelay.Proofs.Relay.Emission

namespace AlterRelay.Log

set_option autoImplicit false

/-! ## Reading a log -/

namespace Record

def isWarning : Record → Bool
  | .event .warn _ _ => true
  | _ => false

def message? : Record → Option String
  | .event _ message _ => some message
  | .span _ _ _ => none

def fields : Record → List (String × FieldValue)
  | .event _ _ fields | .span _ _ fields => fields

/-- The text in a field, if there is one of this name. -/
def text? (name : String) (record : Record) : Option String :=
  match record.fields.lookup name with
  | some (.text value) => some value
  | _ => none

end Record

end AlterRelay.Log

namespace AlterRelay.Relay

open AlterRelay.Column
open AlterRelay.Doris
open AlterRelay.Log (Record)
open AlterRelay.Source
open AlterRelay.Sql

set_option autoImplicit false

/-! ## What is told of a notice, and of a clause -/

/-- The warning that tells a notice. -/
def Notice.warning (telling : Telling) : Notice → Record
  | syntaxError message =>
      .event .warn "failed to parse DDL" [("error", .text message), ("ddl", .text telling.source)]
  | unsupportedStatement _ =>
      .event .warn "unsupported DDL statement" [("ddl", .text telling.source)]
  | unsupportedOperation operation =>
      .event .warn "unsupported alter operation"
        [("operation", .text operation), ("ddl", .text telling.source)]
  | severalColumns column declarations =>
      .event .warn "ADD declares several columns, only the first is translated"
        [("column", .text column), ("declarations", .number declarations),
          ("ddl", .text telling.source)]
  | typeChangeIgnored oldName newName _ =>
      .event .warn "Doris only supports renaming columns, CHANGE is applied as a rename"
        [("statement", .text
          ((SchemaChange.renameColumn oldName newName).text telling.quoting telling.table))]
  | missingOptionValue column option =>
      .event .warn "column spec keyword has no value"
        [("column", .text column), ("keyword", .text option.keyword)]

def changeEvent (telling : Telling) (message : String) (change : SchemaChange) : Record :=
  .event .info message [("statement", .text (change.text telling.quoting telling.table))]

/-- The message of the event that tells of a failure. -/
def failureMessage : String := "failed to translate DDL"

def failureEvent (telling : Telling) (error : RelayError) : Record :=
  .event .warn failureMessage [("error", .text error.message), ("ddl", .text telling.source)]

def openingEvent (statement : AlterTable) : Record :=
  .event .debug "translating ALTER TABLE"
    [("source_table", .text statement.table.text),
      ("expressions", .number statement.clauses.length)]

def spanRecord (connector : Connector) (table : String) : Record :=
  .span .trace "ddl::translate"
    [("connector", .text connector.label), ("target_table", .text table)]

/-- The events of a clause that is relayed. -/
inductive Told (engine : Engine) (connector : Connector) (telling : Telling) (clause : Clause) :
    List Record → Prop where
  | added {first : ColumnDefinition} {more : List ColumnDefinition} {type : String}
      (adds : clause.operation = .add) (defined : clause.definitions = first :: more)
      (typed : targetType engine.resolver connector first = .ok type) :
      Told engine connector telling clause
        ((surplusNotices first more ++
            (danglingNotices first .defaultValue ++ danglingNotices first .comment)).map
          (Notice.warning telling) ++
        [changeEvent telling "parsed add column DDL" (.addColumn (newColumn first type))])
  | dropped {column : String} (drops : clause.operation = .drop)
      (named : clause.column = some column) :
      Told engine connector telling clause
        [changeEvent telling "parsed drop column DDL" (.dropColumn column)]
  | renamed {oldName newName : String} (renames : clause.operation = .rename)
      (old : clause.oldColumn = some oldName) (named : clause.column = some newName) :
      Told engine connector telling clause
        [changeEvent telling "parsed rename column DDL" (.renameColumn oldName newName)]
  | changed {oldName newName : String} {new : ColumnDefinition} {more : List ColumnDefinition}
      (applied : engine.config.changeAsRename = true) (changes : clause.operation = .change)
      (old : clause.oldColumn = some oldName) (named : clause.column = some newName)
      (defined : clause.definitions = new :: more) :
      Told engine connector telling clause
        [(Notice.typeChangeIgnored oldName newName new.type.text).warning telling]
  | unchanged {oldName newName : String} {new : ColumnDefinition} {more : List ColumnDefinition}
      (off : engine.config.changeAsRename = false) (changes : clause.operation = .change)
      (old : clause.oldColumn = some oldName) (named : clause.column = some newName)
      (defined : clause.definitions = new :: more) :
      Told engine connector telling clause [(Notice.unsupportedOperation "CHANGE").warning telling]
  | unsupported (other : clause.operation ∉ [.add, .drop, .change, .rename]) :
      Told engine connector telling clause
        [(Notice.unsupportedOperation clause.operation.text).warning telling]

/-- What is noticed of a clause before its type is asked for. -/
def ambiguity (clause : Clause) : List Notice :=
  match clause.operation, clause.definitions with
  | .add, first :: more => surplusNotices first more
  | _, _ => []

/-! ## Entries -/

section

variable (telling : Telling)

theorem Entry.text?_statement (entry : Entry) :
    (entry.record telling).text? "statement" = entry.statement? telling := by
  cases entry <;> rfl

theorem Entry.message?_ne_failure (entry : Entry) :
    (entry.record telling).message? ≠ some failureMessage := by
  cases entry with
  | applied change => cases change <;> simp [Entry.record, Record.message?, changeMessage,
      failureMessage]
  | _ => simp [Entry.record, Record.message?, failureMessage]

/-- An entry with a notice is told by the warning of it, and no other entry by a warning. -/
theorem Entry.warning (entry : Entry) :
    [entry.record telling].filter Record.isWarning =
      entry.notice?.toList.map (Notice.warning telling) := by
  cases entry <;> rfl

theorem records_statements (entries : List Entry) :
    (entries.map (Entry.record telling)).filterMap (Record.text? "statement") =
      entries.filterMap (Entry.statement? telling) := by
  rw [List.filterMap_map]
  exact congrArg (entries.filterMap ·) (funext fun entry => entry.text?_statement telling)

theorem records_warnings (entries : List Entry) :
    (entries.map (Entry.record telling)).filter Record.isWarning =
      (entries.filterMap Entry.notice?).map (Notice.warning telling) := by
  induction entries with
  | nil => rfl
  | cons entry entries ih =>
      rw [List.map_cons, ← List.singleton_append, List.filter_append, entry.warning, ih,
        List.filterMap_cons]
      cases entry.notice? <;> rfl

theorem records_quiet (entries : List Entry) :
    ∀ event ∈ entries.map (Entry.record telling), event.message? ≠ some failureMessage :=
  List.forall_mem_map.mpr fun entry _ => entry.message?_ne_failure telling

end

/-! ## Clauses -/

section

variable {engine : Engine} {connector : Connector} {telling : Telling} {clause : Clause}

theorem surplusEntries_records (first : ColumnDefinition) (more : List ColumnDefinition) :
    (surplusEntries first (more.length + 1)).map (Entry.record telling) =
      (surplusNotices first more).map (Notice.warning telling) := by
  cases more with
  | nil => rfl
  | cons second more => simp [surplusEntries, surplusNotices, Entry.record, Notice.warning]

theorem danglingEntries_records (definition : ColumnDefinition) (option : ColumnOption) :
    (danglingEntries definition option).map (Entry.record telling) =
      (danglingNotices definition option).map (Notice.warning telling) := by
  unfold danglingEntries danglingNotices
  split <;> rfl

/-- A clause that does not fail leaves the events that are told of it. -/
theorem told_of_done (done : (engine.clauseRun connector clause).failure = none) :
    Told engine connector telling clause
      ((engine.clauseRun connector clause).entries.map (Entry.record telling)) := by
  rcases accounted_or_refused engine connector "" clause with
    ⟨outcome, accounted⟩ | ⟨error, refused⟩
  · cases accounted with
    | @added first more type adds defined typed =>
        have told := @Told.added engine connector telling clause _ _ _ adds defined typed
        rw [(Asks.add adds defined).clauseRun, Engine.alterationRun, typed]
        simpa [addedEntries, surplusEntries_records, danglingEntries_records, Entry.record,
          changeMessage, changeEvent] using told
    | dropped drops named =>
        rw [(Asks.drop drops named).clauseRun]
        exact .dropped drops named
    | renamed renames old named =>
        rw [(Asks.rename renames old named).clauseRun]
        exact .renamed renames old named
    | changed applied changes old named defined =>
        rw [(Asks.change changes old named defined).clauseRun, Engine.alterationRun, if_pos applied]
        exact .changed applied changes old named defined
    | unchanged off changes old named defined =>
        rw [(Asks.change changes old named defined).clauseRun, Engine.alterationRun,
          if_neg (by simp [off])]
        exact .unchanged off changes old named defined
    | unsupported other =>
        rw [(Asks.unsupported other).clauseRun]
        exact .unsupported other
  · rw [refused.failure] at done
    cases done

/-- A refused clause leaves a warning about its surplus columns, if it has any. -/
theorem Refused.records {error : RelayError} (refused : Refused engine connector clause error) :
    (engine.clauseRun connector clause).entries.map (Entry.record telling) =
      (ambiguity clause).map (Notice.warning telling) := by
  cases refused with
  | lacks lacks =>
      have none : ambiguity clause = [] := by
        unfold ambiguity
        cases lacks with
        | definition adds undefined => rw [adds, undefined]
        | column drops => rw [drops]
        | oldName renames | newName renames => rcases renames with same | same <;> rw [same]
        | newDefinition changes => rw [changes]
      rw [Engine.clauseRun, lacks.ofClause, none]
      rfl
  | untyped adds defined untyped =>
      rw [(Asks.add adds defined).clauseRun, Engine.alterationRun, untyped.targetType, ambiguity,
        adds, defined]
      exact surplusEntries_records _ _

end

/-! ## Runs -/

section

variable {engine : Engine} {connector : Connector}

theorem Run.followedBy_failed {first second : Run} {error : RelayError}
    (failed : first.failure = some error) : first.followedBy second = first := by
  rw [followedBy, failed]

/-- Clauses are worked on up to the first that fails. -/
theorem clausesRun_of_first {before behind : List Clause} {clause : Clause} {error : RelayError}
    (earlier : ∀ earlier ∈ before, (engine.clauseRun connector earlier).failure = none)
    (failed : (engine.clauseRun connector clause).failure = some error) :
    engine.clausesRun connector (before ++ clause :: behind) =
      ⟨before.flatMap (fun earlier => (engine.clauseRun connector earlier).entries) ++
        (engine.clauseRun connector clause).entries, some error⟩ := by
  induction before with
  | nil =>
      rw [List.nil_append, Engine.clausesRun, Run.followedBy_failed failed, ← failed]
      rfl
  | cons first before ih =>
      obtain ⟨done, others⟩ := List.forall_mem_cons.mp earlier
      rw [List.cons_append, Engine.clausesRun, Run.followedBy, done, ih others]
      simp

theorem done_of_not_refused {clause : Clause}
    (kept : ∀ error, ¬Refused engine connector clause error) :
    (engine.clauseRun connector clause).failure = none := by
  cases failed : (engine.clauseRun connector clause).failure with
  | none => rfl
  | some error => exact absurd (clauseRun_failure_iff.mp failed) (kept error)

theorem told_of_clauses {telling : Telling} {clauses : List Clause}
    (kept : ∀ clause ∈ clauses, ∀ error, ¬Refused engine connector clause error) :
    List.Forall₂ (Told engine connector telling) clauses
      (clauses.map fun clause =>
        (engine.clauseRun connector clause).entries.map (Entry.record telling)) := by
  rw [List.forall₂_map_right_iff, List.forall₂_same]
  exact fun clause member => told_of_done (done_of_not_refused (kept clause member))

theorem failure_of_outcome {telling : Telling} {run : Run} {error : RelayError}
    (failed : run.outcome telling = .error error) : run.failure = some error := by
  unfold Run.outcome at failed
  split at failed
  · rename_i failure
    cases failed
    exact failure
  · cases failed

theorem Run.records_of_failed {telling : Telling} {run : Run} {error : RelayError}
    (failed : run.failure = some error) :
    run.records telling =
      run.entries.map (Entry.record telling) ++ [failureEvent telling error] := by
  rw [records, failed]
  rfl

/-- The events of a run that fails. -/
theorem records_of_first {telling : Telling} {statement : AlterTable}
    {before behind : List Clause} {clause : Clause} {error : RelayError}
    (split : statement.clauses = before ++ clause :: behind)
    (earlier : ∀ earlier ∈ before, ∀ error, ¬Refused engine connector earlier error)
    (refused : Refused engine connector clause error) :
    (engine.statementRun connector (.alterTable statement)).records telling =
      openingEvent statement ::
        (before.flatMap (fun earlier =>
            (engine.clauseRun connector earlier).entries.map (Entry.record telling)) ++
          (ambiguity clause).map (Notice.warning telling)) ++ [failureEvent telling error] := by
  have done : ∀ clause ∈ before, (engine.clauseRun connector clause).failure = none :=
    fun clause member => done_of_not_refused (earlier clause member)
  rw [Engine.statementRun, split, clausesRun_of_first done refused.failure, Run.followedBy,
    Run.records_of_failed rfl, ← refused.records]
  simp [List.map_flatMap, Entry.record, openingEvent, split]

end

/-! ## The log of a source -/

/-- Work that gives an outcome tells its statements and its notices, each once and in order,
and of no failure. Work that fails tells so last: in front stand the events of the clauses
before the refused one, and a warning about the surplus columns of that one. -/
theorem log_tells_outcome (engine : Engine) (connector : Connector) (source table : String) :
    ∃ result events,
      engine.translation connector source table = (result, spanRecord connector table :: events) ∧
      engine.relay connector source table = result ∧
      engine.log connector source table = spanRecord connector table :: events ∧
      (∀ outcome, result = .ok outcome →
        events.filterMap (Record.text? "statement") = outcome.statements ∧
          events.filter Record.isWarning =
            outcome.notices.map (Notice.warning (engine.telling source table)) ∧
          ∀ event ∈ events, event.message? ≠ some failureMessage) ∧
      ∀ error, result = .error error →
        ∃ statement before clause behind told,
          engine.read source = .ok (.alterTable statement) ∧
          statement.clauses = before ++ clause :: behind ∧
          List.Forall₂ (Told engine connector (engine.telling source table)) before told ∧
          Refused engine connector clause error ∧
          events = openingEvent statement ::
              (told.flatten ++
                (ambiguity clause).map (Notice.warning (engine.telling source table))) ++
            [failureEvent (engine.telling source table) error] ∧
          ∀ event ∈ events.dropLast, event.message? ≠ some failureMessage := by
  refine ⟨_, (engine.run connector source).records (engine.telling source table),
    translation_eq engine connector source table, rfl, rfl, ?done, ?failed⟩
  case done =>
    intro outcome relayed
    unfold Engine.relay Run.outcome at relayed
    split at relayed
    · cases relayed
    · rename_i done
      cases relayed
      rw [Run.records, done]
      simp only [Option.toList_none, List.map_nil, List.append_nil]
      exact ⟨records_statements _ _, records_warnings _ _, records_quiet _ _⟩
  case failed =>
    intro error relayed
    -- Only the translation of a clause fails, so there is a first clause that is refused.
    obtain ⟨statement, read⟩ := alterTable_of_failed relayed
    obtain ⟨before, clause, behind, split, earlier, refused⟩ := (relay_eq_error_iff read).mp relayed
    refine ⟨statement, before, clause, behind, _, read, split, told_of_clauses earlier, refused, ?_,
      ?quiet⟩
    case quiet =>
      rw [Run.records_of_failed (failure_of_outcome relayed), List.dropLast_concat]
      exact records_quiet _ _
    rw [Engine.run, read, ← List.flatMap_def]
    exact records_of_first split earlier refused

/-- A statement that fails at an addition of two columns. -/
def failingSource : String := "ALTER TABLE t DROP a, ADD (b VARCHAR(x), c INT), DROP d"

theorem log_tells_outcome_failing :
    (Engine.translation {} .mysql failingSource "t").1 =
        .error (.malformedNumericArgument "b" "x") ∧
      (Engine.translation {} .mysql failingSource "t").2.filterMap Record.message? =
        ["translating ALTER TABLE", "parsed drop column DDL",
          "ADD declares several columns, only the first is translated",
          "failed to translate DDL"] ∧
      ∃ events,
        (Engine.translation {} .mysql failingSource "t").2 = spanRecord .mysql "t" :: events ∧
        ∀ event ∈ events.dropLast, event.message? ≠ some failureMessage := by
  have failed : (Engine.translation {} .mysql failingSource "t").1 =
      .error (.malformedNumericArgument "b" "x") := by
    decide +kernel
  obtain ⟨result, events, translated, -, -, -, fails⟩ :=
    log_tells_outcome {} .mysql failingSource "t"
  rw [translated] at failed
  obtain ⟨-, -, -, -, -, -, -, -, -, -, quiet⟩ := fails _ failed
  refine ⟨translated ▸ failed, by decide +kernel, events, by rw [translated], quiet⟩

end AlterRelay.Relay
