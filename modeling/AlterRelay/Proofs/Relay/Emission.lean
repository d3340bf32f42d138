/-
# AlterRelay.Proofs.Relay.Emission — events and results, emitted one by one

A run keeps one entry for whatever happened, and both the log and the outcome are
read off it. The work itself has no entries. It emits an event here and pushes a
statement or a notice there, and nothing but the order of its steps keeps the two
together. `Engine.translate` is that work, step by step: every event is emitted by
a step of its own, and so is every statement and every notice pushed.

An outcome that is being made is lost when the work fails, the events are not. So
the outcome is a state inside of failure, and the log one outside of it.

The work plays a run: it emits the records of its entries, and pushes what they tell
(`Run.playedFrom`). This is shown of each step by taking it (`runFrom_emit`,
`runFrom_pushNotice`), of what a clause asks for (`runFrom_translateClause`), and by
induction of a list of clauses (`emittedFrom_clauses`). In the end both ways give the
same outcome and the same log (`translation_eq`).
-/
import AlterRelay.Proofs.Relay.Accounting

namespace AlterRelay.Relay

open AlterRelay.Column
open AlterRelay.Doris
open AlterRelay.Log (FieldValue Record)
open AlterRelay.Source
open AlterRelay.Sql

set_option autoImplicit false

/-! ## Steps -/

/-- Work that emits events and may fail; what it has emitted stays. -/
abbrev Emitting := ExceptT RelayError (StateM (List Record))

/-- Work on an outcome in the making, which is lost if it fails. -/
abbrev Translating := StateT Outcome Emitting

def emit (event : Record) : Emitting Unit := ExceptT.lift (modify (· ++ [event]))

def pushStatement (statement : String) : Translating Unit :=
  modify fun made => { made with statements := made.statements ++ [statement] }

def pushNotice (notice : Notice) : Translating Unit :=
  modify fun made => { made with notices := made.notices ++ [notice] }

/-! ## The work -/

/-- The value of an option, which is missing if its keyword is the last token. -/
def optionValue (definition : ColumnDefinition) (option : ColumnOption) (value : OptionValue) :
    Translating (Option String) := do
  if value = .dangling then
    emit (.event .warn "column spec keyword has no value"
      [("column", .text definition.name), ("keyword", .text option.keyword)])
    pushNotice (.missingOptionValue definition.name option)
  pure value.value?

namespace Engine

/-- The column that Doris is to add. Its type comes before its options. -/
def columnFor (engine : Engine) (connector : Connector) (definition : ColumnDefinition) :
    Translating NewColumn := do
  let type ← targetType engine.resolver connector definition
  let defaultValue ← optionValue definition .defaultValue
    (ColumnOption.defaultValue.lookup definition.specs)
  let comment ← optionValue definition .comment (ColumnOption.comment.lookup definition.specs)
  pure { name := definition.name, type, defaultValue, comment }

/-- The work on what a clause asks for. -/
def translateAlteration (engine : Engine) (connector : Connector) (source table : String)
    (clause : Clause) : Alteration → Translating Unit
  | .add definition declarations => do
      if declarations ≠ 1 then
        emit (.event .warn "ADD declares several columns, only the first is translated"
          [("column", .text definition.name), ("declarations", .number declarations),
            ("ddl", .text source)])
        pushNotice (.severalColumns definition.name declarations)
      let column ← engine.columnFor connector definition
      let statement := engine.written table (.addColumn column)
      emit (.event .info "parsed add column DDL" [("statement", .text statement)])
      pushStatement statement
  | .drop column => do
      let statement := engine.written table (.dropColumn column)
      emit (.event .info "parsed drop column DDL" [("statement", .text statement)])
      pushStatement statement
  | .change oldName newName definition => do
      if engine.config.changeAsRename then
        let statement := engine.written table (.renameColumn oldName newName)
        emit (.event .warn "Doris only supports renaming columns, CHANGE is applied as a rename"
          [("statement", .text statement)])
        pushNotice (.typeChangeIgnored oldName newName definition.type.text)
        pushStatement statement
      else
        emit (.event .warn "unsupported alter operation"
          [("operation", .text clause.operation.text), ("ddl", .text source)])
        pushNotice (.unsupportedOperation clause.operation.text)
  | .rename oldName newName => do
      let statement := engine.written table (.renameColumn oldName newName)
      emit (.event .info "parsed rename column DDL" [("statement", .text statement)])
      pushStatement statement
  | .unsupported operation => do
      emit (.event .warn "unsupported alter operation"
        [("operation", .text operation.text), ("ddl", .text source)])
      pushNotice (.unsupportedOperation operation.text)

def translateClause (engine : Engine) (connector : Connector) (source table : String)
    (clause : Clause) : Translating Unit := do
  engine.translateAlteration connector source table clause (← Alteration.ofClause clause)

/-- A clause goes on with the outcome that the clauses before it have made. -/
def translateNext (engine : Engine) (connector : Connector) (source table : String)
    (made : Outcome) (clause : Clause) : Emitting Outcome := do
  let ((), made) ← (engine.translateClause connector source table clause).run made
  pure made

/-- The work on the clauses of a statement. A failure is told where it leaves the work. -/
def translateAlter (engine : Engine) (connector : Connector) (source table : String)
    (statement : AlterTable) : Emitting Outcome := do
  emit (.event .debug "translating ALTER TABLE"
    [("source_table", .text statement.table.text),
      ("expressions", .number statement.clauses.length)])
  tryCatch (statement.clauses.foldlM (engine.translateNext connector source table) ⟨[], []⟩)
    fun error => do
      emit (.event .warn "failed to translate DDL"
        [("error", .text error.message), ("ddl", .text source)])
      throw error

def translate (engine : Engine) (connector : Connector) (source table : String) :
    Emitting Outcome := do
  emit (.span .trace "ddl::translate"
    [("connector", .text connector.label), ("target_table", .text table)])
  match engine.read source with
  | .error error =>
      emit (.event .warn "failed to parse DDL"
        [("error", .text error.message), ("ddl", .text source)])
      pure ⟨[], [.syntaxError error.message]⟩
  | .ok (.other keyword) =>
      emit (.event .warn "unsupported DDL statement" [("ddl", .text source)])
      pure ⟨[], [.unsupportedStatement keyword]⟩
  | .ok (.alterTable statement) => engine.translateAlter connector source table statement

/-- What the work gives in the end, and everything it has emitted. -/
def translation (engine : Engine) (connector : Connector) (source table : String) :
    Except RelayError Outcome × List Record :=
  (engine.translate connector source table).run.run []

end Engine

/-! ## Taking the steps -/

/-- The result of work that begins with a log, and the log that it leaves. -/
def emittedFrom {α : Type} (work : Emitting α) (log : List Record) :
    Except RelayError α × List Record :=
  work.run.run log

/-- The same of work that begins with an outcome in the making as well. -/
def runFrom {α : Type} (work : Translating α) (made : Outcome) (log : List Record) :
    Except RelayError (α × Outcome) × List Record :=
  emittedFrom (work.run made) log

section

variable {α β : Type}

theorem emittedFrom_bind_of_ok {work : Emitting α} {next : α → Emitting β} {value : α}
    {log log' : List Record} (done : emittedFrom work log = (.ok value, log')) :
    emittedFrom (work >>= next) log = emittedFrom (next value) log' := by
  unfold emittedFrom at done ⊢
  rw [ExceptT.run_bind, StateT.run_bind, done]
  rfl

theorem emittedFrom_bind_of_error {work : Emitting α} {next : α → Emitting β} {error : RelayError}
    {log log' : List Record} (failed : emittedFrom work log = (.error error, log')) :
    emittedFrom (work >>= next) log = (.error error, log') := by
  unfold emittedFrom at failed ⊢
  rw [ExceptT.run_bind, StateT.run_bind, failed]
  rfl

theorem emittedFrom_tryCatch_of_ok {work : Emitting α} {handle : RelayError → Emitting α}
    {value : α} {log log' : List Record} (done : emittedFrom work log = (.ok value, log')) :
    emittedFrom (tryCatch work handle) log = (.ok value, log') := by
  have result : StateT.run work log = (.ok value, log') := done
  show (ExceptT.tryCatch work handle).run.run log = _
  rw [ExceptT.tryCatch, ExceptT.run_mk, StateT.run_bind, result]
  rfl

theorem emittedFrom_tryCatch_of_error {work : Emitting α} {handle : RelayError → Emitting α}
    {error : RelayError} {log log' : List Record}
    (failed : emittedFrom work log = (.error error, log')) :
    emittedFrom (tryCatch work handle) log = emittedFrom (handle error) log' := by
  have result : StateT.run work log = (.error error, log') := failed
  show (ExceptT.tryCatch work handle).run.run log = _
  rw [ExceptT.tryCatch, ExceptT.run_mk, StateT.run_bind, result]
  rfl

theorem runFrom_bind_of_ok {work : Translating α} {next : α → Translating β} {value : α}
    {made made' : Outcome} {log log' : List Record}
    (done : runFrom work made log = (.ok (value, made'), log')) :
    runFrom (work >>= next) made log = runFrom (next value) made' log' := by
  unfold runFrom
  rw [StateT.run_bind]
  exact emittedFrom_bind_of_ok done

theorem runFrom_bind_of_error {work : Translating α} {next : α → Translating β} {error : RelayError}
    {made : Outcome} {log log' : List Record}
    (failed : runFrom work made log = (.error error, log')) :
    runFrom (work >>= next) made log = (.error error, log') := by
  unfold runFrom
  rw [StateT.run_bind]
  exact emittedFrom_bind_of_error failed

variable (made : Outcome) (log : List Record)

@[simp] theorem emittedFrom_emit (event : Record) :
    emittedFrom (emit event) log = (.ok (), log ++ [event]) := rfl

@[simp] theorem emittedFrom_throw (error : RelayError) :
    emittedFrom (throw error : Emitting α) log = (.error error, log) := rfl

@[simp] theorem runFrom_pure (value : α) :
    runFrom (pure value) made log = (.ok (value, made), log) := rfl

@[simp] theorem runFrom_of_ok (value : α) :
    runFrom (liftM (Except.ok value : Except RelayError α)) made log = (.ok (value, made), log) :=
  rfl

@[simp] theorem runFrom_of_error (error : RelayError) :
    runFrom (liftM (Except.error error : Except RelayError α)) made log = (.error error, log) :=
  rfl

@[simp] theorem runFrom_emit (event : Record) :
    runFrom (liftM (emit event)) made log = (.ok ((), made), log ++ [event]) := rfl

@[simp] theorem runFrom_pushStatement (statement : String) :
    runFrom (pushStatement statement) made log =
      (.ok ((), { made with statements := made.statements ++ [statement] }), log) := rfl

@[simp] theorem runFrom_pushNotice (notice : Notice) :
    runFrom (pushNotice notice) made log =
      (.ok ((), { made with notices := made.notices ++ [notice] }), log) := rfl

end

/-! ## Work and runs -/

/-- With what these entries tell behind it. -/
def Outcome.extended (telling : Telling) (made : Outcome) (entries : List Entry) : Outcome where
  statements := made.statements ++ entries.filterMap (Entry.statement? telling)
  notices := made.notices ++ entries.filterMap Entry.notice?

/-- The outcome that a run leads to from one in the making. -/
def Run.outcomeFrom (telling : Telling) (run : Run) (made : Outcome) : Except RelayError Outcome :=
  match run.failure with
  | some error => .error error
  | none => .ok (made.extended telling run.entries)

/-- Where a run leads to from an outcome in the making and a log. -/
def Run.playedFrom (telling : Telling) (run : Run) (made : Outcome) (log : List Record) :
    Except RelayError (Unit × Outcome) × List Record :=
  ((run.outcomeFrom telling made).map fun made => ((), made),
    log ++ run.entries.map (Entry.record telling))

theorem Run.playedFrom_entry (telling : Telling) (entry : Entry) (made : Outcome)
    (log : List Record) :
    Run.playedFrom telling ⟨[entry], none⟩ made log =
      (.ok ((), ⟨made.statements ++ (entry.statement? telling).toList,
          made.notices ++ entry.notice?.toList⟩),
        log ++ [entry.record telling]) := by
  have kept : ∀ {α : Type} (tell : Entry → Option α), [entry].filterMap tell =
      (tell entry).toList := by
    intro α tell
    cases told : tell entry <;> simp [told]
  simp [playedFrom, outcomeFrom, Except.map, Outcome.extended, kept]

theorem Outcome.extended_append (telling : Telling) (made : Outcome) (first second : List Entry) :
    (made.extended telling first).extended telling second =
      made.extended telling (first ++ second) := by
  simp [extended]

section

variable {engine : Engine} {connector : Connector} {source table : String} (made : Outcome)
  (log : List Record)

/-- An option without a value is told by one event and one notice. -/
theorem runFrom_optionValue (telling : Telling) (definition : ColumnDefinition)
    (option : ColumnOption) :
    runFrom (optionValue definition option (option.lookup definition.specs)) made log =
      (.ok ((option.lookup definition.specs).value?,
          made.extended telling (danglingEntries definition option)),
        log ++ (danglingEntries definition option).map (Entry.record telling)) := by
  unfold optionValue danglingEntries
  split
  · rw [runFrom_bind_of_ok (runFrom_emit _ _ _), runFrom_bind_of_ok (runFrom_pushNotice _ _ _)]
    simp [Outcome.extended, Entry.notice?, Entry.statement?, Entry.change?, Entry.record]
  · simp [Outcome.extended]

theorem runFrom_columnFor (telling : Telling) {definition : ColumnDefinition} {type : String}
    (typed : targetType engine.resolver connector definition = .ok type) :
    runFrom (engine.columnFor connector definition) made log =
      (.ok (newColumn definition type, made.extended telling
          (danglingEntries definition .defaultValue ++ danglingEntries definition .comment)),
        log ++ (danglingEntries definition .defaultValue ++
          danglingEntries definition .comment).map (Entry.record telling)) := by
  unfold Engine.columnFor
  rw [typed, runFrom_bind_of_ok (runFrom_of_ok _ _ _),
    runFrom_bind_of_ok (runFrom_optionValue _ _ telling _ _),
    runFrom_bind_of_ok (runFrom_optionValue _ _ telling _ _), runFrom_pure,
    Outcome.extended_append, List.map_append, List.append_assoc]
  rfl

theorem runFrom_columnFor_of_error {definition : ColumnDefinition} {error : RelayError}
    (untyped : targetType engine.resolver connector definition = .error error) :
    runFrom (engine.columnFor connector definition) made log = (.error error, log) := by
  unfold Engine.columnFor
  rw [untyped, runFrom_bind_of_error (runFrom_of_error _ _ _)]

/-- What is told of the surplus columns of an addition. -/
theorem runFrom_surplus (telling : Telling) (definition : ColumnDefinition) (declarations : Nat)
    {α : Type} (next : Translating α) :
    runFrom (if declarations ≠ 1 then do
        emit (.event .warn "ADD declares several columns, only the first is translated"
          [("column", .text definition.name), ("declarations", .number declarations),
            ("ddl", .text telling.source)])
        pushNotice (.severalColumns definition.name declarations)
        next
      else next) made log =
      runFrom next (made.extended telling (surplusEntries definition declarations))
        (log ++ (surplusEntries definition declarations).map (Entry.record telling)) := by
  unfold surplusEntries
  by_cases one : declarations = 1
  · simp [one, Outcome.extended]
  · have noticed : made.extended telling [.severalColumns definition.name declarations] =
        { made with
          notices := made.notices ++ [.severalColumns definition.name declarations] } := by
      simp [Outcome.extended, Entry.notice?, Entry.statement?, Entry.change?]
    rw [if_pos one, if_neg one, runFrom_bind_of_ok (runFrom_emit _ _ _),
      runFrom_bind_of_ok (runFrom_pushNotice _ _ _), noticed]
    rfl

/-- The work on an addition. Its type is asked for behind its surplus columns, and in front of
its options. -/
theorem runFrom_addition (clause : Clause) (definition : ColumnDefinition) (declarations : Nat) :
    runFrom (engine.translateAlteration connector source table clause
        (.add definition declarations)) made log =
      (engine.alterationRun connector (.add definition declarations)).playedFrom
        (engine.telling source table) made log := by
  have surplus := runFrom_surplus made log (engine.telling source table) definition declarations
    (do
      let column ← engine.columnFor connector definition
      let statement := engine.written table (.addColumn column)
      emit (.event .info "parsed add column DDL" [("statement", .text statement)])
      pushStatement statement)
  refine Eq.trans surplus ?_
  cases typed : targetType engine.resolver connector definition with
  | error error =>
      rw [Engine.alterationRun, typed,
        runFrom_bind_of_error (runFrom_columnFor_of_error _ _ typed)]
      rfl
  | ok type =>
      rw [Engine.alterationRun, typed,
        runFrom_bind_of_ok (runFrom_columnFor _ _ (engine.telling source table) typed),
        runFrom_bind_of_ok (runFrom_emit _ _ _), runFrom_pushStatement]
      simp [Run.playedFrom, Run.outcomeFrom, Except.map, Outcome.extended, addedEntries,
        Entry.notice?, Entry.statement?, Entry.change?, Entry.record, changeMessage,
        Engine.written, Engine.telling]

/-- A change that is applied tells itself by one event and is pushed behind it. -/
theorem runFrom_applied (change : SchemaChange) :
    runFrom (do
        let statement := engine.written table change
        emit (.event .info (changeMessage change) [("statement", .text statement)])
        pushStatement statement) made log =
      Run.playedFrom (engine.telling source table) ⟨[.applied change], none⟩ made log := by
  rw [runFrom_bind_of_ok (runFrom_emit _ _ _), runFrom_pushStatement, Run.playedFrom_entry]
  simp only [Entry.notice?, Option.toList_none, List.append_nil]
  rfl

theorem runFrom_passedOver (operation : Operation) :
    runFrom (do
        emit (.event .warn "unsupported alter operation"
          [("operation", .text operation.text), ("ddl", .text source)])
        pushNotice (.unsupportedOperation operation.text)) made log =
      Run.playedFrom (engine.telling source table) ⟨[.passedOver operation], none⟩ made log := by
  have noStatement : (Entry.passedOver operation).statement? (engine.telling source table) = none :=
    rfl
  rw [runFrom_bind_of_ok (runFrom_emit _ _ _), runFrom_pushNotice, Run.playedFrom_entry,
    noStatement, Option.toList_none, List.append_nil]
  rfl

theorem runFrom_appliedAsRename (oldName newName : String) (type : DataType) :
    runFrom (do
        let statement := engine.written table (.renameColumn oldName newName)
        emit (.event .warn "Doris only supports renaming columns, CHANGE is applied as a rename"
          [("statement", .text statement)])
        pushNotice (.typeChangeIgnored oldName newName type.text)
        pushStatement statement) made log =
      Run.playedFrom (engine.telling source table) ⟨[.appliedAsRename oldName newName type], none⟩
        made log := by
  rw [runFrom_bind_of_ok (runFrom_emit _ _ _), runFrom_bind_of_ok (runFrom_pushNotice _ _ _),
    runFrom_pushStatement, Run.playedFrom_entry]
  rfl

theorem runFrom_translateAlteration {clause : Clause} {alteration : Alteration}
    (asks : Asks clause alteration) :
    runFrom (engine.translateAlteration connector source table clause alteration) made log =
      (engine.alterationRun connector alteration).playedFrom (engine.telling source table)
        made log := by
  cases asks with
  | add => exact runFrom_addition made log clause _ _
  | drop => exact runFrom_applied made log _
  | rename => exact runFrom_applied made log _
  | unsupported => exact runFrom_passedOver made log _
  | change changes =>
      rw [Engine.translateAlteration, Engine.alterationRun, changes]
      split
      · exact runFrom_appliedAsRename made log _ _ _
      · exact runFrom_passedOver made log _

/-- The work on one clause is its run: all that it emits and pushes stands in an entry. -/
theorem runFrom_translateClause (clause : Clause) :
    runFrom (engine.translateClause connector source table clause) made log =
      (engine.clauseRun connector clause).playedFrom (engine.telling source table) made log := by
  unfold Engine.translateClause
  rcases asks_or_lacks clause with ⟨alteration, asks⟩ | ⟨error, lacks⟩
  · rw [asks.ofClause, asks.clauseRun, runFrom_bind_of_ok (runFrom_of_ok _ _ _)]
    exact runFrom_translateAlteration made log asks
  · rw [Engine.clauseRun, lacks.ofClause, runFrom_bind_of_error (runFrom_of_error _ _ _)]
    simp [Run.playedFrom, Run.outcomeFrom, Except.map]

/-! ## Statements -/

theorem emittedFrom_translateNext (clause : Clause) :
    emittedFrom (engine.translateNext connector source table made clause) log =
      ((engine.clauseRun connector clause).outcomeFrom (engine.telling source table) made,
        log ++ (engine.clauseRun connector clause).entries.map
          (Entry.record (engine.telling source table))) := by
  have here : emittedFrom ((engine.translateClause connector source table clause).run made) log =
      _ := runFrom_translateClause made log clause
  unfold Engine.translateNext
  rw [Run.playedFrom] at here
  cases leads : (engine.clauseRun connector clause).outcomeFrom (engine.telling source table)
    made with
  | error error =>
      rw [leads] at here
      exact emittedFrom_bind_of_error here
  | ok made' =>
      rw [leads] at here
      exact emittedFrom_bind_of_ok here

/-- The work on clauses is their run, from whatever outcome they go on with. -/
theorem emittedFrom_clauses (clauses : List Clause) :
    emittedFrom (clauses.foldlM (engine.translateNext connector source table) made) log =
      ((engine.clausesRun connector clauses).outcomeFrom (engine.telling source table) made,
        log ++ (engine.clausesRun connector clauses).entries.map
          (Entry.record (engine.telling source table))) := by
  induction clauses generalizing made log with
  | nil =>
      have none : made.extended (engine.telling source table) [] = made := by
        simp [Outcome.extended]
      rw [Engine.clausesRun, Run.outcomeFrom, none, List.map_nil, List.append_nil]
      rfl
  | cons clause clauses ih =>
      have here : emittedFrom (engine.translateNext connector source table made clause) log = _ :=
        emittedFrom_translateNext made log clause
      rw [Run.outcomeFrom] at here
      rw [List.foldlM_cons, Engine.clausesRun, Run.followedBy]
      cases failed : (engine.clauseRun connector clause).failure with
      -- A clause that fails ends the loop with what was emitted so far.
      | some error =>
          rw [failed] at here
          rw [emittedFrom_bind_of_error here, Run.outcomeFrom, failed]
      | none =>
          rw [failed] at here
          rw [emittedFrom_bind_of_ok here, ih, List.map_append, List.append_assoc]
          refine Prod.ext ?_ rfl
          simp only [Run.outcomeFrom, Outcome.extended_append]

/-- The work on a statement is its run: one event at its beginning, what its clauses leave, and
one event more if one of them fails. -/
theorem emittedFrom_translateAlter (statement : AlterTable) :
    emittedFrom (engine.translateAlter connector source table statement) log =
      ((engine.statementRun connector (.alterTable statement)).outcome
          (engine.telling source table),
        log ++ (engine.statementRun connector (.alterTable statement)).records
          (engine.telling source table)) := by
  let started := log ++ [.event .debug "translating ALTER TABLE"
    [("source_table", .text statement.table.text),
      ("expressions", .number statement.clauses.length)]]
  have clauses : emittedFrom (statement.clauses.foldlM
      (engine.translateNext connector source table) ⟨[], []⟩) started = _ :=
    emittedFrom_clauses _ started statement.clauses
  rw [Run.outcomeFrom] at clauses
  unfold Engine.translateAlter
  rw [emittedFrom_bind_of_ok (emittedFrom_emit log _), Engine.statementRun, Run.followedBy]
  cases failed : (engine.clausesRun connector statement.clauses).failure with
  | none =>
      rw [failed] at clauses
      rw [emittedFrom_tryCatch_of_ok clauses]
      refine Prod.ext rfl ?_
      simp [started, Run.records, Entry.record]
  | some error =>
      rw [failed] at clauses
      rw [emittedFrom_tryCatch_of_error clauses, emittedFrom_bind_of_ok (emittedFrom_emit _ _),
        emittedFrom_throw]
      refine Prod.ext rfl ?_
      simp [started, Run.records, Entry.record, RelayError.record, Engine.telling]

/-- The work on a source and its run have the same result and the same records. -/
theorem translation_eq (engine : Engine) (connector : Connector) (source table : String) :
    engine.translation connector source table =
      (engine.relay connector source table, engine.log connector source table) := by
  show emittedFrom (engine.translate connector source table) [] = _
  unfold Engine.translate Engine.relay Engine.log Engine.run
  rw [emittedFrom_bind_of_ok (emittedFrom_emit [] _)]
  cases engine.read source with
  | error error => rfl
  | ok statement =>
      cases statement with
      | other keyword => rfl
      | alterTable statement => exact emittedFrom_translateAlter _ statement

end

end AlterRelay.Relay
