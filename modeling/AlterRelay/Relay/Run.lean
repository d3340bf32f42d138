/-
# AlterRelay.Relay.Run — the work on one statement

A run is the list of entries that the work has left, and the error that ended it,
if one did. Clauses are worked on in order, each on its own: a run of several
clauses is their runs one behind the other, up to the first that fails. A
failed run keeps its entries for the log, but it has no outcome.

Within an `ADD`, a surplus of columns is noticed before the type is resolved, and
options without a value after it.
-/
import AlterRelay.Relay.Alteration
import AlterRelay.Relay.Config
import AlterRelay.Relay.Entry

namespace AlterRelay.Relay

open AlterRelay.Column (ColumnOption)
open AlterRelay.Doris (NewColumn)
open AlterRelay.Log (Record)
open AlterRelay.Source (Connector TypeResolver)
open AlterRelay.Sql (Clause ColumnDefinition ParseError Statement)

set_option autoImplicit false

/-! ## Runs -/

/-- The entries of some work, and the error that ended it. -/
structure Run where
  entries : List Entry
  failure : Option RelayError := none
  deriving DecidableEq, Repr

/-- Goes on with another run, unless this one has failed. -/
def Run.followedBy (first second : Run) : Run :=
  match first.failure with
  | some _ => first
  | none => ⟨first.entries ++ second.entries, second.failure⟩

/-- What the work on a source gives: statements for Doris, and notices for whoever sent it. -/
structure Outcome where
  statements : List String
  notices : List Notice
  deriving DecidableEq, Repr

/-- A failed run has no outcome, even if it has made changes before it failed. -/
def Run.outcome (telling : Telling) (run : Run) : Except RelayError Outcome :=
  match run.failure with
  | some error => .error error
  | none =>
      .ok ⟨run.entries.filterMap (Entry.statement? telling), run.entries.filterMap Entry.notice?⟩

/-- The log has the entries of a failed run too, and its error at the end. -/
def Run.records (telling : Telling) (run : Run) : List Record :=
  run.entries.map (Entry.record telling) ++ run.failure.toList.map (RelayError.record telling)

/-! ## Clauses -/

def newColumn (definition : ColumnDefinition) (type : String) : NewColumn :=
  { name := definition.name
    type
    defaultValue := (ColumnOption.defaultValue.lookup definition.specs).value?
    comment := (ColumnOption.comment.lookup definition.specs).value? }

/-- Only the first of several columns is added. The others are noticed, by their number. -/
def surplusEntries (definition : ColumnDefinition) (declarations : Nat) : List Entry :=
  if declarations = 1 then [] else [.severalColumns definition.name declarations]

/-- An option at the end of a definition, with no value behind it. -/
def danglingEntries (definition : ColumnDefinition) (option : ColumnOption) : List Entry :=
  if option.lookup definition.specs = .dangling then [.missingValue definition.name option] else []

/-- The notices about the options stand in front of the change. -/
def addedEntries (definition : ColumnDefinition) (type : String) : List Entry :=
  danglingEntries definition .defaultValue ++ danglingEntries definition .comment ++
    [.applied (.addColumn (newColumn definition type))]

/-- How statements are read, types are resolved and changes are made. -/
structure Engine where
  read : String → Except ParseError Statement := Statement.parse
  resolver : TypeResolver := TypeResolver.doris
  config : Config := {}

namespace Engine

/-- A change of a column is a rename at most, since its type is not changed. -/
def alterationRun (engine : Engine) (connector : Connector) : Alteration → Run
  | .add definition declarations =>
      match targetType engine.resolver connector definition with
      | .error error => ⟨surplusEntries definition declarations, some error⟩
      | .ok type => ⟨surplusEntries definition declarations ++ addedEntries definition type, none⟩
  | .drop column => ⟨[.applied (.dropColumn column)], none⟩
  | .change oldName newName definition =>
      if engine.config.changeAsRename then
        ⟨[.appliedAsRename oldName newName definition.type], none⟩
      else ⟨[.passedOver .change], none⟩
  | .rename oldName newName => ⟨[.applied (.renameColumn oldName newName)], none⟩
  | .unsupported operation => ⟨[.passedOver operation], none⟩

def clauseRun (engine : Engine) (connector : Connector) (clause : Clause) : Run :=
  match Alteration.ofClause clause with
  | .error error => ⟨[], some error⟩
  | .ok alteration => engine.alterationRun connector alteration

/-- Clauses are worked on in order, up to the first that fails. -/
def clausesRun (engine : Engine) (connector : Connector) : List Clause → Run
  | [] => ⟨[], none⟩
  | clause :: more =>
      (engine.clauseRun connector clause).followedBy (engine.clausesRun connector more)

/-! ## Statements -/

def statementRun (engine : Engine) (connector : Connector) : Statement → Run
  | .other keyword => ⟨[.otherStatement keyword], none⟩
  | .alterTable statement =>
      Run.followedBy ⟨[.started statement.table statement.clauses.length], none⟩
        (engine.clausesRun connector statement.clauses)

/-- The work on a source text. A text that cannot be read is noticed and gives nothing. -/
def run (engine : Engine) (connector : Connector) (source : String) : Run :=
  match engine.read source with
  | .error error => ⟨[.unreadable error], none⟩
  | .ok statement => engine.statementRun connector statement

def telling (engine : Engine) (source table : String) : Telling :=
  ⟨engine.config.quoteIdentifiers, source, table⟩

/-- The schema changes for a source text, written against `table`, with all notices. -/
def relay (engine : Engine) (connector : Connector) (source table : String) :
    Except RelayError Outcome :=
  (engine.run connector source).outcome (engine.telling source table)

/-- The log of the work on a source text: a span, and a record for every step. -/
def log (engine : Engine) (connector : Connector) (source table : String) : List Record :=
  .span .trace "ddl::translate"
      [("connector", .text connector.label), ("target_table", .text table)] ::
    (engine.run connector source).records (engine.telling source table)

end Engine

end AlterRelay.Relay
