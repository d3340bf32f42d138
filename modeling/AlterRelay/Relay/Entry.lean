/-
# AlterRelay.Relay.Entry — what happened to a statement, step by step

The work on a statement leaves a list of entries. Everything that is told of the
work is read off them: an entry writes at most one schema change
(`Entry.statement?`), gives at most one notice (`Entry.notice?`), and makes
exactly one record in the log (`Entry.record`). So the outcome and the log tell
of the same entries in the same order.
-/
import AlterRelay.Doris.SchemaChange
import AlterRelay.Log.Record
import AlterRelay.Relay.Notice
import AlterRelay.Relay.RelayError
import AlterRelay.Sql.StatementReader

namespace AlterRelay.Relay

open AlterRelay.Column (ColumnOption)
open AlterRelay.Doris (SchemaChange)
open AlterRelay.Log (FieldValue Record)
open AlterRelay.Sql (DataType Operation ParseError TableName)

set_option autoImplicit false

/-- One step of the work on a statement. -/
inductive Entry where
  | unreadable (error : ParseError)
  | otherStatement (keyword : String)
  | started (source : TableName) (clauses : Nat)
  | severalColumns (column : String) (declarations : Nat)
  | missingValue (column : String) (option : ColumnOption)
  | applied (change : SchemaChange)
  | appliedAsRename (oldName newName : String) (type : DataType)
  | passedOver (operation : Operation)
  deriving DecidableEq, Repr

/-- How the entries of a run are told: whether names are quoted, the source text, and
the table that the changes apply to. -/
structure Telling where
  quoting : Bool
  source : String
  table : String
  deriving DecidableEq, Repr

namespace Entry

/-- The change that an entry makes. -/
def change? : Entry → Option SchemaChange
  | applied change => some change
  | appliedAsRename oldName newName _ => some (.renameColumn oldName newName)
  | _ => none

/-- The change of an entry, written against the table. -/
def statement? (telling : Telling) (entry : Entry) : Option String :=
  entry.change?.map (SchemaChange.text telling.quoting telling.table)

/-- What whoever sent the statement is told of an entry. -/
def notice? : Entry → Option Notice
  | unreadable error => some (.syntaxError error.message)
  | otherStatement keyword => some (.unsupportedStatement keyword)
  | severalColumns column declarations => some (.severalColumns column declarations)
  | missingValue column option => some (.missingOptionValue column option)
  | appliedAsRename oldName newName type => some (.typeChangeIgnored oldName newName type.text)
  | passedOver operation => some (.unsupportedOperation operation.text)
  | started _ _ | applied _ => none

end Entry

/-! ## The log -/

def changeMessage : SchemaChange → String
  | .addColumn _ => "parsed add column DDL"
  | .dropColumn _ => "parsed drop column DDL"
  | .renameColumn _ _ => "parsed rename column DDL"

/-- What the log is told of an entry. -/
def Entry.record (telling : Telling) : Entry → Record
  | unreadable error =>
      .event .warn "failed to parse DDL"
        [("error", .text error.message), ("ddl", .text telling.source)]
  | otherStatement _ => .event .warn "unsupported DDL statement" [("ddl", .text telling.source)]
  | started source clauses =>
      .event .debug "translating ALTER TABLE"
        [("source_table", .text source.text), ("expressions", .number clauses)]
  | severalColumns column declarations =>
      .event .warn "ADD declares several columns, only the first is translated"
        [("column", .text column), ("declarations", .number declarations),
          ("ddl", .text telling.source)]
  | missingValue column option =>
      .event .warn "column spec keyword has no value"
        [("column", .text column), ("keyword", .text option.keyword)]
  | applied change =>
      .event .info (changeMessage change)
        [("statement", .text (change.text telling.quoting telling.table))]
  | appliedAsRename oldName newName _ =>
      .event .warn "Doris only supports renaming columns, CHANGE is applied as a rename"
        [("statement", .text
          ((SchemaChange.renameColumn oldName newName).text telling.quoting telling.table))]
  | passedOver operation =>
      .event .warn "unsupported alter operation"
        [("operation", .text operation.text), ("ddl", .text telling.source)]

/-- The record of an error that ended the work. -/
def RelayError.record (telling : Telling) (error : RelayError) : Record :=
  .event .warn "failed to translate DDL"
    [("error", .text error.message), ("ddl", .text telling.source)]

end AlterRelay.Relay
