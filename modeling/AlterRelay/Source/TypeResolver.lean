/-
# AlterRelay.Source.TypeResolver — resolving a declared type for a connector

A resolver answers with the text of the target type or with an error. It is a
function of the connector, the type name and the declared sizes, so that the
same question always has the same answer. `TypeResolver.doris` asks the type
table of the connector; `TypeResolver.echo` repeats the question, to show what a
resolver is asked.
-/
import AlterRelay.Source.Connector
import AlterRelay.Source.TypeTable

namespace AlterRelay.Source

open AlterRelay.Doris (ColumnType)

set_option autoImplicit false

/-- Why a type is not resolved. -/
inductive TypeError where
  | unsupportedConnector (connector : Connector)
  | unsupportedType (connector : Connector) (base : String)
  | missingLength (connector : Connector) (base : String)
  | unknownConnector (text : String)
  deriving DecidableEq, Repr

def TypeError.message : TypeError → String
  | unsupportedConnector connector => "no type mapping for connector '" ++ connector.name ++ "'"
  | unsupportedType connector base => "unsupported " ++ connector.name ++ " type '" ++ base ++ "'"
  | missingLength connector base => connector.name ++ " type '" ++ base ++ "' requires a length"
  | unknownConnector text => "unknown source connector '" ++ text ++ "'"

/-- Connectors are named in any case, with blanks around the name or without. -/
def Connector.ofText (text : String) : Except TypeError Connector :=
  match Connector.ofText? text with
  | some connector => .ok connector
  | none => .error (.unknownConnector text)

/-- The type table of a connector; the non-relational ones and DB2 have none. -/
def Connector.typeTable? : Connector → Option (DeclaredType → TypeChoice)
  | mysql => some TypeTable.mysql
  | oracle => some TypeTable.oracle
  | postgres => some TypeTable.postgres
  | sqlServer => some TypeTable.sqlServer
  | mongoDb | db2 => none

/-- The type that the connector's table has for a declared type. -/
def resolveType (connector : Connector) (declared : DeclaredType) : Except TypeError ColumnType :=
  match connector.typeTable? with
  | none => .error (.unsupportedConnector connector)
  | some table =>
      match table declared with
      | .target type => .ok type
      | .missingLength => .error (.missingLength connector declared.base)
      | .unknown => .error (.unsupportedType connector declared.base)

/-- A type as it is named in a definition, with its length and its scale. -/
abbrev TypeResolver :=
  Connector → String → Option UInt32 → Option UInt32 → Except TypeError String

namespace TypeResolver

/-- The tables of the connectors, with the answers as texts. -/
def doris : TypeResolver := fun connector name length scale =>
  (resolveType connector (.ofText name length scale)).map ColumnType.text

def sizeText : Option UInt32 → String
  | some size => toString size.toNat
  | none => "-"

/-- Answers with what it is asked. -/
def echo : TypeResolver := fun connector name length scale =>
  .ok ("/".intercalate [connector.name, name, sizeText length, sizeText scale])

end TypeResolver

end AlterRelay.Source
