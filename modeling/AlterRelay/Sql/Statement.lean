/-
# AlterRelay.Sql.Statement — statements of a source database

Only `ALTER TABLE` is kept in full: a table and a list of clauses. Of any other
statement the leading keyword is kept.

A clause names its operation and carries the columns that the operation is
about. A clause read from a statement keeps the contract of its operation; one
built by hand may lack a name or a definition, and whoever uses it has to ask.

The texts are the display forms that notices and logs show.
-/
namespace AlterRelay.Sql

set_option autoImplicit false

/-! ## Columns -/

/-- A declared type: its name with the attributes behind it, such as `INT UNSIGNED`, the
text of every argument in parentheses, and the name of a character set. -/
structure DataType where
  name : String
  arguments : List String
  characterSet : Option String
  deriving DecidableEq, Repr

/-- A type as it is displayed, with its arguments and its character set. -/
def DataType.text (type : DataType) : String :=
  let arguments :=
    if type.arguments.isEmpty then "" else "(" ++ ", ".intercalate type.arguments ++ ")"
  let characterSet :=
    match type.characterSet with
    | none => ""
    | some name => " CHARACTER SET " ++ name
  type.name ++ arguments ++ characterSet

/-- A column with its type and the raw text of every token behind the type. -/
structure ColumnDefinition where
  name : String
  type : DataType
  specs : List String
  deriving DecidableEq, Repr

def ColumnDefinition.text (definition : ColumnDefinition) : String :=
  " ".intercalate (definition.name :: definition.type.text :: definition.specs)

/-! ## Clauses -/

/-- What a clause is about. -/
inductive Operation where
  | add
  | drop
  | change
  | rename
  | modify
  | alterColumn
  | renameTable
  | addIndex
  | dropIndex
  | addConstraint
  | dropConstraint
  | dropPrimaryKey
  | other (keyword : String)
  deriving DecidableEq, Repr

def Operation.text : Operation → String
  | add => "ADD"
  | drop => "DROP"
  | change => "CHANGE"
  | rename => "RENAME"
  | modify => "MODIFY"
  | alterColumn => "ALTER"
  | renameTable => "RENAME_TABLE"
  | addIndex => "ADD_INDEX"
  | dropIndex => "DROP_INDEX"
  | addConstraint => "ADD_CONSTRAINT"
  | dropConstraint => "DROP_CONSTRAINT"
  | dropPrimaryKey => "DROP_PRIMARY_KEY"
  | other keyword => keyword

/-- An operation, with as much as it has of names and definitions. -/
structure Clause where
  operation : Operation
  column : Option String := none
  oldColumn : Option String := none
  definitions : List ColumnDefinition := []
  deriving DecidableEq, Repr

/-! ## Statements -/

/-- A name of one or more parts, such as `db.users`. -/
structure TableName where
  parts : List String
  deriving DecidableEq, Repr

def TableName.text (table : TableName) : String := ".".intercalate table.parts

/-- A statement that alters a table. -/
structure AlterTable where
  table : TableName
  ifExists : Bool
  clauses : List Clause
  deriving DecidableEq, Repr

/-- A statement that alters a table, or another one, by its first keyword. -/
inductive Statement where
  | alterTable (statement : AlterTable)
  | other (keyword : String)
  deriving DecidableEq, Repr

end AlterRelay.Sql
