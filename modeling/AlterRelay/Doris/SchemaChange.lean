/-
# AlterRelay.Doris.SchemaChange — the schema changes of a Doris table

Doris takes three changes of a table's columns: one is added, dropped or
renamed. Their texts differ only in how names are written: with quoting on, a
column name stands in back-quotes, and so does every dot-separated part of the
table name, unless it stands in back-quotes already; with quoting off, names are
written as they are.

A default value is written as a literal, except the two values that Doris reads
bare. A comment of nothing but blanks is left out.
-/
import AlterRelay.Text.Blank
import AlterRelay.Text.LetterCase
import AlterRelay.Text.Quoted

namespace AlterRelay.Doris

open AlterRelay.Text

set_option autoImplicit false

/-- A column to be added, with its Doris type written out. -/
structure NewColumn where
  name : String
  type : String
  defaultValue : Option String := none
  comment : Option String := none
  deriving DecidableEq, Repr

inductive SchemaChange where
  | addColumn (column : NewColumn)
  | dropColumn (name : String)
  | renameColumn (oldName newName : String)
  deriving DecidableEq, Repr

/-! ## Names and literals -/

/-- The name of a column is one part, whatever dots are in it. -/
def columnText (quoting : Bool) (name : String) : String :=
  if quoting then String.ofList (backQuoted name.toList) else name

/-- One part of a table name; a part in back-quotes is kept. -/
def quotedPart (part : List Char) : List Char :=
  if isWrappedIn backQuote part then part else backQuoted part

/-- The dots of a table name separate its parts. -/
def quotedTable (table : List Char) : List Char :=
  ['.'].intercalate ((table.splitOn '.').map quotedPart)

def tableText (quoting : Bool) (table : String) : String :=
  if quoting then String.ofList (quotedTable table.toList) else table

def literalText (value : String) : String := String.ofList (singleQuoted value.toList)

/-- The two values that are keywords to Doris, in any case. -/
def isBareDefault (value : String) : Bool :=
  sameIgnoringCase value "CURRENT_TIMESTAMP" || sameIgnoringCase value "NULL"

def defaultText (value : String) : String :=
  if isBareDefault value then value else literalText value

/-! ## Statements -/

/-- The default value, and the comment behind it. -/
def NewColumn.options (column : NewColumn) : String :=
  let defaultValue :=
    match column.defaultValue with
    | none => ""
    | some value => " DEFAULT " ++ defaultText value
  let comment :=
    match column.comment with
    | none => ""
    | some comment => if allBlank comment then "" else " COMMENT " ++ literalText comment
  defaultValue ++ comment

/-- What stands behind the table name. -/
def SchemaChange.action (quoting : Bool) : SchemaChange → String
  | addColumn column =>
      " ADD COLUMN " ++ columnText quoting column.name ++ " " ++ column.type ++ column.options
  | dropColumn name => " DROP COLUMN " ++ columnText quoting name
  | renameColumn oldName newName =>
      " RENAME COLUMN " ++ columnText quoting oldName ++ " " ++ columnText quoting newName

section

variable (quoting : Bool)

theorem SchemaChange.action_addColumn (column : NewColumn) :
    (addColumn column).action quoting =
      " ADD COLUMN " ++ columnText quoting column.name ++ " " ++ column.type ++ column.options :=
  rfl

theorem SchemaChange.action_dropColumn (name : String) :
    (dropColumn name).action quoting = " DROP COLUMN " ++ columnText quoting name := rfl

theorem SchemaChange.action_renameColumn (oldName newName : String) :
    (renameColumn oldName newName).action quoting =
      " RENAME COLUMN " ++ columnText quoting oldName ++ " " ++ columnText quoting newName := rfl

end

/-- The statement that applies a change to a table. -/
def SchemaChange.text (quoting : Bool) (table : String) (change : SchemaChange) : String :=
  "ALTER TABLE " ++ tableText quoting table ++ change.action quoting

end AlterRelay.Doris
