/-
# AlterRelay.Proofs.Doris.Pieces — a schema change as fixed text and names

The text of a schema change is put together from pieces: fixed text, the parts of the
table between its dots, and column names. Quoting is a choice made for each name on its
own, and nothing else depends on it (`SchemaChange.text_eq_join`). So the texts of a
change with and without quoting are the same pieces, with every name as quoted or as it
was given.
-/
import AlterRelay.Proofs.Doris.WrittenChange

namespace AlterRelay.Doris

open AlterRelay.Text

set_option autoImplicit false

inductive Piece where
  | fixed (text : String)
  | tablePart (part : String)
  | columnName (name : String)
  deriving DecidableEq, Repr

/-- A part of a table is left alone if it stands in back-quotes already. -/
def Piece.quoted : Piece → String
  | fixed text => text
  | tablePart part => String.ofList (quotedPart part.toList)
  | columnName name => String.ofList (backQuoted name.toList)

def Piece.verbatim : Piece → String
  | fixed text => text
  | tablePart part => part
  | columnName name => name

def Piece.text (quoting : Bool) (piece : Piece) : String :=
  if quoting then piece.quoted else piece.verbatim

/-- The parts of a table with dots between them. -/
def tablePieces (table : String) : List Piece :=
  ((tableParts table).map Piece.tablePart).intersperse (.fixed ".")

def SchemaChange.actionPieces : SchemaChange → List Piece
  | addColumn column =>
      [.fixed " ADD COLUMN ", .columnName column.name,
        .fixed (" " ++ column.type ++ column.options)]
  | dropColumn name => [.fixed " DROP COLUMN ", .columnName name]
  | renameColumn oldName newName =>
      [.fixed " RENAME COLUMN ", .columnName oldName, .fixed " ", .columnName newName]

def SchemaChange.pieces (table : String) (change : SchemaChange) : List Piece :=
  .fixed "ALTER TABLE " :: (tablePieces table ++ change.actionPieces)

theorem map_intersperse {α β : Type} (make : α → β) (separator : α) (values : List α) :
    (values.intersperse separator).map make =
      (values.map make).intersperse (make separator) := by
  induction values with
  | nil => rfl
  | cons first others ih =>
      cases others with
      | nil => rfl
      | cons second others => simpa using ih

section

variable (quoting : Bool)

theorem columnText_eq_text (name : String) :
    columnText quoting name = (Piece.columnName name).text quoting := by
  cases quoting <;> rfl

theorem action_eq_join (change : SchemaChange) :
    change.action quoting = String.join (change.actionPieces.map (Piece.text quoting)) := by
  have fixed (text : String) : (Piece.fixed text).text quoting = text := by cases quoting <;> rfl
  cases change <;>
    simp [SchemaChange.action_addColumn, SchemaChange.action_dropColumn,
      SchemaChange.action_renameColumn, SchemaChange.actionPieces, columnText_eq_text, fixed,
      String.append_assoc]

theorem tableText_eq_join (table : String) :
    tableText quoting table = String.join ((tablePieces table).map (Piece.text quoting)) := by
  have dot : ((Piece.fixed ".").text quoting).toList = ['.'] := by cases quoting <;> rfl
  have joined : (String.join ((tablePieces table).map (Piece.text quoting))).toList =
      ['.'].intercalate ((tableParts table).map fun part =>
        ((Piece.tablePart part).text quoting).toList) := by
    rw [String.toList_join, List.flatMap_def, tablePieces, map_intersperse, map_intersperse, dot,
      List.map_map, List.map_map]
    rfl
  rw [← String.toList_inj, joined, tableParts, List.map_map]
  cases quoting with
  | true => simp [tableText, quotedTable, Piece.text, Piece.quoted, Function.comp_def]
  | false =>
      simp [tableText, Piece.text, Piece.verbatim, Function.comp_def, List.intercalate_splitOn]

/-- A change is written piece by piece. -/
theorem SchemaChange.text_eq_join (table : String) (change : SchemaChange) :
    change.text quoting table = String.join ((change.pieces table).map (Piece.text quoting)) := by
  have fixed : (Piece.fixed "ALTER TABLE ").text quoting = "ALTER TABLE " := by
    cases quoting <;> rfl
  rw [SchemaChange.text, tableText_eq_join, action_eq_join, SchemaChange.pieces, List.map_cons,
    List.map_append, String.join_cons, String.join_append, fixed, String.append_assoc]

end

end AlterRelay.Doris
