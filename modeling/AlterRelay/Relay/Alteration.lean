/-
# AlterRelay.Relay.Alteration — clauses sorted by what Doris can do with them

Doris can add, drop and rename a column. A `CHANGE` renames one and carries a
new definition with it. Any other clause is unsupported. A clause that lacks a
name or a definition of its operation is refused, and the old name is asked for
before the new one, the names before the definition.
-/
import AlterRelay.Column.TypeSizes
import AlterRelay.Relay.RelayError

namespace AlterRelay.Relay

open AlterRelay.Column (TypeSizes)
open AlterRelay.Source (Connector TypeResolver)
open AlterRelay.Sql (Clause ColumnDefinition Operation)

set_option autoImplicit false

/-- What a clause asks for, with all that it takes to do it. -/
inductive Alteration where
  /-- The first declared column, and how many columns are declared. -/
  | add (definition : ColumnDefinition) (declarations : Nat)
  | drop (column : String)
  | change (oldName newName : String) (definition : ColumnDefinition)
  | rename (oldName newName : String)
  | unsupported (operation : Operation)
  deriving DecidableEq, Repr

/-- The column of a clause, which has to be there. -/
def columnOf (clause : Clause) : Except RelayError String :=
  match clause.column with
  | some name => .ok name
  | none => .error (.incompleteClause clause.operation .column)

def oldColumnOf (clause : Clause) : Except RelayError String :=
  match clause.oldColumn with
  | some name => .ok name
  | none => .error (.incompleteClause clause.operation .oldColumn)

def definitionOf (clause : Clause) : Except RelayError ColumnDefinition :=
  match clause.definitions with
  | first :: _ => .ok first
  | [] => .error (.missingDefinition clause.operation)

/-- Every clause asks for one alteration, or lacks something that it needs. -/
def Alteration.ofClause (clause : Clause) : Except RelayError Alteration :=
  match clause.operation with
  | .add => do
      let definition ← definitionOf clause
      pure (.add definition clause.definitions.length)
  | .drop => do
      let column ← columnOf clause
      pure (.drop column)
  | .change => do
      let oldName ← oldColumnOf clause
      let newName ← columnOf clause
      let definition ← definitionOf clause
      pure (.change oldName newName definition)
  | .rename => do
      let oldName ← oldColumnOf clause
      let newName ← columnOf clause
      pure (.rename oldName newName)
  | operation => pure (.unsupported operation)

/-! ## The type of a column to be added -/

/-- The sizes of a type, with errors that tell the column. -/
def sizesOf (definition : ColumnDefinition) : Except RelayError TypeSizes :=
  match TypeSizes.ofArguments definition.type.arguments with
  | .ok sizes => .ok sizes
  | .error argument => .error (.malformedNumericArgument definition.name argument)

/-- The Doris type of a column, as the resolver writes it. -/
def targetType (resolver : TypeResolver) (connector : Connector) (definition : ColumnDefinition) :
    Except RelayError String := do
  let sizes ← sizesOf definition
  match resolver connector definition.type.name sizes.length sizes.scale with
  | .ok type => pure type
  | .error cause => .error (.typeResolution definition.name cause)

end AlterRelay.Relay
