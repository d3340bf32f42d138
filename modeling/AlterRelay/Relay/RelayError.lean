/-
# AlterRelay.Relay.RelayError — what keeps a whole statement from being relayed

Each of these ends the work on a statement: a clause that lacks what its
operation is about, a size that is no numeral, or a type without a Doris type.
-/
import AlterRelay.Sql.Statement
import AlterRelay.Source.TypeResolver

namespace AlterRelay.Relay

open AlterRelay.Source (TypeError)
open AlterRelay.Sql (Operation)

set_option autoImplicit false

/-- A name that a clause can lack. -/
inductive ClauseName where
  | column
  | oldColumn
  deriving DecidableEq, Repr

def ClauseName.text : ClauseName → String
  | column => "column name"
  | oldColumn => "old column name"

inductive RelayError where
  | malformedNumericArgument (column argument : String)
  | typeResolution (column : String) (cause : TypeError)
  | missingDefinition (operation : Operation)
  | incompleteClause (operation : Operation) (missing : ClauseName)
  deriving DecidableEq, Repr

def RelayError.message : RelayError → String
  | malformedNumericArgument column argument =>
      "malformed numeric argument '" ++ argument ++ "' in the type of column '" ++ column ++ "'"
  | typeResolution column cause =>
      "cannot resolve the type of column '" ++ column ++ "': " ++ cause.message
  | missingDefinition operation => operation.text ++ " expression carries no column definition"
  | incompleteClause operation missing =>
      operation.text ++ " expression has no " ++ missing.text

end AlterRelay.Relay
