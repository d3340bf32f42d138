/-
# AlterRelay.Relay.Notice — conditions that a statement survives

A notice tells what was left out of a statement's outcome or done differently.
-/
import AlterRelay.Column.OptionValue

namespace AlterRelay.Relay

open AlterRelay.Column (ColumnOption)

set_option autoImplicit false

/-- What the sender of a statement is told, beside the statements made of it. -/
inductive Notice where
  /-- The statement could not be read, so nothing was produced. -/
  | syntaxError (message : String)
  /-- The statement is not an ALTER TABLE. -/
  | unsupportedStatement (keyword : String)
  /-- The clause has no counterpart and was passed over. -/
  | unsupportedOperation (operation : String)
  /-- Several columns were declared by one clause, and only the first was added. -/
  | severalColumns (column : String) (declarations : Nat)
  /-- A change was applied as a rename, and its type was dropped. -/
  | typeChangeIgnored (oldName newName type : String)
  /-- The keyword of an option was the last token of its column. -/
  | missingOptionValue (column : String) (option : ColumnOption)
  deriving DecidableEq, Repr

def Notice.text : Notice → String
  | syntaxError message => "failed to parse DDL: " ++ message
  | unsupportedStatement keyword => "unsupported DDL statement '" ++ keyword ++ "'"
  | unsupportedOperation operation => "unsupported alter operation '" ++ operation ++ "'"
  | severalColumns column declarations =>
      "ADD declares " ++ toString declarations ++ " columns, only '" ++ column ++ "' is translated"
  | typeChangeIgnored oldName newName type =>
      "CHANGE of '" ++ oldName ++ "' applied as rename to '" ++ newName ++ "', type " ++ type ++
        " ignored"
  | missingOptionValue column option =>
      option.keyword ++ " of column '" ++ column ++ "' has no value"

end AlterRelay.Relay
