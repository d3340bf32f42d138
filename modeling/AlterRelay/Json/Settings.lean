/-
# AlterRelay.Json.Settings — the readers of settings

The outer layer between documents and settings: the names of the fields in a document,
and what each of them is read as. The settings themselves know nothing of JSON, and
take these readers as any other.
-/
import AlterRelay.Json.Fields
import AlterRelay.Log.Setup
import AlterRelay.Relay.Config
import AlterRelay.Source.Connector

namespace AlterRelay.Json

open AlterRelay.Log (Format Settings)
open AlterRelay.Relay (Config)
open AlterRelay.Source (Connector)

set_option autoImplicit false

/-- The values of the named fields in a document. -/
def fieldsOf? (names : List String) (document : String) : Option (List (Option Value)) :=
  (Value.parse? document).bind (Value.fields? names)

def configGiven? (document : String) : Option Config.Given := do
  match ← fieldsOf? ["quote_identifiers", "translate_change_as_rename"] document with
  | [quoteIdentifiers, changeAsRename] =>
      let quoteIdentifiers ← given? Value.switch? quoteIdentifiers
      let changeAsRename ← given? Value.switch? changeAsRename
      pure { quoteIdentifiers, changeAsRename }
  | _ => none

def settingsGiven? (document : String) : Option Settings.Given := do
  match ← fieldsOf? ["filter", "format", "ansi", "target"] document with
  | [filter, format, ansi, target] =>
      let filter ← given? Value.string? filter
      let format ← given? (Value.choice? Format.named) format
      let ansi ← given? Value.switch? ansi
      let target ← given? Value.switch? target
      pure { filter, format, ansi, target }
  | _ => none

def connector? (document : String) : Option Connector :=
  (Value.parse? document).bind (Value.choice? Connector.named)

end AlterRelay.Json
