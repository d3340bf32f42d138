/-
# AlterRelay.Json.Value — JSON values

A setting is read from a JSON document. Numbers mean nothing to any setting, so
a number is kept without its value. A text can hold escapes that spell half a
surrogate pair; no string has such a value, so it is kept as `none`.
-/
namespace AlterRelay.Json

set_option autoImplicit false

inductive Value where
  | null
  | bool (value : Bool)
  | number
  | text (value : Option String)
  | array (items : List Value)
  | object (members : List (Option String × Value))

end AlterRelay.Json
