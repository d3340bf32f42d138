/-
# AlterRelay.Json.Fields — settings read from a document

Settings are fields with names in a fixed order. An object gives them by name: a
name may come once, other names are passed over, and every key has to be a
string. An array gives them by place, and may be shorter but not longer than the
list of names.

One of a fixed set of choices is given by its name, or by an object of that name
alone with null behind it.
-/
import AlterRelay.Json.Document

namespace AlterRelay.Json

set_option autoImplicit false

/-- The values given to the named fields, in the order of the names. -/
def Value.fields? (names : List String) : Value → Option (List (Option Value))
  | array items =>
      if items.length ≤ names.length then
        some (items.map some ++ List.replicate (names.length - items.length) none)
      else none
  | object members =>
      let keys := members.map Prod.fst
      if keys.all Option.isSome && names.all fun name => keys.count (some name) ≤ 1 then
        some (names.map fun name => members.lookup (some name))
      else none
  | _ => none

/-- Reads a field, if it was given. -/
def given? {α : Type} (read : Value → Option α) : Option Value → Option (Option α)
  | none => some none
  | some value => (read value).map some

def Value.switch? : Value → Option Bool
  | bool value => some value
  | _ => none

def Value.string? : Value → Option String
  | text value => value
  | _ => none

def Value.choice? {α : Type} (choices : List (String × α)) : Value → Option α
  | text (some name) => choices.lookup name
  | object [(some name, null)] => choices.lookup name
  | _ => none

end AlterRelay.Json
