/-
# AlterRelay.Json.Document — reading a JSON document

A document is one value. `value?` reads a value off the front of the symbols,
`items?` and `members?` the rest of an array or object behind its first bracket.
Each tells what is left together with the proof that it is shorter, and that is
why the reading ends.
-/
import AlterRelay.Json.Symbol

namespace AlterRelay.Json

set_option autoImplicit false

/-- A result and the symbols left, fewer than there were. -/
abbrev Read (α : Type) (symbols : List Symbol) : Type :=
  Option (α × { rest : List Symbol // rest.length < symbols.length })

mutual

def value? (symbols : List Symbol) : Read Value symbols :=
  match symbols with
  | .scalar value :: rest => some (value, ⟨rest, by simp⟩)
  | .openArray :: .closeArray :: rest =>
      some (.array [], ⟨rest, by simp only [List.length_cons]; omega⟩)
  | .openArray :: rest =>
      match items? rest with
      | some (items, ⟨left, shorter⟩) =>
          some (.array items, ⟨left, by simp only [List.length_cons]; omega⟩)
      | none => none
  | .openObject :: .closeObject :: rest =>
      some (.object [], ⟨rest, by simp only [List.length_cons]; omega⟩)
  | .openObject :: rest =>
      match members? rest with
      | some (members, ⟨left, shorter⟩) =>
          some (.object members, ⟨left, by simp only [List.length_cons]; omega⟩)
      | none => none
  | _ => none
termination_by 2 * symbols.length
decreasing_by
  · simp only [List.length_cons]
    omega
  · simp only [List.length_cons]
    omega

/-- Values separated by commas, up to the closing bracket. -/
def items? (symbols : List Symbol) : Read (List Value) symbols :=
  match value? symbols with
  | some (first, ⟨.closeArray :: rest, shorter⟩) =>
      some ([first], ⟨rest, by simp at shorter; omega⟩)
  | some (first, ⟨.comma :: rest, shorter⟩) =>
      match items? rest with
      | some (more, ⟨left, shorter'⟩) =>
          some (first :: more, ⟨left, by simp at shorter; omega⟩)
      | none => none
  | _ => none
termination_by 2 * symbols.length + 1
decreasing_by
  · omega
  · simp only [List.length_cons] at shorter
    omega

/-- Keys with their values separated by commas, up to the closing bracket. -/
def members? (symbols : List Symbol) : Read (List (Option String × Value)) symbols :=
  match symbols with
  | .scalar (.text key) :: .colon :: rest =>
      match value? rest with
      | some (value, ⟨.closeObject :: left, shorter⟩) =>
          some ([(key, value)], ⟨left, by simp at shorter ⊢; omega⟩)
      | some (value, ⟨.comma :: left, shorter⟩) =>
          match members? left with
          | some (more, ⟨final, shorter'⟩) =>
              some ((key, value) :: more, ⟨final, by simp at shorter ⊢; omega⟩)
          | none => none
      | _ => none
  | _ => none
termination_by 2 * symbols.length + 1
decreasing_by
  · simp only [List.length_cons]
    omega
  · simp only [List.length_cons] at shorter ⊢
    omega

end

/-- The value of a whole document. -/
def Value.parse? (document : String) : Option Value := do
  let symbols ← symbolsOf? document.toList
  let (value, left) ← value? symbols
  if left.val.isEmpty then some value else none

end AlterRelay.Json
