/-
# AlterRelay.Column.TypeSizes — length and scale of a declared type

The first argument of a type is its length. The second is its scale if there are
exactly two; further arguments are never looked at. An argument that is looked
at has to be a numeral of 32 bits, blanks around it aside.
-/
import AlterRelay.Text.Blank
import AlterRelay.Text.Numeral

namespace AlterRelay.Column

open AlterRelay.Text

set_option autoImplicit false

structure TypeSizes where
  length : Option UInt32
  scale : Option UInt32
  deriving DecidableEq, Repr

/-- The error holds the argument that is no numeral. -/
def readSize (argument : String) : Except String UInt32 :=
  match numeral? (trimBlank argument.toList) with
  | some size => .ok size
  | none => .error argument

def TypeSizes.ofArguments (arguments : List String) : Except String TypeSizes :=
  match arguments with
  | [] => .ok ⟨none, none⟩
  | [length] => do
      let length ← readSize length
      pure ⟨some length, none⟩
  | [length, scale] => do
      let length ← readSize length
      let scale ← readSize scale
      pure ⟨some length, some scale⟩
  | length :: _ => do
      let length ← readSize length
      pure ⟨some length, none⟩

end AlterRelay.Column
