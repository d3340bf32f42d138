/-
# AlterRelay.Text.LetterCase — comparing texts without regard to ASCII case

Only the letters A to Z have a case here: `String.toUpper` and `String.toLower`
leave every other character alone, so a dotless i or a long s never equals a
Latin letter.
-/
namespace AlterRelay.Text

set_option autoImplicit false

def sameIgnoringCase (a b : String) : Bool := a.toUpper == b.toUpper

theorem sameIgnoringCase_iff {a b : String} :
    sameIgnoringCase a b = true ↔ a.toUpper = b.toUpper := by
  simp [sameIgnoringCase]

end AlterRelay.Text
