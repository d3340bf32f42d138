/-
# AlterRelay.Text.Blank — white space

White space is the `White_Space` property of the character standard: the ASCII
control blanks, the space, and the wider blanks of the table. Zero-width
characters are not blank, and neither are the separators 0x1C to 0x1F.

`trimBlank` drops blanks at both ends, and `words` are the maximal runs without
a blank.
-/
import AlterRelay.Text.CodeRanges

namespace AlterRelay.Text

set_option autoImplicit false

def blankRanges : List (Nat × Nat) := [
  (0x9, 0xD), (0x20, 0x20), (0x85, 0x85), (0xA0, 0xA0), (0x1680, 0x1680), (0x2000, 0x200A),
  (0x2028, 0x2029), (0x202F, 0x202F), (0x205F, 0x205F), (0x3000, 0x3000)]

def isBlank (c : Char) : Bool := inRanges blankRanges c

def trimBlank (text : List Char) : List Char :=
  ((text.dropWhile isBlank).reverse.dropWhile isBlank).reverse

def words (text : List Char) : List (List Char) :=
  (text.splitOnP isBlank).filter fun word => !word.isEmpty

/-- A text that holds nothing but blanks, the empty one included. -/
def allBlank (text : String) : Bool := text.toList.all isBlank

end AlterRelay.Text
