/-
# AlterRelay.Text.CodeRanges — sets of characters given by ranges of code points

A property of the character standard is a list of closed ranges, in ascending
order and never adjacent. `inRanges` asks whether a character lies in one of
them.
-/
namespace AlterRelay.Text

set_option autoImplicit false

def inRanges (ranges : List (Nat × Nat)) (c : Char) : Bool :=
  ranges.any fun range => range.1 ≤ c.toNat && c.toNat ≤ range.2

end AlterRelay.Text
