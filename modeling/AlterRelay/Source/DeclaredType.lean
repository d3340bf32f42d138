/-
# AlterRelay.Source.DeclaredType — a declared column type, taken apart

The name of a declared type is a list of words in any ASCII case. `UNSIGNED` and
`ZEROFILL` make it unsigned and `SIGNED` says nothing; wherever they stand, they
are taken out, and the words that are left make up the base.
-/
import AlterRelay.Text.Blank

namespace AlterRelay.Source

open AlterRelay.Text

set_option autoImplicit false

structure DeclaredType where
  /-- The words of the name in capitals, with one blank between them. -/
  base : String
  unsigned : Bool
  length : Option UInt32
  scale : Option UInt32
  deriving DecidableEq, Repr

def isUnsignedWord (word : String) : Bool := word == "UNSIGNED" || word == "ZEROFILL"

def isSignWord (word : String) : Bool := isUnsignedWord word || word == "SIGNED"

/-- The words of a type name, in capitals. -/
def typeWords (name : String) : List String :=
  (words name.toUpper.toList).map String.ofList

def DeclaredType.ofText (name : String) (length scale : Option UInt32) : DeclaredType :=
  let words := typeWords name
  { base := " ".intercalate (words.filter fun word => !isSignWord word)
    unsigned := words.any isUnsignedWord
    length, scale }

end AlterRelay.Source
