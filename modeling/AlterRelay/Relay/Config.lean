/-
# AlterRelay.Relay.Config — the switches of a relay

Both switches are on unless a document turns them off. How a document is read is not
decided here: the reader comes from outside, and so does what it says about a document
that it cannot read.
-/
namespace AlterRelay.Relay

set_option autoImplicit false

structure Config where
  /-- Names are written in back-quotes. -/
  quoteIdentifiers : Bool := true
  /-- A change of a column is applied as a rename; otherwise it is unsupported. -/
  changeAsRename : Bool := true
  deriving DecidableEq, Repr

inductive ConfigError where
  /-- The document cannot be read, for the cause that its reader tells. -/
  | unreadable (cause : String)
  deriving DecidableEq, Repr

def ConfigError.message : ConfigError → String
  | unreadable cause => "invalid translator configuration: " ++ cause

namespace Config

/-- The switches that a document gives. -/
structure Given where
  quoteIdentifiers : Option Bool
  changeAsRename : Option Bool
  deriving DecidableEq, Repr

/-- A switch that is not given keeps its default. -/
def ofGiven (given : Given) : Config :=
  let default : Config := {}
  { quoteIdentifiers := given.quoteIdentifiers.getD default.quoteIdentifiers
    changeAsRename := given.changeAsRename.getD default.changeAsRename }

def ofDocument (read : String → Except String Given) (document : String) :
    Except ConfigError Config :=
  match read document with
  | .ok given => .ok (ofGiven given)
  | .error cause => .error (.unreadable cause)

end Config

end AlterRelay.Relay
