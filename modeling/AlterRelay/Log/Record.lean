/-
# AlterRelay.Log.Record — records of a log

A record opens a span of work or tells an event. Both have a level and fields in
the order in which they are shown.
-/
namespace AlterRelay.Log

set_option autoImplicit false

/-- The levels of a log, the most severe last. -/
inductive Level where
  | trace
  | debug
  | info
  | warn
  | error
  deriving DecidableEq, Repr

def Level.name : Level → String
  | trace => "TRACE"
  | debug => "DEBUG"
  | info => "INFO"
  | warn => "WARN"
  | error => "ERROR"

/-- A value beside the message of an event. -/
inductive FieldValue where
  | text (value : String)
  | number (value : Nat)
  deriving DecidableEq, Repr

/-- A span that is entered or an event in it. -/
inductive Record where
  | span (level : Level) (name : String) (fields : List (String × FieldValue))
  | event (level : Level) (message : String) (fields : List (String × FieldValue))
  deriving DecidableEq, Repr

end AlterRelay.Log
