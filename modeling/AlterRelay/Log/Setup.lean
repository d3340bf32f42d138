/-
# AlterRelay.Log.Setup — setting up the log

A set-up collects what the log of a process looks like: the filter, the format
of a record, and three switches. It starts from defaults, is changed step by
step or read from a document, and is installed once: a process has one log, and
the filter is checked before anything else.

What a filter is and how a log is installed belongs to the library that keeps the
log. `Facility` is what is asked of it.
-/
import AlterRelay.Log.Record

namespace AlterRelay.Log

set_option autoImplicit false

inductive Format where
  | pretty
  | compact
  | json
  deriving DecidableEq, Repr

def Format.name : Format → String
  | pretty => "pretty"
  | compact => "compact"
  | json => "json"

def Format.named : List (String × Format) :=
  [Format.pretty, .compact, .json].map fun format => (format.name, format)

/-! ## Settings -/

structure Settings where
  filter : String := "info"
  format : Format := .compact
  ansi : Bool := true
  target : Bool := true
  deriving DecidableEq, Repr

namespace Settings

/-- The settings that a document gives. -/
structure Given where
  filter : Option String
  format : Option Format
  ansi : Option Bool
  target : Option Bool
  deriving DecidableEq, Repr

/-- A setting that is not given keeps its default. -/
def ofGiven (given : Given) : Settings :=
  let default : Settings := {}
  { filter := given.filter.getD default.filter
    format := given.format.getD default.format
    ansi := given.ansi.getD default.ansi
    target := given.target.getD default.target }

end Settings

/-! ## Set-ups -/

structure Setup extends Settings where
  /-- Records go to the output of the running test. -/
  testWriter : Bool := false
  deriving DecidableEq, Repr

/-- The library that keeps the log, with its own filters. What it refuses it refuses with a text
of its own. -/
structure Facility (Filter : Type) where
  readFilter : String → Except String Filter
  /-- The filter of the environment, if one is set there and valid. -/
  environment : Option Filter
  install : Filter → Setup → Except String Unit

inductive SetupError where
  | invalidFilter (directives cause : String)
  | notInstalled (cause : String)
  deriving DecidableEq, Repr

def SetupError.message : SetupError → String
  | invalidFilter directives cause =>
      "invalid filter directives '" ++ directives ++ "': " ++ cause
  | notInstalled cause => "failed to install tracing subscriber: " ++ cause

namespace Setup

def ofSettings (settings : Settings) : Setup := { settings with }

def withFilter (setup : Setup) (directives : String) : Setup := { setup with filter := directives }

/-- One level for every target. -/
def withLevel (setup : Setup) (level : Level) : Setup := setup.withFilter level.name.toLower

def withFormat (setup : Setup) (format : Format) : Setup := { setup with format }

def withAnsi (setup : Setup) (ansi : Bool) : Setup := { setup with ansi }

def withTarget (setup : Setup) (target : Bool) : Setup := { setup with target }

def withTestWriter (setup : Setup) : Setup := { setup with testWriter := true }

variable {Filter : Type}

/-- The filter of the log. That of the environment goes before the one of the set-up, which has
to be valid all the same. -/
def logFilter (setup : Setup) (facility : Facility Filter) : Except SetupError Filter :=
  match facility.readFilter setup.filter with
  | .error cause => .error (.invalidFilter setup.filter cause)
  | .ok configured => .ok (facility.environment.getD configured)

/-- Installs the log of a process, if it has none. -/
def install (setup : Setup) (facility : Facility Filter) : Except SetupError Unit := do
  let filter ← setup.logFilter facility
  match facility.install filter setup with
  | .error cause => .error (.notInstalled cause)
  | .ok () => .ok ()

/-- Installs the log, and gives the line that tells a failure. -/
def init (setup : Setup) (facility : Facility Filter) : Option String :=
  match setup.install facility with
  | .error error => some error.message
  | .ok () => none

end Setup

end AlterRelay.Log
