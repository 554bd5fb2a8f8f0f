import Deliberation.Text.Digit

/-!
# Log levels

How much is logged, from nothing to everything. Levels are written as names or numbers.
-/

namespace Deliberation

/-- How much is logged, from nothing to everything. -/
inductive LogLevel where
  | off
  | error
  | warn
  | info
  | debug
  | trace
  deriving DecidableEq, Inhabited

namespace LogLevel

/-- The levels by their numbers. -/
def all : List LogLevel := [off, error, warn, info, debug, trace]

/-- The number of a level. -/
def rank : LogLevel → Nat
  | off => 0
  | error => 1
  | warn => 2
  | info => 3
  | debug => 4
  | trace => 5

/-- The name of a level. -/
def name : LogLevel → String
  | off => "off"
  | error => "error"
  | warn => "warn"
  | info => "info"
  | debug => "debug"
  | trace => "trace"

/-- The level that a text means: its number, or its name in any case. -/
def ofText? (text : String) : Option LogLevel :=
  match Text.natural? text.toList with
  | some number => all[number]?
  | none => all.find? (·.name == text.toLower)

end LogLevel

end Deliberation
