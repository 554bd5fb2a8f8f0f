import Deliberation.LogFilter.Directive

/-!
# Log filters

A log filter is a list of directives between commas. Of the directives that fit an event the most
specific one counts.
-/

namespace Deliberation

/-- A log filter. -/
structure LogFilter where
  directives : List Directive
  deriving DecidableEq, Inhabited

namespace LogFilter

/-- The texts between commas that are not empty. -/
def parts (text : String) : List String := (text.splitOn ",").filter (!·.isEmpty)

/-- Read a filter. The first directive that is not understood spoils it. -/
def ofText (text : String) : Except DirectiveFault LogFilter := do
  .ok { directives := ← (parts text).mapM Directive.ofText }

/-- Read a filter and leave out directives that are not understood. One that is torn spoils it. -/
def ofUnderstood? (text : String) : Option LogFilter := do
  let understood? (part : String) : Option (Option Directive) :=
    match Directive.ofText part with
    | .ok directive => some (some directive)
    | .error .unclear => some none
    | .error .torn => none
  some { directives := (← (parts text).mapM understood?).filterMap id }

/-- The most specific of several directives; of equal ones the last. -/
def mostSpecific (directives : List Directive) : Option Directive :=
  directives.foldl
    (fun best? directive =>
      match best? with
      | none => some directive
      | some best => if directive.isAtLeast best then some directive else some best)
    none

/-- The level up to which events of a kind are logged. A filter without directives logs errors. -/
def levelFor (filter : LogFilter) (event : LogEvent) : LogLevel :=
  if filter.directives.isEmpty then .error
  else
    match mostSpecific (filter.directives.filter (·.fits event)) with
    | some directive => directive.level
    | none => .off

/-- Whether a filter lets an event of a level pass. -/
def allows (filter : LogFilter) (event : LogEvent) (level : LogLevel) : Bool :=
  level.rank ≤ (filter.levelFor event).rank

end LogFilter

end Deliberation
