import Deliberation.LogFilter
import Deliberation.Market.Population
import Deliberation.Settings
import Deliberation.Word

/-!
# The trading program

`Surroundings.execute` is the whole program as a function of what it finds around it: the settings
file, two environment variables, and whether the system grants it threads. It loads the settings,
creates the executor, spawns the population that the same file describes, runs it, and shows a
summary if the log filter allows it.
-/

namespace Deliberation

/-- A bound on the ticks of any run, beyond the reach of the tick counter. -/
def tickLimit : Nat := longWordCount

/-- What the program finds: the settings file, if it exists, the variable for the size of the worker
pool, the variable for the log filter, if it is a text, and the cause for which the system refuses
threads, if it does. -/
structure Surroundings where
  file : Option (List Text.Glyph)
  poolSize : Option (List Text.Glyph)
  logFilter : Option String
  refusal : Option String := none

/-- Why the program failed, but for the creation of its executor. -/
inductive ProgramError where
  | settings (cause : SettingsError)
  | population (cause : Market.Population.SectionError)
  | simulation (cause : TickError)

/-- The wording of a failure of the program. -/
def ProgramError.message : ProgramError → String
  | settings cause => "config error: " ++ cause.message
  | population cause => "population config error: " ++ cause.message
  | simulation cause => "simulation error: " ++ simulationFailure cause

/-- How the program ends. The summary is shown unless the log filter hides it. -/
inductive ProgramOutcome where
  | finished (summary : Summary) (shown : Bool)
  /-- The executor could not be created. -/
  | refused (cause : PoolError)
  | failed (cause : ProgramError)
  | panicked (cause : Panic)

namespace ProgramOutcome

/-- The code that the program exits with. -/
def exitCode : ProgramOutcome → Nat
  | finished .. => 0
  | refused _ => 1
  | failed _ => 1
  | panicked _ => 101

/-- The summary that the program shows. -/
def shown? : ProgramOutcome → Option Summary
  | finished summary true => some summary
  | _ => none

/-- The failure of a program that has its executor. -/
def failure? : ProgramOutcome → Option ProgramError
  | failed cause => some cause
  | _ => none

/-- What the program reports when it fails. -/
def report? : ProgramOutcome → Option String
  | refused cause => some ("platform error: executor error: " ++ cause.message)
  | failed cause => some cause.message
  | _ => none

end ProgramOutcome

namespace Surroundings

/-- The event that carries the summary. -/
def summaryEvent : LogEvent :=
  { target := "cadence_engine", fields := ["message", "traders", "summary"] }

/-- The log filter: the one from the environment, unless it is not understood, or else the one from
the settings. There is none if a directive is torn. -/
def filter? (surroundings : Surroundings) (settings : LogSettings) : Option LogFilter :=
  match surroundings.logFilter.map LogFilter.ofText with
  | some (.ok filter) => some filter
  | some (.error .torn) => none
  | _ => LogFilter.ofUnderstood? settings.level

/-- What the program stops with when a log directive is torn. -/
def tornDirective : Panic := .message "a part of a log directive ends within a character"

/-- The population that the settings file describes. Without a file it is standard. -/
def population (surroundings : Surroundings) :
    Except Market.Population.SectionError Market.Population :=
  match surroundings.file with
  | none => .ok .standard
  | some glyphs => Market.Population.ofSection glyphs

/-- Run a population and decide whether its summary is shown. -/
def trade (filter : LogFilter) (settings : Settings) (world : World Market.vocabulary)
    (population : Market.Population) (limit : Nat) : Option ProgramOutcome := do
  match ← Market.run population world settings.iterations limit with
  | (_, .error cause) => some (.failed (.simulation cause))
  | (_, .ok summary) => some (.finished summary (filter.allows summaryEvent .info))

/-- Run the program. `limit` bounds the number of ticks; there is no answer beyond it. -/
def execute (surroundings : Surroundings) (limit : Nat) : Option ProgramOutcome :=
  match Settings.load surroundings.file surroundings.poolSize with
  | .error cause => some (.failed (.settings cause))
  | .ok settings =>
    match surroundings.filter? settings.log,
      World.start settings.executor (.new none) surroundings.refusal with
    | none, _ => some (.panicked tornDirective)
    | _, .error cause => some (.panicked cause)
    | _, .ok (.error cause) => some (.refused cause)
    | some filter, .ok (.ok world) =>
      match surroundings.population with
      | .error cause => some (.failed (.population cause))
      | .ok population => trade filter settings world population limit

end Surroundings

end Deliberation
