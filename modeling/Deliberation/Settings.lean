import Deliberation.Text.Blank
import Deliberation.Text.Digit
import Deliberation.Word
import Deliberation.World
import Deliberation.Yaml.Value

/-!
# Settings

`Settings.ofYaml?` reads settings from a YAML text; everything that is left out has its standard
value. `Settings.ofFile` reads them from the bytes of a file and lets an environment variable
replace the size of the worker pool. What is wrong with the file is reported before what is wrong
with the variable.
-/

namespace Deliberation

/-- How much is logged, and in which form. -/
structure LogSettings where
  level : String
  json : Bool
  deriving DecidableEq, Inhabited

/-- The settings of a program that runs a simulation. With zero iterations only a stop ends it. -/
structure Settings where
  executor : ExecutorSettings
  iterations : Nat
  log : LogSettings
  deriving DecidableEq, Inhabited

/-- Why settings could not be loaded. -/
inductive SettingsError where
  | unreadable
  | malformed
  | invalidVariable (name value : String)
  deriving DecidableEq, Inhabited

/-- The wording of a settings error. -/
def SettingsError.message : SettingsError → String
  | unreadable => "failed to read config file"
  | malformed => "failed to parse config YAML"
  | invalidVariable name value => "invalid value for " ++ name ++ ": " ++ value

/-- The settings of an executor where nothing else is said. -/
def ExecutorSettings.standard : ExecutorSettings :=
  { poolSize := 4, seed := none, unitTimeout := none }

/-- The settings of logging where nothing else is said. -/
def LogSettings.standard : LogSettings := { level := "info", json := false }

namespace Settings

/-- The settings where nothing else is said. -/
def standard : Settings := { executor := .standard, iterations := 0, log := .standard }

/-! ## YAML -/

/-- How the field of a name is read into the settings of an executor. -/
def executorField? : String → Option (Yaml.FieldReader Yaml.Node ExecutorSettings)
  | "pool_size" => some fun node settings => do
    some { settings with poolSize := ← node.natural? largestLongWord }
  | "seed" => some fun node settings => do
    some { settings with seed := ← node.optional? (Yaml.Node.natural? largestLongWord) }
  | "unit_timeout_ms" => some fun node settings => do
    some { settings with unitTimeout := ← node.optional? (Yaml.Node.natural? largestLongWord) }
  | _ => none

/-- How the field of a name is read into the number of iterations. -/
def simulationField? : String → Option (Yaml.FieldReader Yaml.Node Nat)
  | "iterations" => some fun node _ => node.natural? largestLongWord
  | _ => none

/-- How the field of a name is read into the settings of logging. -/
def logField? : String → Option (Yaml.FieldReader Yaml.Node LogSettings)
  | "level" => some fun node settings => do some { settings with level := ← node.text? }
  | "json" => some fun node settings => do some { settings with json := ← node.flag? }
  | _ => none

/-- How the section of a name is read into settings. -/
def sectionField? (document : Yaml.Document) :
    String → Option (Yaml.FieldReader Yaml.Node Settings)
  | "executor" => some fun node settings => do
    let fields ← document.fields? node
    some { settings with executor := ← Yaml.readFields executorField? [] fields .standard }
  | "simulation" => some fun node settings => do
    let fields ← document.fields? node
    some { settings with iterations := ← Yaml.readFields simulationField? [] fields 0 }
  | "logging" => some fun node settings => do
    let fields ← document.fields? node
    some { settings with log := ← Yaml.readFields logField? [] fields .standard }
  | _ => none

/-- Read settings from YAML. A text of blanks gives the standard settings. -/
def ofYaml? (text : String) : Option Settings := do
  if text.toList.all Text.isBlank then some standard
  else
    let document ← Yaml.Document.ofText? text
    Yaml.readFields (sectionField? document) [] (← document.rootFields?) standard

/-! ## The environment -/

/-- The environment variable that replaces the size of the worker pool. -/
def poolSizeVariable : String := "CADENCE_POOL_SIZE"

/-- The size of a worker pool that a text means: a positive number of up to 64 bits, with an optional
plus sign and blanks around it. -/
def poolSizeOf? (text : String) : Option Nat := do
  let size ← Text.natural? (Text.trim text.toList)
  if 0 < size ∧ size ≤ largestLongWord then some size else none

/-- Replace the size of the worker pool by the value of the variable. A value that is no text counts
as none. -/
def withVariable (settings : Settings) (value : Option (List Text.Glyph)) :
    Except SettingsError Settings :=
  match value.bind Text.Glyph.text? with
  | none => .ok settings
  | some text =>
    match poolSizeOf? text with
    | some poolSize => .ok { settings with executor := { settings.executor with poolSize } }
    | none => .error (.invalidVariable poolSizeVariable text)

/-- Load settings from a file, given its content if there is one, and the value of the variable. -/
def ofFile (content poolSize : Option (List Text.Glyph)) : Except SettingsError Settings :=
  match content.bind Text.Glyph.text? with
  | none => .error .unreadable
  | some text =>
    match ofYaml? text with
    | none => .error .malformed
    | some settings => settings.withVariable poolSize

/-- Load settings from a file if there is one, and otherwise take the standard settings. -/
def load (content poolSize : Option (List Text.Glyph)) : Except SettingsError Settings :=
  match content with
  | none => standard.withVariable poolSize
  | some _ => ofFile content poolSize

end Settings

end Deliberation
