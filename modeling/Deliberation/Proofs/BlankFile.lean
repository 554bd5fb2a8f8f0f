import Deliberation.Program
import Deliberation.Proofs.BlankDocuments
import Deliberation.Proofs.Wire.Bytes
import Mathlib

/-!
# Blank settings files

A settings file of blanks gives the standard settings. The population is read from the same file
again, and there YAML decides: if the text is legible, a run is the same as without a file, and if
it is not, every run fails that gets as far as its population (`Surroundings.blankFile_of_blank`).
-/

namespace Deliberation.Surroundings

open Deliberation.Text

variable {surroundings : Surroundings} {text : String} {limit : Nat}

/-- The same surroundings with a settings file that holds a text. -/
def withFile (surroundings : Surroundings) (text : String) : Surroundings :=
  { surroundings with file := some (Glyph.ofBytes text.toUTF8.data.toList) }

/-- The same surroundings without a settings file. -/
def withoutFile (surroundings : Surroundings) : Surroundings :=
  { surroundings with file := none }

/-- The program gets as far as its population: its settings are loaded, a log filter is found, and
the world starts. -/
def Arrives (surroundings : Surroundings) : Prop :=
  ∃ settings filter world,
    Settings.load surroundings.file surroundings.poolSize = .ok settings ∧
      surroundings.filter? settings.log = some filter ∧
      World.start settings.executor (.new none) surroundings.refusal =
        .ok (.ok (world : World Market.vocabulary))

/-! ## The parts of a run -/

/-- Runs depend on the settings and the log filter, and on the population if they get as far. -/
theorem execute_congr {first second : Surroundings}
    (load : Settings.load first.file first.poolSize = Settings.load second.file second.poolSize)
    (logFilter : first.logFilter = second.logFilter) (refusal : first.refusal = second.refusal)
    (population : second.Arrives → first.population = second.population) :
    first.execute limit = second.execute limit := by
  unfold execute
  rw [load]
  split
  · rfl
  · rename_i settings loads
    have filter : first.filter? settings.log = second.filter? settings.log := by
      simp only [filter?, logFilter]
    rw [filter, refusal]
    split
    · rfl
    · rfl
    · rfl
    · rename_i filter world filters starts
      rw [population ⟨settings, filter, world, loads, filters, starts⟩]

/-- Where the population cannot be read, a program that arrives at it fails. -/
theorem execute_eq_failed {cause : Market.Population.SectionError}
    (arrives : surroundings.Arrives) (missing : surroundings.population = .error cause) :
    surroundings.execute limit = some (.failed (.population cause)) := by
  obtain ⟨settings, filter, world, loads, filters, starts⟩ := arrives
  simp only [execute, loads, filters, starts, missing]

/-- Trading does not fail for the population. -/
theorem trade_ne_failed (filter : LogFilter) (settings : Settings)
    (world : World Market.vocabulary) (population : Market.Population)
    (cause : Market.Population.SectionError) :
    trade filter settings world population limit ≠ some (.failed (.population cause)) := by
  intro fails
  obtain ⟨⟨_, ends⟩, -, fails⟩ := Option.bind_eq_some_iff.mp fails
  cases ends <;> cases fails

/-- Where there is a population, the program does not fail for it. -/
theorem execute_ne_failed {population : Market.Population}
    (found : surroundings.population = .ok population) (cause : Market.Population.SectionError) :
    surroundings.execute limit ≠ some (.failed (.population cause)) := by
  intro fails
  unfold execute at fails
  split at fails
  · cases fails
  · split at fails
    · cases fails
    · cases fails
    · cases fails
    · rw [found] at fails
      exact trade_ne_failed _ _ _ _ _ fails

/-! ## Blank files -/

/-- A blank file gives the settings of no file. -/
theorem load_withFile (blank : ∀ c ∈ text.toList, isBlank c) :
    Settings.load (surroundings.withFile text).file surroundings.poolSize =
      Settings.load none surroundings.poolSize := by
  have read : Settings.ofYaml? text = some .standard := if_pos (List.all_eq_true.mpr blank)
  simp only [withFile, Settings.load, Settings.ofFile, Option.bind_some, Glyph.ofBytes_toUTF8,
    Glyph.text?_ofText, read]

/-- A program with a blank file arrives at the population if it does without a file. -/
theorem arrives_withFile (blank : ∀ c ∈ text.toList, isBlank c)
    (arrives : surroundings.withoutFile.Arrives) : (surroundings.withFile text).Arrives := by
  obtain ⟨settings, filter, world, loads, found⟩ := arrives
  exact ⟨settings, filter, world, (load_withFile blank).trans loads, found⟩

/-- A blank file that is legible means the standard population. -/
theorem population_withFile_of_isLegible (blank : ∀ c ∈ text.toList, isBlank c)
    (legible : Yaml.IsLegible text.toList) :
    (surroundings.withFile text).population = .ok .standard := by
  obtain ⟨value, means, noField⟩ := Yaml.exists_ofDocument? blank legible "population"
  simp only [population, withFile, Market.Population.ofSection, Glyph.ofBytes_toUTF8,
    Glyph.text?_ofText, means, noField]

/-- A blank file that is not legible is no document. -/
theorem population_withFile_of_not_isLegible (blank : ∀ c ∈ text.toList, isBlank c)
    (illegible : ¬ Yaml.IsLegible text.toList) :
    (surroundings.withFile text).population = .error .malformedDocument := by
  simp only [population, withFile, Market.Population.ofSection, Glyph.ofBytes_toUTF8,
    Glyph.text?_ofText, Yaml.ofText?_eq_none blank illegible, Option.bind_none]

/-- What comes of a blank settings file, compared to none. -/
structure BlankFile (surroundings : Surroundings) (text : String) (limit : Nat) : Prop where
  /-- The settings are the same. -/
  load : Settings.load (surroundings.withFile text).file surroundings.poolSize =
    Settings.load none surroundings.poolSize
  /-- So is the population, if the text is a document. -/
  population : Yaml.IsLegible text.toList →
    (surroundings.withFile text).population = surroundings.withoutFile.population
  /-- So is the whole run. -/
  execute : Yaml.IsLegible text.toList →
    (surroundings.withFile text).execute limit = surroundings.withoutFile.execute limit
  /-- Any other text describes no population. -/
  malformed : ¬ Yaml.IsLegible text.toList →
    (surroundings.withFile text).population = .error .malformedDocument
  /-- This fails a run that gets as far as its population, where no run fails without a file. -/
  fails : ¬ Yaml.IsLegible text.toList → surroundings.withoutFile.Arrives →
    (surroundings.withFile text).execute limit = some (.failed (.population .malformedDocument)) ∧
      ∀ cause, surroundings.withoutFile.execute limit ≠ some (.failed (.population cause))
  /-- It changes no other run. -/
  spares : ¬ Yaml.IsLegible text.toList → ¬ surroundings.withoutFile.Arrives →
    (surroundings.withFile text).execute limit = surroundings.withoutFile.execute limit

/-- A blank settings file counts as none, except that a text that is no document, such as one that
starts with a tab, fails the runs that come to read a population from it. -/
theorem blankFile_of_blank (surroundings : Surroundings) (blank : ∀ c ∈ text.toList, isBlank c)
    (limit : Nat) : surroundings.BlankFile text limit where
  load := load_withFile blank
  population := population_withFile_of_isLegible blank
  execute legible := execute_congr (load_withFile blank) rfl rfl fun _ =>
    population_withFile_of_isLegible blank legible
  malformed := population_withFile_of_not_isLegible blank
  fails illegible arrives :=
    ⟨execute_eq_failed (arrives_withFile blank arrives)
      (population_withFile_of_not_isLegible blank illegible), execute_ne_failed rfl⟩
  spares _ lost := execute_congr (load_withFile blank) rfl rfl fun arrives => absurd arrives lost

/-- Surroundings where nothing is set. -/
def bare : Surroundings := { file := none, poolSize := none, logFilter := none }

/-- In bare surroundings the program arrives at the population. -/
theorem bare_arrives : bare.withoutFile.Arrives := by
  have understood : (LogFilter.ofUnderstood? "info").isSome := by
    have parts : LogFilter.parts "info" = ["info"] := by cbv
    simp only [LogFilter.ofUnderstood?, parts]
    decide +kernel
  obtain ⟨filter, filters⟩ := Option.isSome_iff_exists.mp understood
  exact ⟨.standard, filter, _, rfl, filters, rfl⟩

/-- A line that starts with a no-break space, and a line that starts with a tab. -/
theorem blankFile_of_blank_line :
    bare.BlankFile "\u00A0\t\n" tickLimit ∧
      (bare.withFile "\u00A0\t\n").execute tickLimit = bare.withoutFile.execute tickLimit ∧
      bare.BlankFile "\t\n" tickLimit ∧
      (bare.withFile "\t\n").execute tickLimit =
        some (.failed (.population .malformedDocument)) := by
  have line : bare.BlankFile "\u00A0\t\n" tickLimit :=
    blankFile_of_blank bare (List.all_eq_true.mp rfl) tickLimit
  have tab : bare.BlankFile "\t\n" tickLimit :=
    blankFile_of_blank bare (List.all_eq_true.mp rfl) tickLimit
  exact ⟨line, line.execute (by decide), tab, (tab.fails (by decide) bare_arrives).1⟩

/-- With a tab as its settings file, a run fails that does not fail there without a file. -/
theorem tab_file_fails :
    (∀ c ∈ "\t".toList, isBlank c) ∧
      (bare.withFile "\t").execute tickLimit = some (.failed (.population .malformedDocument)) ∧
      bare.withoutFile.population = .ok .standard ∧
      ∀ cause, bare.withoutFile.execute tickLimit ≠ some (.failed (.population cause)) := by
  have blank : ∀ c ∈ "\t".toList, isBlank c := List.all_eq_true.mp rfl
  have malformed : (bare.withFile "\t").population = .error .malformedDocument :=
    population_withFile_of_not_isLegible blank (by decide)
  exact ⟨blank, execute_eq_failed (arrives_withFile blank bare_arrives) malformed, rfl,
    execute_ne_failed rfl⟩

end Deliberation.Surroundings
