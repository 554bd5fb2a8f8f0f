import Deliberation.Market.Trading
import Deliberation.Proofs.Loading

/-!
# Starting with settings

All numbers in settings that are loaded fit 64 bits, wherever they come from
(`Settings.load_bounded`). That is more workers than an executor can have. Where the surroundings
refuse the threads, nothing starts and the error says why; where they do not, a world starts with
settings if their worker pool is small enough, and panics if it is not (`Settings.start_of_load`).
The variable brings in every size there is (`Settings.load_toString`), so some settings that are
loaded cannot be started with.
-/

namespace Deliberation

variable {V : Vocabulary}

/-! ## Records -/

/-- What no field ends holds of a record that is read. -/
theorem Yaml.readFields_keeps {α σ : Type} {reader? : String → Option (FieldReader α σ)}
    {keeps : σ → Prop}
    (each : ∀ name read, reader? name = some read → ∀ value before after, keeps before →
      read value before = some after → keeps after)
    {done : List String} {fields : List (String × α)} {record result : σ} (kept : keeps record)
    (found : readFields reader? done fields record = some result) : keeps result := by
  induction fields generalizing done record with
  | nil =>
    cases found
    exact kept
  | cons field rest ih =>
    obtain ⟨name, value⟩ := field
    unfold readFields at found
    split at found
    · exact ih kept found
    · rename_i read known
      split at found
      · cases found
      · obtain ⟨next, field, others⟩ := Option.bind_eq_some_iff.mp found
        exact ih (each name read known value record next kept field) others

/-- A number that is read is within its limit. -/
theorem Yaml.Node.natural?_le {limit number : Nat} {node : Yaml.Node}
    (read : node.natural? limit = some number) : number ≤ limit := by
  unfold natural? at read
  obtain ⟨spelling, _, read⟩ := Option.bind_eq_some_iff.mp read
  obtain ⟨meant, _, fits⟩ := Option.bind_eq_some_iff.mp read
  split at fits
  · cases fits
    assumption
  · cases fits

/-- An optional number that is read is within its limit. -/
theorem Yaml.Node.optional?_natural?_le {limit number : Nat} {node : Yaml.Node}
    {value : Option Nat} (read : node.optional? (natural? limit) = some value)
    (there : number ∈ value) : number ≤ limit := by
  unfold optional? at read
  obtain ⟨absent, _, read⟩ := Option.bind_eq_some_iff.mp read
  split at read
  · cases read
    cases there
  · obtain ⟨found, isFound, equal⟩ := Option.bind_eq_some_iff.mp read
    cases equal
    cases there
    exact natural?_le isFound

/-! ## Bounds -/

/-- The numbers in the settings of an executor fit 64 bits. -/
structure ExecutorSettings.Bounded (settings : ExecutorSettings) : Prop where
  poolSize : settings.poolSize ≤ 2 ^ 64 - 1
  seed : ∀ seed ∈ settings.seed, seed ≤ 2 ^ 64 - 1
  unitTimeout : ∀ timeout ∈ settings.unitTimeout, timeout ≤ 2 ^ 64 - 1

/-- All numbers in settings fit 64 bits. -/
structure Settings.Bounded (settings : Settings) : Prop where
  executor : settings.executor.Bounded
  iterations : settings.iterations ≤ 2 ^ 64 - 1

namespace Settings

/-- The standard executor is bounded. -/
theorem standard_executor_bounded : ExecutorSettings.standard.Bounded where
  poolSize := by decide
  seed _ there := by cases there
  unitTimeout _ there := by cases there

/-- The standard settings are bounded. -/
theorem standard_bounded : standard.Bounded where
  executor := standard_executor_bounded
  iterations := by decide

/-- A field of the executor that is read leaves its settings bounded. -/
theorem executorField?_bounded (name : String)
    (read : Yaml.FieldReader Yaml.Node ExecutorSettings) (known : executorField? name = some read)
    (node : Yaml.Node) (before after : ExecutorSettings) (bounded : before.Bounded)
    (found : read node before = some after) : after.Bounded := by
  unfold executorField? at known
  split at known
  · cases known
    obtain ⟨poolSize, field, equal⟩ := Option.bind_eq_some_iff.mp found
    cases equal
    exact { bounded with poolSize := Yaml.Node.natural?_le field }
  · cases known
    obtain ⟨seed, field, equal⟩ := Option.bind_eq_some_iff.mp found
    cases equal
    exact { bounded with seed := fun _ => Yaml.Node.optional?_natural?_le field }
  · cases known
    obtain ⟨unitTimeout, field, equal⟩ := Option.bind_eq_some_iff.mp found
    cases equal
    exact { bounded with unitTimeout := fun _ => Yaml.Node.optional?_natural?_le field }
  · cases known

/-- A field of the simulation that is read leaves the iterations bounded. -/
theorem simulationField?_bounded (name : String) (read : Yaml.FieldReader Yaml.Node Nat)
    (known : simulationField? name = some read) (node : Yaml.Node) (before after : Nat)
    (_ : before ≤ 2 ^ 64 - 1) (found : read node before = some after) : after ≤ 2 ^ 64 - 1 := by
  unfold simulationField? at known
  split at known
  · cases known
    exact Yaml.Node.natural?_le found
  · cases known

/-- A section that is read leaves the settings bounded. -/
theorem sectionField?_bounded (document : Yaml.Document) (name : String)
    (read : Yaml.FieldReader Yaml.Node Settings) (known : sectionField? document name = some read)
    (node : Yaml.Node) (before after : Settings) (bounded : before.Bounded)
    (found : read node before = some after) : after.Bounded := by
  unfold sectionField? at known
  split at known
  · cases known
    obtain ⟨fields, _, found⟩ := Option.bind_eq_some_iff.mp found
    obtain ⟨executor, part, equal⟩ := Option.bind_eq_some_iff.mp found
    cases equal
    exact { bounded with
      executor := Yaml.readFields_keeps executorField?_bounded standard_executor_bounded part }
  · cases known
    obtain ⟨fields, _, found⟩ := Option.bind_eq_some_iff.mp found
    obtain ⟨iterations, part, equal⟩ := Option.bind_eq_some_iff.mp found
    cases equal
    exact { bounded with
      iterations := Yaml.readFields_keeps simulationField?_bounded (Nat.zero_le _) part }
  · cases known
    obtain ⟨fields, _, found⟩ := Option.bind_eq_some_iff.mp found
    obtain ⟨log, part, equal⟩ := Option.bind_eq_some_iff.mp found
    cases equal
    exact { bounded with }
  · cases known

/-- Settings that are read from a text are bounded. -/
theorem ofYaml?_bounded {text : String} {settings : Settings}
    (read : ofYaml? text = some settings) : settings.Bounded := by
  unfold ofYaml? at read
  split at read
  · cases read
    exact standard_bounded
  · obtain ⟨document, _, read⟩ := Option.bind_eq_some_iff.mp read
    obtain ⟨fields, _, read⟩ := Option.bind_eq_some_iff.mp read
    exact Yaml.readFields_keeps (sectionField?_bounded document) standard_bounded read

/-- The pool size that the variable means is bounded. -/
theorem poolSizeOf?_le {text : String} {poolSize : Nat} (means : poolSizeOf? text = some poolSize) :
    poolSize ≤ 2 ^ 64 - 1 := by
  unfold poolSizeOf? at means
  obtain ⟨number, _, fits⟩ := Option.bind_eq_some_iff.mp means
  split at fits
  · rename_i range
    cases fits
    exact range.2
  · cases fits

/-- The variable leaves the settings bounded, whatever its value is. -/
theorem withVariable_bounded {settings loaded : Settings} {value : Option (List Text.Glyph)}
    (bounded : settings.Bounded) (replaced : settings.withVariable value = .ok loaded) :
    loaded.Bounded := by
  unfold withVariable at replaced
  split at replaced
  · cases replaced
    exact bounded
  · split at replaced
    · rename_i poolSize means
      cases replaced
      exact { bounded with executor := { bounded.executor with poolSize := poolSizeOf?_le means } }
    · cases replaced

/-- All numbers in settings that are loaded fit 64 bits. -/
theorem load_bounded {content override : Option (List Text.Glyph)} {settings : Settings}
    (loaded : load content override = .ok settings) : settings.Bounded := by
  unfold load ofFile at loaded
  split at loaded
  · exact withVariable_bounded standard_bounded loaded
  · split at loaded
    · cases loaded
    · split at loaded
      · cases loaded
      · rename_i read
        exact withVariable_bounded (ofYaml?_bounded read) loaded

/-! ## Starting -/

/-- A world starts if it has its threads and asks for no more workers than an executor can have. -/
theorem start_eq_ok {settings : ExecutorSettings} (messenger : Messenger)
    (small : settings.poolSize ≤ Executor.largestPool) :
    World.start settings messenger none = .ok (.ok (World.new (V := V) settings messenger)) := by
  have fits : ¬ Executor.largestPool < max settings.poolSize 1 :=
    Nat.not_lt.mpr (max_le small (by decide))
  simp only [World.start, Executor.create, if_neg fits]
  rfl

/-- What an executor that would need too many workers panics with. -/
def overstaffed : Panic := .message "an executor may not have more than 2305843009213693951 workers"

/-- With its threads, a world that asks for more workers panics. -/
theorem start_eq_error {settings : ExecutorSettings} (messenger : Messenger)
    (large : Executor.largestPool < settings.poolSize) :
    (World.start settings messenger none : Except Panic (Except PoolError (World V))) =
      .error overstaffed := by
  simp only [World.start, Executor.create, if_pos (lt_max_of_lt_left large)]
  rfl

/-- How a world starts with some settings, whatever the system says to its request for threads. -/
structure Started (V : Vocabulary) (settings : ExecutorSettings) (messenger : Messenger) : Prop where
  /-- A refusal is reported as an error, however many workers are asked for. -/
  refused : ∀ cause, (World.start settings messenger (some cause) :
    Except Panic (Except PoolError (World V))) = .ok (.error { cause })
  /-- With its threads, a world starts if an executor can have as many workers, and at least one. -/
  starts : settings.poolSize ≤ 2 ^ 61 - 1 →
    World.start settings messenger none = .ok (.ok (World.new (V := V) settings messenger)) ∧
    (World.new (V := V) settings messenger).executor.poolSize = max settings.poolSize 1
  /-- If it cannot, starting panics. -/
  panics : 2 ^ 61 - 1 < settings.poolSize →
    (World.start settings messenger none : Except Panic (Except PoolError (World V))) =
      .error overstaffed

/-- A world starts with settings that are loaded, or the system refuses it threads, which is an
error, if an executor can have as many workers as they ask for. If they ask for more, starting
panics, unless threads are refused. Every number in them fits 64 bits. -/
theorem start_of_load {content override : Option (List Text.Glyph)} {settings : Settings}
    (loaded : load content override = .ok settings) (messenger : Messenger) :
    settings.Bounded ∧ Started V settings.executor messenger :=
  ⟨load_bounded loaded,
    { refused := fun _ => rfl
      starts := fun small => ⟨start_eq_ok messenger small, rfl⟩
      panics := start_eq_error messenger }⟩

/-- The standard settings but for the size of the worker pool. -/
def staffed (poolSize : Nat) : Settings :=
  { standard with executor := { standard.executor with poolSize } }

/-- The largest worker pool that an executor can have, with and without threads for it, and one
worker more. -/
theorem start_of_load_largest :
    load none (some (Text.Glyph.ofText "2305843009213693951")) = .ok (staffed (2 ^ 61 - 1)) ∧
      load none (some (Text.Glyph.ofText "2305843009213693952")) = .ok (staffed (2 ^ 61)) ∧
      World.start (staffed (2 ^ 61 - 1)).executor (.new none) none =
        .ok (.ok (World.new (V := Market.vocabulary) (staffed (2 ^ 61 - 1)).executor (.new none))) ∧
      (World.start (staffed (2 ^ 61 - 1)).executor (.new none) (some "Too many open files") :
          Except Panic (Except PoolError (World Market.vocabulary))) =
        .ok (.error { cause := "Too many open files" }) ∧
      (World.start (staffed (2 ^ 61)).executor (.new none) none :
          Except Panic (Except PoolError (World Market.vocabulary))) = .error overstaffed := by
  have largest : load none (some (Text.Glyph.ofText "2305843009213693951")) =
      .ok (staffed (2 ^ 61 - 1)) := by decide +kernel
  have larger : load none (some (Text.Glyph.ofText "2305843009213693952")) =
      .ok (staffed (2 ^ 61)) := by decide +kernel
  have started := (start_of_load (V := Market.vocabulary) largest (.new none)).2
  exact ⟨largest, larger, (started.starts (by decide)).1, started.refused _,
    (start_of_load larger (.new none)).2.panics (by decide)⟩

/-- The variable brings in every size that fits 64 bits. -/
theorem load_toString {poolSize : Nat} (positive : 0 < poolSize) (small : poolSize ≤ 2 ^ 64 - 1) :
    load none (some (Text.Glyph.ofText (toString poolSize))) = .ok (staffed poolSize) := by
  have means : poolSizeOf? (toString poolSize) = some poolSize := by
    rw [poolSizeOf?_eq_some_iff]
    have digits : (toString poolSize).toList = [] ++ ([] ++ Nat.toDigits 10 poolSize) ++ [] := by
      simp
    rw [digits]
    exact .written (by simp) (.inl rfl) Nat.toDigits_ne_nil
      (fun _ => Nat.isDigit_of_mem_toDigits (by decide) (by decide))
      Nat.ofDigitChars_ten_toDigits positive small (by simp)
  simp only [load, withVariable, Option.bind_some, Text.Glyph.text?_ofText, means, staffed]

/-- Both the variable and the file can ask for more workers than an executor can have. Their settings
are loaded, and starting with them panics. -/
theorem load_overstaffed :
    (∃ settings, load none (some (Text.Glyph.ofText "2305843009213693952")) = .ok settings ∧
      (World.start settings.executor (.new none) none :
          Except Panic (Except PoolError (World Market.vocabulary))) = .error overstaffed) ∧
    (∃ settings,
      load (some (Text.Glyph.ofText "executor:\n  pool_size: 2305843009213693952\n")) none =
        .ok settings ∧
      (World.start settings.executor (.new none) none :
          Except Panic (Except PoolError (World Market.vocabulary))) = .error overstaffed) :=
  ⟨⟨staffed (2 ^ 61), by decide +kernel, rfl⟩, ⟨staffed (2 ^ 61), by decide +kernel, rfl⟩⟩

end Settings

end Deliberation
