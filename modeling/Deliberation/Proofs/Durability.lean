import Deliberation.Proofs.Dispatch

/-!
# What ticks cannot end

A property of worlds is `Durable` when no stride of a cycle ends it, and none of the bookkeeping that
a tick does around its cycles: the schedule, the generator, the cycles that were abandoned, the units
under way, the gates and the clock. Such a property is kept by everything that `World.tick` consists
of, with a deadline or without one, until the counter of the executor goes on.
-/

namespace Deliberation

variable {V : Vocabulary}

namespace World

/-- A property that nothing in a tick ends before the counter goes on. -/
structure Durable (keeps : World V → Prop) : Prop where
  stride : ∀ {world : World V} (number : BirthNumber) (phase : Phase V),
    keeps world → keeps (world.stride number phase).1
  aside : ∀ {world : World V} (schedule : AgentIndex BirthNumber) (abandoned : List (Abandoned V))
    (random : Option Generator) (running : List BirthNumber) (openGates : List String)
    (clock : Nat), keeps world →
      keeps
        { world with
          executor := { world.executor with schedule, abandoned, random }
          running
          openGates
          clock }

/-- The world at the end of a tick that took some time. -/
def ticked (world : World V) (duration : Nat) : World V :=
  { world with
    executor :=
      { world.executor with
        tick := world.executor.tick + 1
        lastTickDuration := duration }
    running := [] }

namespace Durable

variable {keeps : World V → Prop} {world next : World V}

/-! ## Cycles -/

/-- What is durable is kept while time passes. -/
theorem elapse (durable : Durable keeps) (kept : keeps world) (clock : Nat) :
    keeps { world with clock } :=
  durable.aside world.executor.schedule world.executor.abandoned world.executor.random
    world.running world.openGates clock kept

/-- What is durable is kept by strides in a row. -/
theorem strides (durable : Durable keeps) {number : BirthNumber} {before after : World V × Phase V}
    (strides : Strides number before after) (kept : keeps before.1) : keeps after.1 := by
  refine strides.keeps (fun state => keeps state.1) ?_ ?_ kept
  · intro world phase kept
    exact durable.stride number phase kept
  · intro world phase clock kept
    exact durable.elapse kept clock

/-- What is durable is kept by a cycle, whether it ends or waits. -/
theorem cycle (durable : Durable keeps) (kept : keeps world) (number : BirthNumber)
    (deadline : Option Nat) : keeps (world.cycle number deadline).world :=
  durable.strides (world.cycle_strides number deadline) kept

/-- What is durable is kept by a cycle that goes on. -/
theorem resume (durable : Durable keeps) (kept : keeps world) (suspended : Suspended V)
    (deadline : Option Nat) : keeps (world.resume suspended deadline).world :=
  durable.strides (world.resume_strides suspended deadline) kept

/-! ## Abandoned cycles -/

/-- What is durable is kept when the list of abandoned cycles changes. -/
theorem recordAbandoned (durable : Durable keeps) (kept : keeps world)
    (abandoned : List (Abandoned V)) :
    keeps (world.modifyExecutor fun executor => { executor with abandoned }) :=
  durable.aside world.executor.schedule abandoned world.executor.random world.running
    world.openGates world.clock kept

/-- What is durable is kept when a cycle is abandoned. -/
theorem abandon (durable : Durable keeps) (kept : keeps world) (cycle : Suspended V) :
    keeps (world.abandon cycle) :=
  durable.recordAbandoned kept _

/-- What is durable is kept by an abandoned cycle that goes on. -/
theorem proceed (durable : Durable keeps) (kept : keeps world) (abandoned : Abandoned V) :
    keeps (world.proceed abandoned) := by
  have resumed := durable.resume kept abandoned.cycle none
  unfold World.proceed
  cases halted : world.resume abandoned.cycle none with
  | ended after outcome =>
    rw [halted] at resumed
    exact durable.recordAbandoned resumed _
  | blocked after cycle =>
    rw [halted] at resumed
    exact durable.recordAbandoned resumed _

/-- What is durable is kept when a sleeper wakes up. -/
theorem awaken (durable : Durable keeps) (kept : keeps world) (sleeper : Nat × Abandoned V) :
    keeps (world.awaken sleeper) :=
  durable.proceed (durable.elapse kept _) sleeper.2

/-- What is durable is kept when time advances and sleepers wake up. -/
theorem advance (durable : Durable keeps) (kept : keeps world) (moment : Nat) :
    keeps (world.advance moment) := by
  have awakened : ∀ sleepers : List (Nat × Abandoned V),
      keeps (sleepers.foldl World.awaken world) := by
    intro sleepers
    induction sleepers generalizing world with
    | nil => exact kept
    | cons sleeper rest ih => exact ih (durable.awaken kept sleeper)
  exact durable.elapse (awakened _) _

/-- What is durable is kept when a gate opens. -/
theorem openGate (durable : Durable keeps) (kept : keeps world) (gate : String) :
    keeps (world.openGate gate) := by
  have proceeded : ∀ (cycles : List (Abandoned V)) (world : World V), keeps world →
      keeps (cycles.foldl World.proceed world) := by
    intro cycles
    induction cycles with
    | nil => exact fun _ kept => kept
    | cons abandoned rest ih => exact fun _ kept => ih _ (durable.proceed kept abandoned)
  refine proceeded _ _ ?_
  exact durable.aside world.executor.schedule world.executor.abandoned world.executor.random
    world.running (gate :: world.openGates) world.clock kept

/-- What is durable is kept while a tick waits for a worker. -/
theorem freeWorkerWithin (durable : Durable keeps) {steps : Nat} (kept : keeps world)
    (free : World.freeWorkerWithin steps world = some next) : keeps next := by
  fun_induction World.freeWorkerWithin steps world with
  | case1 =>
    cases free
    exact kept
  | case2 _ _ _ sleeper _ _ ih => exact ih (durable.awaken kept sleeper) free
  | case3 => cases free

/-! ## Units -/

/-- What is durable is kept by a unit. -/
theorem runUnit (durable : Durable keeps) (kept : keeps world) {number : BirthNumber}
    {outcome : UnitOutcome V} (ran : world.runUnit number = some (next, outcome)) :
    keeps next := by
  unfold World.runUnit at ran
  obtain ⟨staffed, free, ran⟩ := Option.bind_eq_some_iff.mp ran
  have cycled := durable.cycle (durable.freeWorkerWithin kept free) number
    (staffed.executor.unitTimeout.map (staffed.clock + ·))
  simp only at ran
  split at ran
  · rename_i ended
    rw [ended] at cycled
    cases ran
    exact durable.advance cycled _
  · rename_i blocked _
    rw [blocked] at cycled
    cases ran
    exact durable.advance (durable.abandon cycled _) _
  · cases ran

/-- What is durable is kept by units in a row. -/
theorem runUnits (durable : Durable keeps) (kept : keeps world) {units : List BirthNumber}
    {outcomes : List (BirthNumber × UnitOutcome V)}
    (ran : world.runUnits units = some (next, outcomes)) : keeps next := by
  induction units generalizing world outcomes with
  | nil =>
    cases ran
    exact kept
  | cons number rest ih =>
    unfold World.runUnits at ran
    obtain ⟨⟨middle, outcome⟩, first, ran⟩ := Option.bind_eq_some_iff.mp ran
    obtain ⟨⟨last, later⟩, others, ran⟩ := Option.bind_eq_some_iff.mp ran
    cases ran
    exact ih (durable.runUnit kept first) others

/-! ## Reports -/

/-- What is durable is kept when an agent is scheduled. -/
theorem schedule (durable : Durable keeps) (kept : keeps world) (number : BirthNumber) :
    keeps (world.schedule number) :=
  durable.aside _ world.executor.abandoned world.executor.random world.running world.openGates
    world.clock kept

/-- What is durable is kept when an agent is scheduled again. -/
theorem requeueIf (durable : Durable keeps) (kept : keeps world) (number : BirthNumber)
    (condition : Bool) : keeps (world.requeueIf number condition) := by
  cases condition with
  | true => exact durable.schedule kept number
  | false => exact kept

/-- What is durable is kept by the report on a unit. -/
theorem report (durable : Durable keeps) (kept : keeps world) (number : BirthNumber)
    (outcome : UnitOutcome V) : keeps (world.report number outcome).1 := by
  cases outcome with
  | ended outcome =>
    rw [World.report_eq]
    exact durable.requeueIf kept number _
  | timedOut => exact kept

/-- What is durable is kept by the reports on all units. -/
theorem reportAll (durable : Durable keeps) (kept : keeps world) (results : TickResults V)
    (outcomes : List (BirthNumber × UnitOutcome V)) :
    keeps (world.reportAll results outcomes).1 := by
  induction outcomes generalizing world results with
  | nil => exact kept
  | cons entry rest ih => exact ih (durable.report kept entry.1 entry.2) _

/-- What is durable is kept when busy agents are put off. -/
theorem deferAll (durable : Durable keeps) (kept : keeps world) (results : TickResults V)
    (busy : List BirthNumber) : keeps (world.deferAll results busy).1 := by
  induction busy generalizing world results with
  | nil => exact kept
  | cons number rest ih => exact ih (durable.schedule kept number) _

/-! ## Ticks -/

/-- A tick keeps what is durable up to the counter. -/
theorem tickOver (durable : Durable keeps) (kept : keeps world) {units : List BirthNumber}
    {results : TickResults V} (ended : world.tickOver units = some (next, results)) :
    ∃ flown duration, keeps flown ∧ next = flown.ticked duration := by
  unfold World.tickOver at ended
  obtain ⟨⟨landed, outcomes⟩, ran, ended⟩ := Option.bind_eq_some_iff.mp ended
  have launched : keeps { world with running := units } :=
    durable.aside world.executor.schedule world.executor.abandoned world.executor.random units
      world.openGates world.clock kept
  have reported := durable.reportAll (durable.runUnits launched ran) [] outcomes
  cases ended
  exact ⟨_, _, durable.deferAll reported _ _, rfl⟩

/-- A tick keeps what is durable, up to the moment at which it counts itself. -/
theorem tick (durable : Durable keeps) (kept : keeps world) {results : TickResults V}
    (ended : world.tick = some (next, .ok results)) :
    ∃ flown duration, keeps flown ∧ next = flown.ticked duration := by
  cases shut : world.executor.isShutDown with
  | true => simp [World.tick, shut] at ended
  | false =>
    obtain ⟨random, order, _, equation⟩ := world.tick_eq shut
    rw [equation] at ended
    obtain ⟨⟨final, reported⟩, ended, answered⟩ := Option.map_eq_some_iff.mp ended
    cases answered
    have taken : keeps (world.taken random) :=
      durable.aside [] world.executor.abandoned random world.running world.openGates world.clock
        kept
    exact durable.tickOver taken ended

end Durable

/-! ## Ticks that fail -/

/-- A tick fails only when the executor is shut down, and then it changes nothing. -/
theorem tick_error {world next : World V} {cause : TickError}
    (failed : world.tick = some (next, .error cause)) :
    next = world ∧ cause = .shutDown ∧ world.executor.isShutDown = true := by
  cases shut : world.executor.isShutDown with
  | true =>
    simp only [tick, shut, if_pos, Option.some.injEq, Prod.mk.injEq, Except.error.injEq] at failed
    exact ⟨failed.1.symm, failed.2.symm, rfl⟩
  | false =>
    obtain ⟨random, order, _, equation⟩ := world.tick_eq shut
    rw [equation] at failed
    obtain ⟨_, _, answered⟩ := Option.map_eq_some_iff.mp failed
    cases answered

/-- A tick that returns results counts itself. -/
theorem tick_counts {world next : World V} {results : TickResults V}
    (ended : world.tick = some (next, .ok results)) :
    next.executor.tick = world.executor.tick + 1 := by
  have durable : Durable fun other : World V => other.executor.tick = world.executor.tick :=
    { stride := fun number phase kept => ((stride_moves _ number phase).frame.tick).trans kept
      aside := fun _ _ _ _ _ _ kept => kept }
  obtain ⟨flown, duration, kept, rfl⟩ := durable.tick rfl ended
  exact congrArg (· + 1) kept

end World

end Deliberation
