import Deliberation.Proofs.Dispatch

/-!
# Runs of a platform

A run starts from a world without agents. Between ticks, operations come from outside. A tick is a
`Flight`: its cycles make their strides in any interleaving, operations come in between two strides,
and each outcome is accounted for at some time after its cycle is over. `Reachable` worlds are those
in which no flight is under way. `World.tick` is one of these flights (`Flight.of_tick`), the one
that runs one cycle after the other.

`World.Wired` is what every world of a run has in common, whatever its agents are up to.
-/

namespace Deliberation

open Relation

variable {V : Vocabulary}

/-! ## Operations -/

/-- What can be done to a world from outside. -/
inductive Operation (V : Vocabulary) where
  | spawn (id : AgentId) (design : Design V)
  | kill (id : AgentId)
  | reap
  /-- A trigger, a message, a goal, a request to stop or a nudge reaches an agent. -/
  | arrive (number : BirthNumber) (arrival : Arrival V)
  | deliver (message : Message)
  /-- A message goes out in the name of an agent. -/
  | send (number : BirthNumber) (message : Message)
  | schedule (number : BirthNumber)
  | hold (number : BirthNumber)
  | forget (id : AgentId)
  | openGate (gate : String)

namespace Operation

/-- The world after an operation. -/
def perform (world : World V) : Operation V → World V
  | spawn id design => (world.spawn id design).1
  | kill id => (world.kill id).1
  | reap => world.reap.1
  | arrive number arrival => world.arrive number arrival
  | deliver message => (world.deliver message).1
  | send number message => (world.send number message).1
  | schedule number => world.schedule number
  | hold number => world.hold number
  | forget id => world.forget id
  | openGate gate => world.openGate gate

/-- No identity is used for two agents, and only agents are scheduled. -/
def Permitted (world : World V) : Operation V → Prop
  | spawn id _ =>
    world.registry.contains id = true ∨
      ∀ number < world.agents.size, (world.agent number).id ≠ id
  | schedule number => number < world.agents.size
  | _ => True

/-- What an operation comes down to for the agents and the executor. -/
inductive Effect : World V → World V → Prop where
  /-- An agent is born, with an identity that no other agent has, and scheduled. -/
  | born (world : World V) (id : AgentId) (design : Design V) (messenger : Messenger)
      (registry : AgentIndex BirthNumber)
      (fresh : ∀ number < world.agents.size, (world.agent number).id ≠ id) :
      Effect world
        { (world.create id design (some .executor) true).1 with
          messenger
          registry
          executor :=
            { world.executor with
              schedule := AgentIndex.insert id world.agents.size world.executor.schedule } }
  /-- An agent is scheduled. -/
  | scheduled (world : World V) (number : BirthNumber) (inside : number < world.agents.size) :
      Effect world (world.schedule number)
  /-- Things arrive at agents, after something changed that no agent has a part in. -/
  | stirred (world middle next : World V) (agents : middle.agents = world.agents)
      (executor : middle.executor = world.executor) (pursuit : middle.pursuit = world.pursuit)
      (stirs : Stirs 0 middle next) : Effect world next

/-- Deregistering agents changes the messenger only. -/
theorem deregisterAll_eq (ids : List AgentId) (world : World V) :
    ∃ messenger, ids.foldl World.deregister world = { world with messenger } := by
  induction ids generalizing world with
  | nil => exact ⟨_, rfl⟩
  | cons id rest ih =>
    obtain ⟨messenger, deregistered⟩ := ih (world.deregister id)
    exact ⟨messenger, deregistered⟩

/-- Agents that are done are looked for, but not changed. -/
theorem reap_eq (world : World V) :
    ∃ messenger registry, world.reap.1 = { world with messenger, registry } := by
  unfold World.reap
  exact (deregisterAll_eq _ _).elim fun messenger deregistered => ⟨messenger, _, deregistered⟩

/-- No agent gets lost by an effect. -/
theorem Effect.size_le {world next : World V} (effect : Effect world next) :
    world.agents.size ≤ next.agents.size := by
  cases effect with
  | born id design messenger registry fresh =>
    change _ ≤ (world.agents.push _).size
    rw [Array.size_push]
    exact Nat.le_succ _
  | scheduled number inside => exact Nat.le_refl _
  | stirred middle _ agents executor pursuit stirs =>
    rw [stirs.steady.lasting.frame.size, agents]

/-- As long as no cycle is abandoned, every operation has one of these effects. -/
theorem perform_effect {world : World V} (noneAbandoned : world.executor.abandoned = [])
    (operation : Operation V) (permitted : operation.Permitted world) :
    Effect world (operation.perform world) := by
  cases operation with
  | spawn id design =>
    cases taken : world.registry.contains id with
    | true =>
      refine .stirred world world _ rfl rfl rfl ?_
      simp only [perform, World.spawn, taken, if_pos]
      exact .refl
    | false =>
      have spawned := world.spawn_eq id design taken
      have fresh : ∀ number < world.agents.size, (world.agent number).id ≠ id := by
        rcases permitted with registered | fresh
        · rw [taken] at registered
          cases registered
        · exact fresh
      simp only [perform, spawned]
      exact .born world id design _ _ fresh
  | kill id =>
    simp only [perform, World.kill]
    split
    · exact .stirred world world _ rfl rfl rfl .refl
    · exact .stirred world ((world.withRegistry (world.registry.erase id)).deregister id) _
        rfl rfl rfl (.single (.arrive _ _ _))
  | reap =>
    obtain ⟨messenger, registry, reaped⟩ := reap_eq world
    exact .stirred world { world with messenger, registry } _ rfl rfl rfl (reaped ▸ .refl)
  | arrive number arrival =>
    exact .stirred world world _ rfl rfl rfl (.single (.arrive world number arrival))
  | deliver message =>
    exact .stirred world world _ rfl rfl rfl (world.deliver_stirs 0 message)
  | send number message =>
    exact .stirred world world _ rfl rfl rfl (world.send_stirs 0 number message)
  | schedule number => exact .scheduled world number permitted
  | hold number => exact .stirred world (world.hold number) _ rfl rfl rfl .refl
  | forget id => exact .stirred world (world.forget id) _ rfl rfl rfl .refl
  | openGate gate =>
    refine .stirred world { world with openGates := gate :: world.openGates } _ rfl rfl rfl ?_
    simp only [perform, World.openGate, noneAbandoned]
    exact .refl

end Operation

/-! ## Flights -/

/-- A tick in the midst of its cycles, each with where it stands. A cycle that is over is there until
its outcome is accounted for. -/
structure Flight (V : Vocabulary) where
  world : World V
  cycles : List (BirthNumber × Phase V)

namespace Flight

/-- A tick whose cycles are about to begin. -/
def depart (world : World V) (random : Option Generator) (order : List BirthNumber) : Flight V :=
  { world := world.launch random order, cycles := order.map fun number => (number, .waking) }

/-- One step of a tick. -/
inductive Step : Flight V → Flight V → Prop where
  /-- Something is done from outside. -/
  | operate (flight : Flight V) (operation : Operation V)
      (permitted : operation.Permitted flight.world) :
      Step flight { flight with world := operation.perform flight.world }
  /-- Time passes. -/
  | elapse (flight : Flight V) (clock : Nat) :
      Step flight { flight with world := { flight.world with clock } }
  /-- One of the cycles makes a stride. -/
  | stride (flight : Flight V) {before behind : List (BirthNumber × Phase V)}
      {number : BirthNumber} {phase : Phase V}
      (underway : flight.cycles = before ++ (number, phase) :: behind) :
      Step flight
        { world := (flight.world.stride number phase).1
          cycles := before ++ (number, (flight.world.stride number phase).2) :: behind }
  /-- An outcome is accounted for. -/
  | report (flight : Flight V) {before behind : List (BirthNumber × Phase V)}
      {number : BirthNumber} {outcome : CycleOutcome V}
      (finished : flight.cycles = before ++ (number, .finished outcome) :: behind) :
      Step flight
        { world := flight.world.requeueIf number (outcome.asksAgain (flight.world.agent number))
          cycles := before ++ behind }

/-- Any number of steps. -/
abbrev Steps : Flight V → Flight V → Prop := ReflTransGen Step

/-- The world after a tick that took some time. -/
def touchDown (flight : Flight V) (duration : Nat) : World V :=
  { flight.world with
    executor :=
      { flight.world.executor with
        tick := flight.world.executor.tick + 1
        lastTickDuration := duration }
    running := [] }

/-- While one cycle makes its strides, the others may stand still. -/
theorem of_strides {number : BirthNumber} {start stop : World V × Phase V}
    (strides : World.Strides number start stop) (before behind : List (BirthNumber × Phase V)) :
    Steps { world := start.1, cycles := before ++ (number, start.2) :: behind }
      { world := stop.1, cycles := before ++ (number, stop.2) :: behind } := by
  induction strides with
  | refl => exact .refl
  | tail _ stride ih =>
    refine ih.tail ?_
    cases stride with
    | stride world phase =>
      exact @Step.stride _ { world, cycles := before ++ (number, phase) :: behind } _ _ _ _ rfl
    | elapse world phase clock =>
      exact .elapse { world, cycles := before ++ (number, phase) :: behind } clock

/-- Cycles that run one after the other are a flight. -/
theorem of_cycles {world after : World V} {units : List BirthNumber}
    {outcomes : List (BirthNumber × CycleOutcome V)}
    (dispatch : World.Dispatch world units after outcomes) (earlier : List (BirthNumber × Phase V)) :
    Steps { world, cycles := earlier ++ units.map fun number => (number, .waking) }
      { world := after
        cycles := earlier ++ outcomes.map fun (number, outcome) => (number, .finished outcome) } := by
  induction dispatch generalizing earlier with
  | nil world => exact .refl
  | @cons world next after number rest outcome outcomes ran _ ih =>
    have strides := world.cycle_strides number none
    rw [ran] at strides
    have first := of_strides strides earlier (rest.map fun number => (number, .waking))
    have later := ih (earlier ++ [(number, .finished outcome)])
    rw [List.append_assoc, List.append_assoc] at later
    exact first.trans later

/-- Accounting for the outcomes one after the other is what a tick does in the end. -/
theorem of_reports (world : World V) (results : TickResults V)
    (outcomes : List (BirthNumber × CycleOutcome V)) :
    Steps { world, cycles := outcomes.map fun (number, outcome) => (number, .finished outcome) }
      { world := (world.reportAll results
          (outcomes.map fun (number, outcome) => (number, .ended outcome))).1
        cycles := [] } := by
  induction outcomes generalizing world results with
  | nil => exact .refl
  | cons entry rest ih =>
    obtain ⟨number, outcome⟩ := entry
    rw [List.map_cons, List.map_cons, World.reportAll_cons, World.report_eq]
    refine .head ?_ (ih _ _)
    exact @Step.report _
      { world
        cycles := (number, .finished outcome) ::
          rest.map fun (number, outcome) => (number, .finished outcome) }
      [] _ number outcome rfl

/-- A tick that runs one cycle after the other is a flight. -/
theorem of_dispatch {world after : World V} {random : Option Generator} {order : List BirthNumber}
    {outcomes : List (BirthNumber × CycleOutcome V)}
    (dispatch : World.Dispatch (world.launch random order) order after outcomes) :
    ∃ flight, Steps (depart world random order) flight ∧ flight.cycles = [] ∧
      flight.touchDown (after.clock - world.clock) = after.land world.clock outcomes := by
  refine ⟨_, (of_cycles dispatch []).trans (of_reports after [] outcomes), rfl, ?_⟩
  rw [World.reportAll_eq]
  rfl

/-- Every tick that has an answer is a flight. -/
theorem of_tick {world next : World V} {results : TickResults V} (prompt : world.Prompt)
    (running : world.executor.isShutDown = false) (ticked : world.tick = some (next, .ok results)) :
    ∃ flight random order duration, order.Perm world.executor.schedule.values ∧
      Steps (depart world random order) flight ∧ flight.cycles = [] ∧
        flight.touchDown duration = next := by
  obtain ⟨random, order, permuted, equation⟩ := world.tick_eq running
  rw [equation] at ticked
  rcases prompt.tickOver_cases random order with
    ⟨flown, outcomes, dispatch, answered⟩ | ⟨-, unanswered⟩
  · rw [answered] at ticked
    obtain ⟨flight, steps, finished, landed⟩ := of_dispatch dispatch
    cases ticked
    exact ⟨flight, random, order, _, permuted, steps, finished, landed⟩
  · rw [unanswered] at ticked
    cases ticked

end Flight

/-! ## Runs -/

/-- The worlds of a run in which no tick is under way. -/
inductive Reachable (settings : ExecutorSettings) (messenger : Messenger) : World V → Prop where
  | start : Reachable settings messenger (World.new settings messenger)
  | operate {world : World V} (before : Reachable settings messenger world)
      (operation : Operation V) (permitted : operation.Permitted world) :
      Reachable settings messenger (operation.perform world)
  | tick {world next : World V} {results : TickResults V}
      (before : Reachable settings messenger world)
      (ticked : world.tick = some (next, .ok results)) : Reachable settings messenger next
  | fly {world : World V} {random : Option Generator} {order : List BirthNumber}
      {flight : Flight V} (before : Reachable settings messenger world)
      (permuted : order.Perm world.executor.schedule.values)
      (steps : Flight.Steps (.depart world random order) flight) (finished : flight.cycles = [])
      (duration : Nat) : Reachable settings messenger (flight.touchDown duration)

/-- What all worlds of a run have in common: there is no deadline, and every agent has an identity of
its own and asks the executor for its cycles. -/
structure World.Wired (world : World V) : Prop extends World.Prompt world where
  running : world.executor.isShutDown = false
  scheduler : ∀ number < world.agents.size, (world.agent number).scheduler = some .executor
  distinct : ∀ first < world.agents.size, ∀ second < world.agents.size,
    (world.agent first).id = (world.agent second).id → first = second

namespace World.Wired

variable {world next : World V}

/-- Only the agents and the executor matter. -/
theorem congr (wired : world.Wired) (agents : next.agents = world.agents)
    (executor : next.executor = world.executor) : next.Wired where
  toPrompt := wired.toPrompt.congr agents executor
  running := executor ▸ wired.running
  scheduler := by
    intro number inside
    rw [agent_congr agents]
    exact wired.scheduler number (agents ▸ inside)
  distinct := by
    intro first firstInside second secondInside
    rw [agent_congr agents, agent_congr agents]
    exact wired.distinct first (agents ▸ firstInside) second (agents ▸ secondInside)

/-- The moves of a cycle leave a world wired. -/
theorem moves {self : BirthNumber} (wired : world.Wired)
    (moves : Moves Agent.Lasting self world next) : next.Wired where
  toPrompt := wired.toPrompt.moves moves
  running := moves.frame.isShutDown.trans wired.running
  scheduler := by
    intro number inside
    rw [moves.frame.size] at inside
    exact (moves.frame.scheduler number).trans (wired.scheduler number inside)
  distinct := by
    intro first firstInside second secondInside
    rw [moves.frame.size] at firstInside secondInside
    rw [moves.frame.id, moves.frame.id]
    exact wired.distinct first firstInside second secondInside

/-- A world without agents. -/
theorem new (settings : ExecutorSettings) (messenger : Messenger)
    (noDeadline : settings.unitTimeout = none) : (World.new settings messenger : World V).Wired where
  toPrompt := .new settings messenger noDeadline
  running := rfl
  scheduler := fun _ inside => absurd inside (Nat.not_lt_zero _)
  distinct := fun _ inside => absurd inside (Nat.not_lt_zero _)

/-- A change of the schedule that keeps it a timetable. -/
theorem withSchedule (wired : world.Wired) (executor : Executor V)
    (changed : ∃ random schedule tick duration, executor =
      { world.executor with random, schedule, tick, lastTickDuration := duration })
    (timetable : ({ world with executor } : World V).Timetable) :
    ({ world with executor } : World V).Wired := by
  have prompt := wired.toPrompt.withExecutor changed timetable
  obtain ⟨_, _, _, _, rfl⟩ := changed
  exact { toPrompt := prompt, running := wired.running, scheduler := wired.scheduler
          distinct := wired.distinct }

/-- Taking the schedule for a tick leaves a world wired. -/
theorem taken (wired : world.Wired) (random : Option Generator) : (world.taken random).Wired :=
  wired.withSchedule _ ⟨_, _, _, _, rfl⟩ (.empty rfl)

/-- Scheduling an agent leaves a world wired. -/
theorem schedule (wired : world.Wired) {number : BirthNumber}
    (inside : number < world.agents.size) : (world.schedule number).Wired :=
  wired.withSchedule _ ⟨_, _, _, _, rfl⟩
    (wired.toTimetable.insert (fun _ before => ⟨before, rfl⟩) inside rfl rfl)

/-- A new agent with an identity of its own. -/
theorem born (wired : world.Wired) {id : AgentId} {design : Design V}
    (fresh : ∀ number < world.agents.size, (world.agent number).id ≠ id)
    (agents : next.agents = (world.create id design (some .executor) true).1.agents)
    (executor : next.executor =
      { world.executor with
        schedule := AgentIndex.insert id world.agents.size world.executor.schedule }) :
    next.Wired := by
  refine
    { toPrompt := wired.toPrompt.born agents executor, running := executor ▸ wired.running
      scheduler := ?_, distinct := ?_ }
  · intro number inside
    rcases agent_born agents inside with ⟨before, older⟩ | ⟨-, newest⟩
    · rw [older]
      exact wired.scheduler number before
    · rw [newest]
      rfl
  · intro first firstInside second secondInside same
    rcases agent_born agents firstInside with ⟨firstBefore, first⟩ | ⟨rfl, first⟩ <;>
      rcases agent_born agents secondInside with ⟨secondBefore, second⟩ | ⟨rfl, second⟩ <;>
      simp only [first, second] at same
    · exact wired.distinct _ firstBefore _ secondBefore same
    · exact absurd same (fresh _ firstBefore)
    · exact absurd same.symm (fresh _ secondBefore)
    · rfl

/-- Operations keep the agents wired. -/
theorem effect (wired : world.Wired) (effect : Operation.Effect world next) : next.Wired := by
  cases effect with
  | born id design messenger registry fresh => exact wired.born fresh rfl rfl
  | scheduled number inside => exact wired.schedule inside
  | stirred middle _ agents executor pursuit stirs =>
    exact (wired.congr agents executor).moves stirs.steady.lasting

end World.Wired

end Deliberation
