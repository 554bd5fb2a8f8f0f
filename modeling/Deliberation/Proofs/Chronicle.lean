import Deliberation.Proofs.Deeds
import Deliberation.Proofs.Farewell
import Deliberation.Proofs.Wakefulness

/-!
# What happens to one agent

A `Moment` is a state of a run of the platform, between two ticks or within one. Its steps are those
of `Flight`, and take-off and landing; each carries the `Event`s that concern one agent. So a run
has a chronicle for every agent: what its cycles do, what arrives at it, and what its slots show.

To that agent a step is one of four things: something happens around it, its cycle makes a stride,
its outcome is accounted for, or a tick takes it out of the schedule (`Moment.Step.change`).
Whatever concerns one agent alone can be proved over these (`Standing.Change`).
-/

namespace Deliberation

open Relation

variable {V : Vocabulary}

/-! ## Operations and the inbox -/

namespace Operation

/-- What an operation lets arrive. -/
def deeds (world : World V) : Operation V → List (Deed V)
  | kill id =>
    match world.registry.find? id with
    | none => []
    | some number => [.reaches number .stop]
  | arrive number arrival => [.reaches number arrival]
  | deliver message => world.mail message
  | send number message => world.mailFrom number message
  | _ => []

/-- An operation lets things arrive at an agent and changes nothing else of it. -/
theorem agent_perform {world : World V} (noneAbandoned : world.executor.abandoned = [])
    (operation : Operation V) {number : BirthNumber} (inside : number < world.agents.size) :
    (operation.perform world).agent number =
      (world.agent number).receiveAll (arrivalsAt number (operation.deeds world)) := by
  cases operation with
  | spawn id design =>
    cases taken : world.registry.contains id with
    | true =>
      simp only [perform, World.spawn, taken, if_pos]
      rfl
    | false =>
      simp only [perform, world.spawn_eq id design taken]
      exact world.agent_create_of_lt id design _ _ inside
  | kill id =>
    simp only [perform, World.kill, deeds]
    cases world.registry.find? id with
    | none => rfl
    | some reached =>
      exact World.agent_arrive ((world.withRegistry (world.registry.erase id)).deregister id)
        reached .stop inside
  | reap =>
    obtain ⟨messenger, registry, reaped⟩ := reap_eq world
    simp only [perform, reaped]
    rfl
  | arrive reached arrival => exact world.agent_arrive reached arrival inside
  | deliver message => exact world.agent_deliver message inside
  | send self message => exact world.agent_send self message inside
  | schedule reached | hold reached | forget id => rfl
  | openGate gate =>
    simp only [perform, World.openGate, noneAbandoned]
    rfl

end Operation

/-! ## Chronicles -/

/-- Something that happens to an agent. -/
inductive Event (V : Vocabulary) where
  /-- Its cycle does something. -/
  | does (deed : Deed V)
  /-- Its cycle breaks off. -/
  | breaks (cause : Panic)
  /-- Something arrives at it. -/
  | receives (arrival : Arrival V)
  /-- It is put into the schedule from outside. -/
  | enters
  /-- The outcome of its cycle is accounted for, and its slot shows it. -/
  | shows (slot : Slot V)

/-- What a deed of a cycle of `self` is to an agent. -/
def Deed.event? (number self : BirthNumber) : Deed V → Option (Event V)
  | .reaches reached arrival => if reached = number then some (.receives arrival) else none
  | deed => if self = number then some (.does deed) else none

/-- The panic with which a cycle broke off, if it did. -/
def Phase.panic? : Phase V → Option Panic
  | finished (.panicked cause) => some cause
  | _ => none

/-- What a stride of a cycle of `self` is to an agent. -/
def World.strideEvents (world : World V) (number self : BirthNumber) (phase : Phase V) :
    List (Event V) :=
  (world.deeds self phase).filterMap (Deed.event? number self) ++
    if self = number then (world.stride self phase).2.panic?.toList.map .breaks else []

/-- Whether an operation puts an agent into the schedule. -/
def Operation.schedules (number : BirthNumber) : Operation V → Bool
  | schedule scheduled => scheduled == number
  | _ => false

/-- What an operation is to an agent. -/
def Operation.events (number : BirthNumber) (world : World V) (operation : Operation V) :
    List (Event V) :=
  (arrivalsAt number (operation.deeds world)).map .receives ++
    if operation.schedules number then [.enters] else []

/-- A state of a run: between two ticks, when there are no cycles, or within one. -/
structure Moment (V : Vocabulary) extends Flight V where
  airborne : Bool

namespace Moment

/-- A platform without agents. -/
def new (settings : ExecutorSettings) (messenger : Messenger) : Moment V :=
  { world := World.new settings messenger, cycles := [], airborne := false }

/-- One step of a run, with what it is to an agent. -/
inductive Step (number : BirthNumber) : Moment V → List (Event V) → Moment V → Prop where
  /-- Something is done from outside. -/
  | operate (moment : Moment V) (operation : Operation V)
      (permitted : operation.Permitted moment.world) :
      Step number moment (operation.events number moment.world)
        { moment with world := operation.perform moment.world }
  /-- Time passes. -/
  | elapse (moment : Moment V) (clock : Nat) :
      Step number moment [] { moment with world := { moment.world with clock } }
  /-- A tick begins with the cycles of the scheduled agents. -/
  | depart (world : World V) (random : Option Generator) {order : List BirthNumber}
      (permuted : order.Perm world.executor.schedule.values) :
      Step number { world, cycles := [], airborne := false } []
        { toFlight := .depart world random order, airborne := true }
  /-- One of the cycles makes a stride. -/
  | stride (moment : Moment V) {before behind : List (BirthNumber × Phase V)}
      {self : BirthNumber} {phase : Phase V}
      (underway : moment.cycles = before ++ (self, phase) :: behind) :
      Step number moment (moment.world.strideEvents number self phase)
        { moment with
          world := (moment.world.stride self phase).1
          cycles := before ++ (self, (moment.world.stride self phase).2) :: behind }
  /-- An outcome is accounted for. -/
  | report (moment : Moment V) {before behind : List (BirthNumber × Phase V)}
      {self : BirthNumber} {outcome : CycleOutcome V}
      (finished : moment.cycles = before ++ (self, .finished outcome) :: behind) :
      Step number moment
        (if self = number then [.shows (outcome.slot (moment.world.agent self).id)] else [])
        { moment with
          world := moment.world.requeueIf self (outcome.asksAgain (moment.world.agent self))
          cycles := before ++ behind }
  /-- All outcomes are accounted for, and the tick is over. -/
  | land (flight : Flight V) (finished : flight.cycles = []) (duration : Nat) :
      Step number { toFlight := flight, airborne := true } []
        { world := flight.touchDown duration, cycles := [], airborne := false }

/-- A run with what happens to an agent in it. -/
inductive Run (number : BirthNumber) (start : Moment V) : List (Event V) → Moment V → Prop where
  | refl : Run number start [] start
  | step {middle final : Moment V} {earlier later : List (Event V)}
      (run : Run number start earlier middle) (step : Step number middle later final) :
      Run number start (earlier ++ later) final

variable {number : BirthNumber} {moment next : Moment V} {events : List (Event V)}

/-- Runs follow one another, with the events of both. -/
theorem Run.trans {start middle final : Moment V} {earlier later : List (Event V)}
    (before : Run number start earlier middle) (after : Run number middle later final) :
    Run number start (earlier ++ later) final := by
  induction after with
  | refl =>
    rw [List.append_nil]
    exact before
  | step _ step ih =>
    rw [← List.append_assoc]
    exact ih.step step

/-- Every step of a flight is a step of a run. -/
theorem Step.of_flight {flight after : Flight V} (step : Flight.Step flight after)
    (number : BirthNumber) (airborne : Bool) :
    ∃ events,
      Step number { toFlight := flight, airborne } events { toFlight := after, airborne } := by
  cases step with
  | operate operation permitted => exact ⟨_, .operate _ operation permitted⟩
  | elapse clock => exact ⟨_, .elapse _ clock⟩
  | stride underway => exact ⟨_, .stride { toFlight := flight, airborne } underway⟩
  | report finished => exact ⟨_, .report { toFlight := flight, airborne } finished⟩

/-- The steps of a tick in flight are a run of moments, with some events. -/
theorem Run.of_flights {flight after : Flight V} (steps : Flight.Steps flight after)
    (number : BirthNumber) (airborne : Bool) :
    ∃ events,
      Run number { toFlight := flight, airborne } events { toFlight := after, airborne } := by
  induction steps with
  | refl => exact ⟨[], .refl⟩
  | tail _ step ih =>
    obtain ⟨earlier, run⟩ := ih
    obtain ⟨later, step⟩ := Step.of_flight step number airborne
    exact ⟨_, run.step step⟩

/-- Every tick that has an answer is a run. -/
theorem Run.of_tick {world after : World V} {results : TickResults V} (prompt : world.Prompt)
    (running : world.executor.isShutDown = false) (ticked : world.tick = some (after, .ok results))
    (number : BirthNumber) :
    ∃ events, Run number { world, cycles := [], airborne := false } events
      { world := after, cycles := [], airborne := false } := by
  obtain ⟨flight, random, order, duration, permuted, steps, finished, landed⟩ :=
    Flight.of_tick prompt running ticked
  obtain ⟨events, flown⟩ := Run.of_flights steps number true
  have departed : Run number { world, cycles := [], airborne := false } _ _ :=
    .step .refl (.depart world random permuted)
  have landing : Step number { toFlight := flight, airborne := true } []
      { world := after, cycles := [], airborne := false } := by
    rw [← landed]
    exact .land flight finished duration
  exact ⟨_, (departed.trans flown).step landing⟩

/-! ## In every moment -/

/-- What every moment of a run has: the flight is sound, no agent has two cycles, and there are
cycles in a tick only. -/
structure Sound (moment : Moment V) : Prop where
  flight : moment.toFlight.Sound
  alone : (moment.cycles.map Prod.fst).Nodup
  grounded : moment.airborne = false → moment.cycles = []

/-- The first moment is sound. -/
theorem Sound.new (settings : ExecutorSettings) (messenger : Messenger)
    (noDeadline : settings.unitTimeout = none) : (new settings messenger : Moment V).Sound where
  flight :=
    { wired := .new settings messenger noDeadline
      inside := nofun
      awake := fun _ => .inr (.outside (Nat.zero_le _)) }
  alone := List.nodup_nil
  grounded := fun _ => rfl

/-- A step keeps a moment sound. -/
theorem Step.sound (step : Step number moment events next) (sound : moment.Sound) : next.Sound := by
  cases step with
  | operate _ operation permitted =>
    exact
      { flight := Flight.step_sound sound.flight (.operate _ operation permitted)
        alone := sound.alone, grounded := sound.grounded }
  | elapse _ clock =>
    exact
      { flight := Flight.step_sound sound.flight (.elapse _ clock)
        alone := sound.alone, grounded := sound.grounded }
  | @depart world random order permuted =>
    have awake : ∀ other, world.Awake other := by
      intro other
      rcases sound.flight.awake other with ⟨phase, member, _⟩ | awake
      · cases member
      · exact awake
    refine
      { flight := Flight.depart_sound sound.flight.wired awake random permuted
        alone := ?_, grounded := nofun }
    have units : ((Flight.depart world random order).cycles.map Prod.fst) = order := by
      simp [Flight.depart, Function.comp_def]
    rw [units]
    exact permuted.nodup_iff.mpr sound.flight.wired.toTimetable.values_nodup
  | stride _ underway =>
    refine
      { flight := Flight.step_sound sound.flight (.stride _ underway), alone := ?_
        grounded := fun grounded => ?_ }
    · have alone := sound.alone
      rw [underway] at alone
      simpa using alone
    · rw [sound.grounded grounded] at underway
      simp at underway
  | report _ finished =>
    refine
      { flight := Flight.step_sound sound.flight (.report _ finished), alone := ?_
        grounded := fun grounded => ?_ }
    · have alone := sound.alone
      rw [finished] at alone
      exact alone.sublist (((List.sublist_cons_self _ _).append_left _).map _)
    · rw [sound.grounded grounded] at finished
      simp at finished
  | land flight finished duration =>
    obtain ⟨wired, awake⟩ := sound.flight.touchDown finished duration
    exact
      { flight := { wired, inside := nofun, awake := fun other => .inr (awake other) }
        alone := List.nodup_nil, grounded := fun _ => rfl }

/-- No agent gets lost. -/
theorem Step.size_le (step : Step number moment events next) (sound : moment.Sound) :
    moment.world.agents.size ≤ next.world.agents.size := by
  cases step with
  | operate _ operation permitted =>
    exact (operation.perform_change sound.flight.wired.noneAbandoned).size_le
  | stride _ underway => exact (World.stride_moves _ _ _).frame.size.ge
  | report _ finished =>
    rw [World.requeueIf_eq]
  | _ => exact Nat.le_refl _

/-- A run keeps a moment sound. -/
theorem Run.sound {start final : Moment V} (run : Run number start events final)
    (sound : start.Sound) : final.Sound := by
  induction run with
  | refl => exact sound
  | step _ step ih => exact step.sound ih

/-- In a run no agent gets lost. -/
theorem Run.size_le {start final : Moment V} (run : Run number start events final)
    (sound : start.Sound) : start.world.agents.size ≤ final.world.agents.size := by
  induction run with
  | refl => exact Nat.le_refl _
  | step run step ih => exact ih.trans (step.size_le (run.sound sound))

end Moment

/-! ## The schedule entry of an agent that is done -/

namespace World

variable {world : World V} {number : BirthNumber}

/-- Whether an agent is scheduled. -/
def isScheduled (world : World V) (number : BirthNumber) : Bool :=
  world.executor.schedule.contains (world.agent number).id

/-- An agent in the schedule is scheduled. -/
theorem Timetable.isScheduled_of_mem (timetable : world.Timetable)
    (listed : number ∈ world.executor.schedule.values) : world.isScheduled number = true := by
  unfold isScheduled
  rw [AgentIndex.contains_iff, ← timetable.map_id_values]
  exact List.mem_map_of_mem listed

/-- Whoever else is scheduled, an agent with an identity of its own is not. -/
theorem isScheduled_of_insert (wired : world.Wired) {other : BirthNumber}
    (inside : number < world.agents.size) (otherInside : other < world.agents.size)
    (different : other ≠ number)
    (scheduled : AgentIndex.contains (AgentIndex.insert (world.agent other).id other
      world.executor.schedule) (world.agent number).id = true) :
    world.isScheduled number = true := by
  rcases (AgentIndex.contains_insert _ _ _ _).mp scheduled with same | before
  · exact absurd (wired.distinct _ otherInside _ inside same.symm) different
  · exact before

/-- An agent that asks for another cycle is scheduled. -/
theorem isScheduled_requeueIf_self (world : World V) (number : BirthNumber) (condition : Bool) :
    (world.requeueIf number condition).isScheduled number =
      (world.isScheduled number || condition) := by
  rw [requeueIf_eq]
  cases condition with
  | true =>
    rw [Bool.or_true]
    exact (AgentIndex.contains_insert _ _ _ _).mpr (.inl rfl)
  | false =>
    rw [Bool.or_false]
    rfl

/-- An agent that is scheduled after another one was scheduled again was so before. -/
theorem isScheduled_of_requeueIf (wired : world.Wired) {other : BirthNumber}
    (inside : number < world.agents.size) (otherInside : other < world.agents.size)
    (different : other ≠ number) {condition : Bool}
    (scheduled : (world.requeueIf other condition).isScheduled number = true) :
    world.isScheduled number = true := by
  rw [requeueIf_eq] at scheduled
  cases condition with
  | true => exact isScheduled_of_insert wired inside otherInside different scheduled
  | false => exact scheduled

/-- An arrival schedules no agent that is done. -/
theorem isScheduled_of_arrive (wired : world.Wired) (inside : number < world.agents.size)
    (isDone : (world.agent number).done = true) (reached : BirthNumber) (arrival : Arrival V)
    (scheduled : (world.arrive reached arrival).isScheduled number = true) :
    world.isScheduled number = true := by
  unfold isScheduled at scheduled
  rw [(world.arrive_frame reached arrival).id, schedule_arrive] at scheduled
  split at scheduled
  · rename_i wakes
    refine isScheduled_of_insert wired inside (scheduled_inside wakes.2) ?_ scheduled
    rintro rfl
    rw [isDone] at wakes
    cases wakes.1
  · exact scheduled

end World

/-- No cycle schedules an agent that is done. -/
theorem Moves.isScheduled_of_done {keeps : Agent V → Agent V → Prop} {self number : BirthNumber}
    {before after : World V} (moves : Moves keeps self before after)
    (lasting : ∀ agent next, keeps agent next → Agent.Lasting agent next)
    (still : ∀ agent next, keeps agent next → number = self → next.done = agent.done)
    (wired : before.Wired) (inside : number < before.agents.size)
    (isDone : (before.agent number).done = true) (scheduled : after.isScheduled number = true) :
    before.isScheduled number = true := by
  induction moves using ReflTransGen.head_induction_on with
  | refl => exact scheduled
  | @head world middle move _ ih =>
    cases move with
    | own change kept =>
      have keepsOn : Move Agent.Lasting self world (world.modifyAgent self change) :=
        .own world change (lasting _ _ kept)
      have id := keepsOn.frame.id number
      have stillDone : ((world.modifyAgent self change).agent number).done = true := by
        by_cases same : number = self
        · subst same
          rw [World.agent_modifyAgent_self world change inside, still _ _ kept rfl]
          exact isDone
        · rw [World.agent_modifyAgent_of_ne world change same]
          exact isDone
      have later := ih (wired.moves (.single keepsOn)) (by simpa using inside) stillDone
      unfold World.isScheduled at later ⊢
      rwa [id] at later
    | arrive reached arrival =>
      have keepsOn : Move Agent.Lasting self world (world.arrive reached arrival) :=
        .arrive world reached arrival
      have stillDone : ((world.arrive reached arrival).agent number).done = true := by
        rw [World.agent_arrive world reached arrival inside]
        exact isDone
      exact World.isScheduled_of_arrive wired inside isDone reached arrival
        (ih (wired.moves (.single keepsOn)) (by simpa using inside) stillDone)
    | aside pursuit messenger names journal clock =>
      exact ih (wired.congr rfl rfl) inside isDone

namespace World

variable {world : World V} {number : BirthNumber}

/-- A cycle schedules its own agent only when that is not done. -/
theorem isScheduled_of_stride (wired : world.Wired) (inside : number < world.agents.size)
    (isDone : (world.agent number).done = true) (self : BirthNumber) (phase : Phase V)
    (scheduled : (world.stride self phase).1.isScheduled number = true) :
    world.isScheduled number = true := by
  by_cases same : number = self
  · subst same
    have id := (world.stride_moves number phase).frame.id number
    rcases world.stride_cases number phase with
      steady | ⟨rfl, notDone, closing⟩ | ⟨effects, actions, rfl⟩
    · exact steady.isScheduled_of_done (fun _ _ kept => kept.toLasting)
        (fun _ _ kept _ => kept.done) wired inside isDone scheduled
    · rw [isDone] at notDone
      cases notDone
    · unfold isScheduled at scheduled ⊢
      rwa [id] at scheduled
  · exact (world.stride_moves self phase).isScheduled_of_done (fun _ _ kept => kept)
      (fun _ _ _ equal => absurd equal same) wired inside isDone scheduled

/-- An operation schedules an agent that is done only when it is told to. -/
theorem isScheduled_of_operation (wired : world.Wired) (inside : number < world.agents.size)
    (isDone : (world.agent number).done = true) (operation : Operation V)
    (permitted : operation.Permitted world) (notTold : operation.schedules number = false)
    (scheduled : (operation.perform world).isScheduled number = true) :
    world.isScheduled number = true := by
  have change := operation.perform_change wired.noneAbandoned
  revert permitted notTold scheduled
  generalize operation.perform world = next at change
  intro permitted notTold scheduled
  cases change with
  | born id design messenger absent =>
    have older := world.agent_create_of_lt id design (some .executor) true inside
    have different : (world.agent number).id ≠ id := by
      rcases permitted with registered | fresh
      · rw [absent] at registered
        cases registered
      · exact fresh number inside
    have entry : AgentIndex.contains
        (AgentIndex.insert id world.agents.size world.executor.schedule)
          ((world.create id design (some .executor) true).1.agent number).id = true := scheduled
    rw [older] at entry
    exact ((AgentIndex.contains_insert _ _ _ _).mp entry).resolve_left different
  | scheduled reached =>
    have different : reached ≠ number := by simpa [Operation.schedules] using notTold
    exact isScheduled_of_insert wired inside permitted different scheduled
  | stirred _ middle agents executor registry stirs =>
    have before := stirs.steady.isScheduled_of_done (fun _ _ kept => kept.toLasting)
      (fun _ _ kept _ => kept.done) (wired.congr agents executor) (agents ▸ inside)
      ((congrArg Agent.done (agent_congr agents number)).trans isDone) scheduled
    unfold isScheduled at before ⊢
    rwa [agent_congr agents, executor] at before

end World

/-! ## What a step is to one agent -/

/-- What of a moment concerns one agent: its state, its cycle, and whether it is scheduled. -/
structure Standing (V : Vocabulary) where
  agent : Agent V
  phase : Option (Phase V)
  scheduled : Bool

/-- What concerns an agent of a moment. -/
def Moment.standing (moment : Moment V) (number : BirthNumber) : Standing V :=
  { agent := moment.world.agent number
    phase := moment.cycles.lookup number
    scheduled := moment.world.isScheduled number }

/-- What a step is to an agent. -/
inductive Standing.Change (number : BirthNumber) :
    Standing V → List (Event V) → Standing V → Prop where
  /-- Something happens around it, or it is put into the schedule. -/
  | around {agent : Agent V} {phase : Option (Phase V)} {scheduled later : Bool}
      (arrivals : List (Arrival V)) (told : Bool)
      (reason : later = true → agent.done = true → scheduled = true ∨ told = true) :
      Change number { agent, phase, scheduled }
        (arrivals.map .receives ++ if told then [.enters] else [])
        { agent := agent.receiveAll arrivals, phase, scheduled := later }
  /-- Its cycle makes a stride. -/
  | stride {world : World V} {phase : Phase V} {scheduled later : Bool}
      (inside : number < world.agents.size)
      (reason : later = true → (world.agent number).done = true → scheduled = true) :
      Change number { agent := world.agent number, phase := some phase, scheduled }
        (world.strideEvents number number phase)
        { agent := (world.stride number phase).1.agent number
          phase := some (world.stride number phase).2
          scheduled := later }
  /-- The outcome of its cycle is accounted for. -/
  | report {agent : Agent V} {outcome : CycleOutcome V} {scheduled : Bool} :
      Change number { agent, phase := some (.finished outcome), scheduled }
        [.shows (outcome.slot agent.id)]
        { agent, phase := none, scheduled := scheduled || outcome.asksAgain agent }
  /-- A tick takes it out of the schedule. -/
  | rouse {agent : Agent V} :
      Change number { agent, phase := none, scheduled := true } []
        { agent, phase := some .waking, scheduled := false }

section lookup

variable {before behind : List (BirthNumber × Phase V)} {number self : BirthNumber}
  {phase : Phase V}

/-- The cycle of an agent that has no other one. -/
theorem lookup_self (alone : ((before ++ (number, phase) :: behind).map Prod.fst).Nodup) :
    (before ++ (number, phase) :: behind).lookup number = some phase ∧
      (before ++ behind).lookup number = none := by
  rw [List.map_append, List.map_cons, List.nodup_append] at alone
  have inBefore : before.lookup number = none := by
    rw [List.lookup_eq_none_iff]
    intro entry member
    have different := alone.2.2 entry.1 (List.mem_map_of_mem member) number List.mem_cons_self
    simpa using Ne.symm different
  have inBehind : behind.lookup number = none := by
    rw [List.lookup_eq_none_iff]
    intro entry member
    have absent := (List.nodup_cons.mp alone.2.1).1
    have listed : entry.1 ∈ behind.map Prod.fst := List.mem_map_of_mem member
    have different : number ≠ entry.1 := fun equal => absent (equal ▸ listed)
    simpa using different
  rw [List.lookup_append, List.lookup_append, inBefore, inBehind, List.lookup_cons_self]
  exact ⟨rfl, rfl⟩

/-- The cycles of the other agents do not matter. -/
theorem lookup_other (different : self ≠ number) :
    (before ++ (self, phase) :: behind).lookup number = (before ++ behind).lookup number := by
  have skips : (number == self) = false := by simpa using Ne.symm different
  rw [List.lookup_append, List.lookup_append, List.lookup_cons, skips]

/-- The cycles that a tick begins. -/
theorem lookup_units {units : List BirthNumber} (listed : number ∈ units) :
    (units.map fun unit => (unit, Phase.waking (V := V))).lookup number = some .waking := by
  induction units with
  | nil => cases listed
  | cons unit rest ih =>
    rw [List.map_cons, List.lookup_cons]
    cases same : number == unit with
    | true => rfl
    | false =>
      refine ih ((List.mem_cons.mp listed).resolve_left ?_)
      simpa using same

end lookup

namespace Moment

variable {number : BirthNumber} {moment next : Moment V} {events : List (Event V)}

/-- What a stride of another agent is to an agent. -/
theorem strideEvents_other (world : World V) {self : BirthNumber} (phase : Phase V)
    (different : self ≠ number) :
    world.strideEvents number self phase =
      (arrivalsAt number (world.deeds self phase)).map .receives := by
  unfold World.strideEvents arrivalsAt
  rw [if_neg different, List.append_nil, List.map_filterMap]
  refine List.filterMap_congr fun deed _ => ?_
  cases deed with
  | reaches reached arrival =>
    simp only [Deed.event?, Deed.arrivalAt?]
    split <;> rfl
  | _ => simp [Deed.event?, Deed.arrivalAt?, different]

/-- Things that arrive, and a place in the schedule with a reason, are no more than surroundings. -/
theorem Change.of_around {before after : Standing V} (arrivals : List (Arrival V)) (told : Bool)
    (agent : after.agent = before.agent.receiveAll arrivals) (phase : after.phase = before.phase)
    (reason : after.scheduled = true → before.agent.done = true →
      before.scheduled = true ∨ told = true) :
    Standing.Change number before (arrivals.map .receives ++ if told then [.enters] else [])
      after := by
  obtain ⟨_, _, later⟩ := after
  cases agent
  cases phase
  exact .around arrivals told reason

/-- Every step is one of the four things to an agent. -/
theorem Step.change (step : Step number moment events next) (sound : moment.Sound)
    (inside : number < moment.world.agents.size) :
    Standing.Change number (moment.standing number) events (next.standing number) := by
  have wired := sound.flight.wired
  cases step with
  | operate _ operation permitted =>
    refine Change.of_around _ _ (operation.agent_perform wired.noneAbandoned inside) rfl ?_
    intro scheduled isDone
    cases told : operation.schedules number with
    | true => exact .inr rfl
    | false =>
      exact .inl
        (World.isScheduled_of_operation wired inside isDone operation permitted told scheduled)
  | elapse _ clock => exact Change.of_around [] false rfl rfl fun scheduled _ => .inl scheduled
  | @depart world random order permuted =>
    change Standing.Change number ⟨world.agent number, none, world.isScheduled number⟩ []
      ⟨world.agent number, (order.map fun unit => (unit, Phase.waking)).lookup number, false⟩
    by_cases listed : number ∈ order
    · rw [lookup_units listed, wired.toTimetable.isScheduled_of_mem (permuted.mem_iff.mp listed)]
      exact .rouse
    · have absent : (order.map fun unit => (unit, Phase.waking (V := V))).lookup number = none := by
        rw [List.lookup_eq_none_iff]
        intro entry member
        obtain ⟨unit, taken, rfl⟩ := List.mem_map.mp member
        have different : number ≠ unit := fun equal => listed (equal ▸ taken)
        simpa using different
      rw [absent]
      exact Change.of_around [] false rfl rfl nofun
  | @stride _ before behind self phase underway =>
    have alone := sound.alone
    rw [underway] at alone
    by_cases same : self = number
    · subst same
      have alone' : ((before ++ (self, (moment.world.stride self phase).2) :: behind).map
          Prod.fst).Nodup := by simpa using alone
      unfold standing
      rw [underway, (lookup_self alone).1, (lookup_self alone').1]
      exact .stride inside fun scheduled isDone =>
        World.isScheduled_of_stride wired inside isDone self phase scheduled
    · rw [strideEvents_other moment.world phase same]
      have changed := moment.world.agent_stride_of_ne phase (Ne.symm same) inside
      have cycles : (before ++ (self, (moment.world.stride self phase).2) :: behind).lookup number =
          moment.cycles.lookup number := by
        rw [underway, lookup_other same, lookup_other same]
      rw [← List.append_nil (List.map _ _)]
      exact Change.of_around _ false changed cycles fun scheduled isDone =>
        .inl (World.isScheduled_of_stride wired inside isDone self phase scheduled)
  | @report _ before behind self outcome finished =>
    have alone := sound.alone
    rw [finished] at alone
    by_cases same : self = number
    · subst same
      rw [if_pos rfl]
      unfold standing
      rw [finished, (lookup_self alone).1, (lookup_self alone).2,
        moment.world.isScheduled_requeueIf_self, moment.world.requeueIf_eq]
      exact .report
    · rw [if_neg same]
      have otherInside : self < moment.world.agents.size := by
        refine sound.flight.inside (self, .finished outcome) ?_
        rw [finished]
        exact List.mem_append_right _ List.mem_cons_self
      have cycles : (before ++ behind).lookup number = moment.cycles.lookup number := by
        rw [finished, lookup_other same]
      have agent : (moment.world.requeueIf self
          (outcome.asksAgain (moment.world.agent self))).agent number =
            moment.world.agent number := by
        rw [moment.world.requeueIf_eq]
        rfl
      exact Change.of_around [] false agent cycles fun scheduled _ =>
        .inl (World.isScheduled_of_requeueIf wired inside otherInside same scheduled)
  | land flight finished duration =>
    refine Change.of_around [] false rfl ?_ fun scheduled _ => .inl scheduled
    change ([] : List (BirthNumber × Phase V)).lookup number = flight.cycles.lookup number
    rw [finished]

end Moment

end Deliberation
