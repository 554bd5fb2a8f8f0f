import Deliberation.Market.Trading
import Deliberation.Proofs.Frame
import Deliberation.Proofs.Hops

/-!
# One tick

Without a deadline a tick runs the cycles of its units one after the other, and it has an answer
when each of them ends in its turn. `World.Dispatch` is the relation of these cycles;
`tickOver_of_dispatch` says what the tick makes of them, in whatever order the units are dispatched.
`World.tick_exact` collects what a caller of `World.tick` can rely on.
-/

namespace Deliberation

variable {V : Vocabulary}

/-! ## The dispatch order -/

/-- Swapping two items permutes them. -/
theorem Shuffle.swap_perm {α : Type} (items : Array α) (first second : Nat) :
    (items.swapIfInBounds first second).Perm items := by
  unfold Array.swapIfInBounds
  split
  · split
    · exact Array.swap_perm _ _
    · exact .refl items
  · exact .refl items

/-- Each exchange of a shuffle permutes the items. -/
theorem Shuffle.exchange_perm {α : Type} (count index : Nat) (items : Array α) (draws : Draws) :
    (exchange count index items draws).1.Perm items := by
  induction count generalizing index items draws with
  | zero => exact .refl items
  | succ count ih => exact (ih _ _ _).trans (swap_perm items index _)

/-- A shuffle neither loses nor repeats an item, whatever the generator draws. -/
theorem shuffle_perm {α : Type} (items : List α) (generator : Generator) :
    (shuffle items generator).1.Perm items := by
  unfold shuffle
  split
  · exact .refl items
  · exact (Shuffle.exchange_perm _ _ items.toArray _).toList

namespace World

/-- The units are dispatched in some order of theirs, and only the generator changes. -/
theorem dispatchOrder_eq (world : World V) (units : List BirthNumber) :
    ∃ random order, order.Perm units ∧
      world.dispatchOrder units =
        ({ world with executor := { world.executor with random } }, order) := by
  unfold dispatchOrder
  split
  · exact ⟨world.executor.random, units, .refl units, rfl⟩
  · rename_i generator _
    exact ⟨_, _, shuffle_perm units generator, rfl⟩

/-! ## The cycles of a tick -/

/-- The state of an executor between ticks, as long as there is no deadline. -/
structure Prompt (world : World V) : Prop extends Timetable world where
  staffed : 0 < world.executor.poolSize
  noDeadline : world.executor.unitTimeout = none
  noneAbandoned : world.executor.abandoned = []

/-- Cycles of agents, one after the other, each of which ends. -/
inductive Dispatch :
    World V → List BirthNumber → World V → List (BirthNumber × CycleOutcome V) → Prop where
  | nil (world : World V) : Dispatch world [] world []
  | cons {world next after : World V} {number : BirthNumber} {rest : List BirthNumber}
      {outcome : CycleOutcome V} {outcomes : List (BirthNumber × CycleOutcome V)}
      (ran : world.cycle number none = .ended next outcome)
      (others : Dispatch next rest after outcomes) :
      Dispatch world (number :: rest) after ((number, outcome) :: outcomes)

/-- One of several cycles waits at a closed gate when its turn has come. -/
def Stuck (world : World V) (units : List BirthNumber) : Prop :=
  ∃ ran number rest next outcomes halted suspended,
    units = ran ++ number :: rest ∧ Dispatch world ran next outcomes ∧
      next.cycle number none = .blocked halted suspended

variable {world after : World V} {units : List BirthNumber}
  {outcomes : List (BirthNumber × CycleOutcome V)}

/-- Every unit runs one cycle, in the order of the dispatch. -/
theorem Dispatch.units_eq (dispatch : Dispatch world units after outcomes) :
    outcomes.map Prod.fst = units := by
  induction dispatch with
  | nil => rfl
  | cons _ _ ih => rw [List.map_cons, ih]

/-- The cycles of a tick keep the frame of the world. -/
theorem Dispatch.frame (dispatch : Dispatch world units after outcomes) : world.Frame after := by
  induction dispatch with
  | nil world => exact .refl world
  | @cons world next after number rest outcome outcomes ran _ ih =>
    have moves := world.cycle_moves number none
    rw [ran] at moves
    exact moves.frame.trans ih

/-- What is scheduled in the midst of a tick stays scheduled. -/
theorem Dispatch.schedule_grows (dispatch : Dispatch world units after outcomes) {id : AgentId}
    (scheduled : world.executor.schedule.contains id = true) :
    after.executor.schedule.contains id = true := by
  induction dispatch with
  | nil => exact scheduled
  | @cons world next after number rest outcome outcomes ran _ ih =>
    have moves := world.cycle_moves number none
    rw [ran] at moves
    exact ih (moves.schedule_grows scheduled)

/-- The dispatch of a first part of the units goes on to the dispatch of all of them. -/
theorem Dispatch.split {first second : List BirthNumber}
    (dispatch : Dispatch world (first ++ second) after outcomes) :
    ∃ middle earlier later, Dispatch world first middle earlier ∧
      Dispatch middle second after later ∧ outcomes = earlier ++ later := by
  induction first generalizing world outcomes with
  | nil => exact ⟨world, [], outcomes, .nil world, dispatch, rfl⟩
  | cons number rest ih =>
    cases dispatch with
    | cons ran others =>
      obtain ⟨middle, earlier, later, before, behind, split⟩ := ih others
      exact ⟨middle, _, later, .cons ran before, behind, by rw [split]; rfl⟩

/-- Either all cycles end in their turn, or one of them waits. -/
theorem dispatch_or_stuck (world : World V) (units : List BirthNumber) :
    (∃ after outcomes, Dispatch world units after outcomes) ∨ world.Stuck units := by
  induction units generalizing world with
  | nil => exact .inl ⟨world, [], .nil world⟩
  | cons number rest ih =>
    cases ran : world.cycle number none with
    | blocked halted suspended =>
      exact .inr ⟨[], number, rest, world, [], halted, suspended, rfl, .nil world, ran⟩
    | ended next outcome =>
      rcases ih next with ⟨after, outcomes, dispatch⟩ | stuck
      · exact .inl ⟨after, _, .cons ran dispatch⟩
      · obtain ⟨before, waiting, behind, middle, outcomes, halted, suspended, split, dispatch,
          blocked⟩ := stuck
        exact .inr ⟨number :: before, waiting, behind, middle, _, halted, suspended,
          by rw [split]; rfl, .cons ran dispatch, blocked⟩

end World

/-! ## The answer of a tick -/

/-- Whether an outcome makes its agent run again in the next tick. A cycle that returned says so
itself; after a failure or a panic the work that is left decides. -/
def CycleOutcome.asksAgain (agent : Agent V) : CycleOutcome V → Bool
  | acted _ reschedule => reschedule
  | failed _ | panicked _ => agent.hasPendingWork

/-- What the slot of an agent shows of the outcome of its cycle. -/
def CycleOutcome.slot (id : AgentId) : CycleOutcome V → Slot V
  | acted actions _ => .ok actions
  | failed cause => .error (.deliberation id cause)
  | panicked cause => .error (.panicked cause)

namespace World

/-- The agents that run again in the next tick because of their outcomes. -/
def requests (world : World V) (outcomes : List (BirthNumber × CycleOutcome V)) :
    List (AgentId × BirthNumber) :=
  (outcomes.filter fun (number, outcome) => outcome.asksAgain (world.agent number)).map
    fun (number, _) => ((world.agent number).id, number)

/-- What the slots show of the outcomes. -/
def slots (world : World V) (outcomes : List (BirthNumber × CycleOutcome V)) :
    List (AgentId × Slot V) :=
  outcomes.map fun (number, outcome) =>
    ((world.agent number).id, outcome.slot (world.agent number).id)

/-- The world after a tick whose cycles came out as told. -/
def land (world : World V) (started : Nat) (outcomes : List (BirthNumber × CycleOutcome V)) :
    World V :=
  { world with
    executor :=
      { world.executor with
        schedule := world.executor.schedule.insertAll (world.requests outcomes)
        tick := world.executor.tick + 1
        lastTickDuration := world.clock - started }
    running := [] }

variable {world after : World V} {units : List BirthNumber}
  {outcomes : List (BirthNumber × CycleOutcome V)}

/-- With no cycle abandoned a worker is free, and no time passes but that of the cycles. -/
theorem Prompt.runUnit (prompt : world.Prompt) (number : BirthNumber) :
    world.runUnit number =
      match world.cycle number none with
      | .ended next outcome => some (next, .ended outcome)
      | .blocked _ _ => none := by
  have free : world.freeWorker = some world := by
    unfold freeWorker freeWorkerWithin
    simp [prompt.noneAbandoned, prompt.staffed]
  simp only [World.runUnit, free, Option.bind_eq_bind, Option.bind_some, prompt.noDeadline,
    Option.map_none]
  cases ran : world.cycle number none with
  | blocked halted suspended => rfl
  | ended next outcome =>
    have moves := world.cycle_moves number none
    rw [ran] at moves
    have abandoned := moves.frame.abandoned.trans prompt.noneAbandoned
    simp only [CycleHalt.world] at abandoned
    simp [advance, sleepers, abandoned]

/-- The moves of a cycle leave an executor prompt. -/
theorem Prompt.moves {self : BirthNumber} (prompt : world.Prompt)
    (moves : Moves Agent.Lasting self world after) : after.Prompt where
  toTimetable := moves.timetable prompt.toTimetable
  staffed := by rw [moves.frame.poolSize]; exact prompt.staffed
  noDeadline := moves.frame.unitTimeout.trans prompt.noDeadline
  noneAbandoned := moves.frame.abandoned.trans prompt.noneAbandoned

/-- Only the agents and the executor matter. -/
theorem Prompt.congr (prompt : world.Prompt) (agents : after.agents = world.agents)
    (executor : after.executor = world.executor) : after.Prompt where
  toTimetable := prompt.toTimetable.keep
    (fun other before => ⟨agents ▸ before, congrArg Agent.id (agent_congr agents other)⟩)
    (congrArg Executor.schedule executor)
  staffed := executor ▸ prompt.staffed
  noDeadline := executor ▸ prompt.noDeadline
  noneAbandoned := executor ▸ prompt.noneAbandoned

/-- A world without agents. -/
theorem Prompt.new (settings : ExecutorSettings) (messenger : Messenger)
    (noDeadline : settings.unitTimeout = none) :
    (World.new settings messenger : World V).Prompt where
  toTimetable := .empty rfl
  staffed := Nat.lt_of_lt_of_le Nat.zero_lt_one (Nat.le_max_right _ _)
  noDeadline := noDeadline
  noneAbandoned := rfl

/-- A change of the executor that keeps its schedule a timetable. -/
theorem Prompt.withExecutor (prompt : world.Prompt) {executor : Executor V}
    (changed : ∃ random schedule tick duration, executor =
      { world.executor with random, schedule, tick, lastTickDuration := duration })
    (timetable : ({ world with executor } : World V).Timetable) :
    ({ world with executor } : World V).Prompt := by
  obtain ⟨random, schedule, tick, duration, rfl⟩ := changed
  exact
    { toTimetable := timetable, staffed := prompt.staffed, noDeadline := prompt.noDeadline
      noneAbandoned := prompt.noneAbandoned }

/-- A new agent is scheduled. -/
theorem Timetable.born (timetable : world.Timetable) {id : AgentId} {design : Design V}
    {scheduler : Option Scheduler} {connected : Bool}
    (agents : after.agents = (world.create id design scheduler connected).1.agents)
    (schedule : after.executor.schedule =
      AgentIndex.insert id world.agents.size world.executor.schedule) : after.Timetable := by
  have size := size_born agents
  refine timetable.insert (fun other before => ⟨?_, ?_⟩) (size ▸ Nat.lt_succ_self _)
    (congrArg Agent.id (agent_born_self agents)) schedule
  · exact size ▸ Nat.lt_succ_of_lt before
  · exact congrArg Agent.id (agent_born_of_lt agents before)

/-- The birth of an agent that is scheduled leaves an executor prompt. -/
theorem Prompt.born (prompt : world.Prompt) {id : AgentId} {design : Design V}
    {scheduler : Option Scheduler} {connected : Bool}
    (agents : after.agents = (world.create id design scheduler connected).1.agents)
    (executor : after.executor =
      { world.executor with
        schedule := AgentIndex.insert id world.agents.size world.executor.schedule }) :
    after.Prompt :=
  { toTimetable := prompt.toTimetable.born agents (congrArg Executor.schedule executor)
    staffed := executor ▸ prompt.staffed
    noDeadline := executor ▸ prompt.noDeadline, noneAbandoned := executor ▸ prompt.noneAbandoned }

/-- Where all cycles end, the units of a tick are these cycles with their outcomes. -/
theorem Prompt.runUnits (prompt : world.Prompt)
    (dispatch : Dispatch world units after outcomes) :
    world.runUnits units =
      some (after, outcomes.map fun (number, outcome) => (number, .ended outcome)) := by
  induction dispatch with
  | nil => rfl
  | @cons world next after number rest outcome outcomes ran _ ih =>
    have moves := world.cycle_moves number none
    rw [ran] at moves
    unfold World.runUnits
    rw [prompt.runUnit, ran]
    simp only [Option.bind_eq_bind, Option.bind_some, ih (prompt.moves moves)]
    rfl

/-- A tick has no answer when one of its cycles waits at a closed gate. -/
theorem Prompt.runUnits_stuck (prompt : world.Prompt) (stuck : world.Stuck units) :
    world.runUnits units = none := by
  obtain ⟨ran, number, rest, next, outcomes, halted, suspended, split, dispatch, blocked⟩ := stuck
  subst split
  induction dispatch with
  | nil world =>
    rw [List.nil_append]
    unfold World.runUnits
    rw [prompt.runUnit, blocked]
    rfl
  | @cons world next after number rest outcome outcomes ran _ ih =>
    have moves := world.cycle_moves number none
    rw [ran] at moves
    rw [List.cons_append]
    unfold World.runUnits
    rw [prompt.runUnit, ran]
    simp only [Option.bind_eq_bind, Option.bind_some, ih (prompt.moves moves) blocked]
    rfl

/-- The report on a cycle that ended schedules its agent again if need be, and names its slot. -/
theorem report_eq (world : World V) (number : BirthNumber) (outcome : CycleOutcome V) :
    world.report number (.ended outcome) =
      (world.requeueIf number (outcome.asksAgain (world.agent number)),
        outcome.slot (world.agent number).id) := by
  cases outcome <;> rfl

/-- Scheduling again changes the schedule only. -/
theorem requeueIf_eq (world : World V) (number : BirthNumber) (condition : Bool) :
    world.requeueIf number condition =
      { world with executor :=
          { world.executor with
            schedule :=
              if condition then
                AgentIndex.insert (world.agent number).id number world.executor.schedule
              else world.executor.schedule } } := by
  cases condition <;> rfl

/-- The units are reported on one after the other. -/
theorem reportAll_cons (world : World V) (results : TickResults V) (number : BirthNumber)
    (outcome : UnitOutcome V) (rest : List (BirthNumber × UnitOutcome V)) :
    world.reportAll results ((number, outcome) :: rest) =
      (world.report number outcome).1.reportAll
        (AgentIndex.insert ((world.report number outcome).1.agent number).id
          (world.report number outcome).2 results) rest :=
  rfl

/-- The outcomes of a tick are accounted for all at once. -/
theorem reportAll_eq (world : World V) (results : TickResults V)
    (outcomes : List (BirthNumber × CycleOutcome V)) :
    world.reportAll results (outcomes.map fun (number, outcome) => (number, .ended outcome)) =
      ({ world with executor :=
          { world.executor with
            schedule := world.executor.schedule.insertAll (world.requests outcomes) } },
        results.insertAll (world.slots outcomes)) := by
  induction outcomes generalizing world results with
  | nil => rfl
  | cons entry rest ih =>
    obtain ⟨number, outcome⟩ := entry
    rw [List.map_cons, reportAll_cons, report_eq, ih, requeueIf_eq]
    unfold requests slots
    cases asks : outcome.asksAgain (world.agent number) with
    | true => simp only [List.filter_cons, asks]; rfl
    | false => simp only [List.filter_cons, asks]; rfl

/-- Without a deadline no agent is in flight. -/
theorem Prompt.idle (prompt : world.Prompt) (id : AgentId) :
    world.executor.isInFlight id = false := by
  unfold Executor.isInFlight
  rw [prompt.noneAbandoned]
  rfl

/-- In whatever order the units are dispatched, the tick has an answer when their cycles end. -/
theorem Prompt.tickOver (prompt : world.Prompt)
    (dispatch : Dispatch { world with running := units } units after outcomes) :
    world.tickOver units =
      some (after.land world.clock outcomes, AgentIndex.insertAll [] (after.slots outcomes)) := by
  have launched : Prompt { world with running := units } := { prompt with }
  simp only [World.tickOver, prompt.idle, Bool.not_false, List.filter_true, List.filter_false,
    launched.runUnits dispatch, Option.bind_eq_bind, Option.bind_some, reportAll_eq]
  rfl

/-- Where a cycle gets stuck, the tick gives no answer. -/
theorem Prompt.tickOver_stuck (prompt : world.Prompt)
    (stuck : Stuck { world with running := units } units) : world.tickOver units = none := by
  have launched : Prompt { world with running := units } := { prompt with }
  simp only [World.tickOver, prompt.idle, Bool.not_false, List.filter_true,
    launched.runUnits_stuck stuck, Option.bind_eq_bind, Option.bind_none]

/-! ## What a tick amounts to -/

/-- The world after the schedule was taken. -/
def taken (world : World V) (random : Option Generator) : World V :=
  { world with executor := { world.executor with schedule := [], random } }

/-- The world in which the cycles of a tick start: nothing is scheduled any more. -/
def launch (world : World V) (random : Option Generator) (order : List BirthNumber) : World V :=
  { world.taken random with running := order }

/-- A tick takes the schedule and runs over its units in some order. -/
theorem tick_eq (world : World V) (running : world.executor.isShutDown = false) :
    ∃ random order, order.Perm world.executor.schedule.values ∧
      world.tick =
        ((world.taken random).tickOver order).map fun (final, results) => (final, .ok results) := by
  obtain ⟨random, order, permuted, ordered⟩ :=
    world.takeSchedule.1.dispatchOrder_eq world.takeSchedule.2
  refine ⟨random, order, permuted, ?_⟩
  unfold tick
  rw [running, if_neg Bool.false_ne_true]
  simp only [ordered, Option.bind_eq_bind]
  change Option.bind ((world.taken random).tickOver order) _ = _
  cases (world.taken random).tickOver order <;> rfl

/-- Taking the schedule for a tick leaves an executor prompt. -/
theorem Prompt.taken (prompt : world.Prompt) (random : Option Generator) :
    (world.taken random).Prompt :=
  { ordered := AgentIndex.ordered_nil, entry := fun member => (nomatch member),
    staffed := prompt.staffed, noDeadline := prompt.noDeadline,
    noneAbandoned := prompt.noneAbandoned }

/-- The units of a tick all come to the end of their cycles, or one of them waits and there is no
answer. -/
theorem Prompt.tickOver_cases (prompt : world.Prompt) (random : Option Generator)
    (order : List BirthNumber) :
    (∃ flown outcomes, Dispatch (world.launch random order) order flown outcomes ∧
      (world.taken random).tickOver order =
        some (flown.land world.clock outcomes, AgentIndex.insertAll [] (flown.slots outcomes))) ∨
    ((world.launch random order).Stuck order ∧ (world.taken random).tickOver order = none) := by
  rcases dispatch_or_stuck (world.launch random order) order with
    ⟨flown, outcomes, dispatch⟩ | stuck
  · exact .inl ⟨flown, outcomes, dispatch, (prompt.taken random).tickOver dispatch⟩
  · exact .inr ⟨stuck, (prompt.taken random).tickOver_stuck stuck⟩

/-- The requests are those of the agents whose cycles ask for another one. -/
theorem mem_requests {entry : AgentId × BirthNumber} :
    entry ∈ world.requests outcomes ↔
      ∃ number outcome, (number, outcome) ∈ outcomes ∧
        outcome.asksAgain (world.agent number) = true ∧
          ((world.agent number).id, number) = entry := by
  unfold requests
  rw [List.mem_map]
  constructor
  · rintro ⟨⟨number, outcome⟩, member, equal⟩
    obtain ⟨listed, asks⟩ := List.mem_filter.mp member
    exact ⟨number, outcome, listed, asks, equal⟩
  · rintro ⟨number, outcome, listed, asks, equal⟩
    exact ⟨(number, outcome), List.mem_filter.mpr ⟨listed, asks⟩, equal⟩

/-- The agents of the units are those that are scheduled. -/
theorem Timetable.map_id_values (timetable : world.Timetable) :
    world.executor.schedule.values.map (fun number => (world.agent number).id) =
      world.executor.schedule.agents := by
  unfold AgentIndex.values AgentIndex.agents
  rw [List.map_map]
  refine List.map_congr_left ?_
  rintro ⟨id, number⟩ member
  exact (timetable.entry member).2

/-- No agent is scheduled twice. -/
theorem Timetable.values_nodup (timetable : world.Timetable) :
    world.executor.schedule.values.Nodup := by
  have nodup := AgentIndex.Ordered.nodup timetable.ordered
  rw [← timetable.map_id_values] at nodup
  exact nodup.of_map _

/-- Only agents that are there are scheduled. -/
theorem Timetable.values_inside (timetable : world.Timetable) {number : BirthNumber}
    (member : number ∈ world.executor.schedule.values) : number < world.agents.size := by
  obtain ⟨⟨id, _⟩, listed, rfl⟩ := List.mem_map.mp member
  exact (timetable.entry listed).1

/-- A tick did what its schedule asked for. `order` is the order in which the units were dispatched,
`flown` the world after the last of their cycles, and `outcomes` tells how these came out. -/
structure ExactTick (world final : World V) (results : TickResults V) (random : Option Generator)
    (order : List BirthNumber) (flown : World V)
    (outcomes : List (BirthNumber × CycleOutcome V)) : Prop where
  /-- Every scheduled unit is dispatched once. -/
  permuted : order.Perm world.executor.schedule.values
  /-- Every dispatched unit runs one cycle; when the first one starts, nothing is scheduled. -/
  cycles : Dispatch (world.launch random order) order flown outcomes
  /-- No further cycle runs, and the counter grows by one. -/
  landed : ∃ schedule, final =
    { flown with
      executor :=
        { flown.executor with
          schedule
          tick := world.executor.tick + 1
          lastTickDuration := flown.clock - world.clock }
      running := [] }
  /-- There is one slot for each agent that was scheduled, and no other. -/
  agents : results.agents = world.executor.schedule.agents
  /-- The slot of an agent shows how its cycle came out. -/
  slot : ∀ number outcome, (number, outcome) ∈ outcomes →
    results.find? (world.agent number).id = some (outcome.slot (world.agent number).id)
  /-- What was scheduled after some of the cycles is scheduled after all of them. -/
  kept : ∀ ran rest, order = ran ++ rest → ∃ middle earlier later,
    Dispatch (world.launch random order) ran middle earlier ∧
    Dispatch middle rest flown later ∧ outcomes = earlier ++ later ∧
    ∀ id, middle.executor.schedule.contains id = true → flown.executor.schedule.contains id = true
  /-- Scheduled for the next tick is what the cycles scheduled, and the agents that run again. -/
  scheduled : ∀ id, final.executor.schedule.contains id = true ↔
    flown.executor.schedule.contains id = true ∨
      ∃ number outcome, (number, outcome) ∈ outcomes ∧ (world.agent number).id = id ∧
        outcome.asksAgain (flown.agent number) = true

/-- There are slots for the agents that were scheduled, one for each. -/
theorem Timetable.slots_perm (timetable : world.Timetable) {random : Option Generator}
    {order : List BirthNumber} (permuted : order.Perm world.executor.schedule.values)
    (dispatch : Dispatch (world.launch random order) order after outcomes) :
    ((after.slots outcomes).map Prod.fst).Perm world.executor.schedule.agents := by
  have ids : (after.slots outcomes).map Prod.fst =
      order.map fun number => (world.agent number).id := by
    unfold slots
    rw [List.map_map, ← dispatch.units_eq, List.map_map]
    exact List.map_congr_left fun entry _ => dispatch.frame.id entry.1
  rw [ids, ← timetable.map_id_values]
  exact permuted.map _

/-- A dispatch of the taken schedule in any order of the units makes an exact tick. -/
theorem Timetable.exactTick (timetable : world.Timetable) {random : Option Generator}
    {order : List BirthNumber} (permuted : order.Perm world.executor.schedule.values)
    (dispatch : Dispatch (world.launch random order) order after outcomes) :
    ExactTick world (after.land world.clock outcomes)
      (AgentIndex.insertAll [] (after.slots outcomes)) random order after outcomes := by
  have frame := dispatch.frame
  have sameId : ∀ number, (after.agent number).id = (world.agent number).id := frame.id
  have perm := timetable.slots_perm permuted dispatch
  refine
    { permuted, cycles := dispatch, landed := ?_, agents := ?_, slot := ?_, kept := ?_
      scheduled := ?_ }
  · refine ⟨after.executor.schedule.insertAll (after.requests outcomes), ?_⟩
    unfold World.land
    rw [frame.tick]
    rfl
  · refine AgentIndex.agents_eq_of_mem_iff
      (AgentIndex.ordered_insertAll _ AgentIndex.ordered_nil) timetable.ordered fun agent => ?_
    rw [AgentIndex.mem_agents_insertAll, perm.mem_iff]
    simp
  · intro number outcome member
    refine AgentIndex.find?_insertAll_of_mem (perm.nodup_iff.mpr timetable.ordered.nodup) ?_
    rw [← sameId number]
    exact List.mem_map_of_mem (f := fun entry : BirthNumber × CycleOutcome V =>
      ((after.agent entry.1).id, entry.2.slot (after.agent entry.1).id)) member
  · intro ran rest split
    subst split
    obtain ⟨middle, earlier, later, before, behind, appended⟩ := dispatch.split
    exact ⟨middle, earlier, later, before, behind, appended,
      fun id scheduled => behind.schedule_grows scheduled⟩
  · intro id
    unfold World.land
    rw [AgentIndex.contains_iff, AgentIndex.contains_iff, AgentIndex.mem_agents_insertAll]
    refine or_congr_right ⟨fun requested => ?_, ?_⟩
    · obtain ⟨entry, member, rfl⟩ := List.mem_map.mp requested
      obtain ⟨number, outcome, listed, asks, rfl⟩ := mem_requests.mp member
      exact ⟨number, outcome, listed, (sameId number).symm, asks⟩
    · rintro ⟨number, outcome, listed, rfl, asks⟩
      rw [← sameId number]
      exact List.mem_map_of_mem (f := Prod.fst)
        (mem_requests.mpr ⟨number, outcome, listed, asks, rfl⟩)

/-- A tick of an executor that runs is exact, or one of its cycles waits at a closed gate. -/
theorem Prompt.tick_cases (prompt : world.Prompt) (running : world.executor.isShutDown = false) :
    (∃ final results random order flown outcomes,
      world.tick = some (final, .ok results) ∧
        ExactTick world final results random order flown outcomes) ∨
    (world.tick = none ∧
      ∃ random order, order.Perm world.executor.schedule.values ∧
        (world.launch random order).Stuck order) := by
  obtain ⟨random, order, permuted, ticked⟩ := world.tick_eq running
  rcases prompt.tickOver_cases random order with
    ⟨flown, outcomes, dispatch, answered⟩ | ⟨stuck, unanswered⟩
  · refine .inl ⟨_, _, random, order, flown, outcomes, ?_, prompt.exactTick permuted dispatch⟩
    rw [ticked, answered]
    rfl
  · refine .inr ⟨?_, random, order, permuted, stuck⟩
    rw [ticked, unanswered]
    rfl

/-- A tick of an executor that is shut down changes nothing. Any other tick is exact, unless one of
its cycles waits at a closed gate; then it does not return. -/
theorem tick_exact (world : World V) (prompt : world.Prompt) :
    (world.executor.isShutDown = true → world.tick = some (world, .error .shutDown)) ∧
    (world.executor.isShutDown = false →
      (∃ final results random order flown outcomes,
        world.tick = some (final, .ok results) ∧
          ExactTick world final results random order flown outcomes) ∨
      (world.tick = none ∧
        ∃ random order, order.Perm world.executor.schedule.values ∧
          (world.launch random order).Stuck order)) := by
  refine ⟨fun shut => ?_, fun running => prompt.tick_cases running⟩
  simp [tick, shut]

end World

instance : DecidableEq (Slot Market.vocabulary) :=
  inferInstanceAs (DecidableEq (Except AgentFailure (List Market.TradeAction)))

/-- Two agents in a fresh world, scheduled for their first cycles. -/
def Market.listeners : World Market.vocabulary :=
  (((World.new { poolSize := 2, seed := some 7, unitTimeout := none } (.new none)).spawn
    (AgentId.ofNat 1) Market.listener).1.spawn (AgentId.ofNat 2) Market.listener).1

/-- The executor of the listeners is prompt. -/
theorem Market.listeners_prompt : Market.listeners.Prompt where
  ordered := by
    unfold AgentIndex.Ordered
    decide
  entry := by
    intro id number member
    have schedule : Market.listeners.executor.schedule =
        [(AgentId.ofNat 1, 0), (AgentId.ofNat 2, 1)] := rfl
    rw [schedule] at member
    rcases List.mem_cons.mp member with equal | rest
    · cases equal
      exact ⟨by decide, rfl⟩
    · cases List.mem_singleton.mp rest
      exact ⟨by decide, rfl⟩
  staffed := by decide
  noDeadline := rfl
  noneAbandoned := rfl

/-- Both agents run, in the order that the seed gives them. -/
theorem World.tick_exact_listeners :
    ∃ final results random order flown outcomes,
      Market.listeners.tick = some (final, .ok results) ∧
        World.ExactTick Market.listeners final results random order flown outcomes := by
  have answers : Market.listeners.tick ≠ none := by
    have returns : Market.listeners.tick.isSome = true := by decide +kernel
    intro stuck
    rw [stuck] at returns
    cases returns
  rcases (World.tick_exact Market.listeners Market.listeners_prompt).2 rfl with exact | stuck
  · exact exact
  · exact absurd stuck.1 answers

end Deliberation
