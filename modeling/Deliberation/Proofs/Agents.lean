import Deliberation.Platform

/-!
# The agents of a changed world

What `World.agent` shows after each of the ways in which a world changes. Birth numbers beyond the
agents of a world show a default agent, which no change reaches; so a field that a change keeps is
kept under every number.
-/

namespace Deliberation

variable {V : Vocabulary}

namespace World

/-- Changing an agent leaves the number of agents. -/
@[simp] theorem size_modifyAgent (world : World V) (number : BirthNumber)
    (change : Agent V → Agent V) :
    (world.modifyAgent number change).agents.size = world.agents.size := by
  simp [modifyAgent]

/-- Changing an agent leaves the flags. -/
@[simp] theorem pursuit_modifyAgent (world : World V) (number : BirthNumber)
    (change : Agent V → Agent V) : (world.modifyAgent number change).pursuit = world.pursuit := rfl

/-- Changing an agent leaves the others. -/
theorem agent_modifyAgent_of_ne (world : World V) {number other : BirthNumber}
    (change : Agent V → Agent V) (different : other ≠ number) :
    (world.modifyAgent number change).agent other = world.agent other := by
  unfold agent modifyAgent
  simp [Array.getElem?_modify, Ne.symm different]

/-- An agent that is there is changed as wanted. -/
theorem agent_modifyAgent_self (world : World V) {number : BirthNumber}
    (change : Agent V → Agent V) (inside : number < world.agents.size) :
    (world.modifyAgent number change).agent number = change (world.agent number) := by
  unfold agent modifyAgent
  simp [inside, Array.getElem_modify]

/-- There is nobody beyond the number of agents. -/
theorem agent_outside (world : World V) {number : BirthNumber}
    (outside : world.agents.size ≤ number) : world.agent number = default := by
  unfold agent
  simp [outside]

/-- Changing an agent that is not there changes nobody. -/
theorem modifyAgent_outside (world : World V) {number : BirthNumber}
    (change : Agent V → Agent V) (outside : world.agents.size ≤ number) (other : BirthNumber) :
    (world.modifyAgent number change).agent other = world.agent other := by
  by_cases same : other = number
  · subst same
    rw [agent_outside _ outside, agent_outside _ (by simpa using outside)]
  · exact agent_modifyAgent_of_ne world change same

/-- Worlds with the same agents show the same agents. -/
theorem agent_congr {world other : World V} (agents : world.agents = other.agents)
    (number : BirthNumber) : world.agent number = other.agent number := by
  unfold agent
  rw [agents]

/-- A field of an agent that a change keeps is kept in every agent. -/
theorem field_modifyAgent {α : Type} (field : Agent V → α) (world : World V)
    (number other : BirthNumber) (change : Agent V → Agent V)
    (keeps : field (change (world.agent number)) = field (world.agent number)) :
    field ((world.modifyAgent number change).agent other) = field (world.agent other) := by
  by_cases same : other = number
  · subst same
    by_cases inside : other < world.agents.size
    · rw [agent_modifyAgent_self world change inside, keeps]
    · rw [modifyAgent_outside world change (Nat.le_of_not_lt inside)]
  · rw [agent_modifyAgent_of_ne world change same]

/-- Changes that do the same to an agent do the same to its world. -/
theorem modifyAgent_congr {world : World V} {number : BirthNumber}
    {change other : Agent V → Agent V}
    (same : change (world.agent number) = other (world.agent number)) :
    world.modifyAgent number change = world.modifyAgent number other := by
  have agents : world.agents.modify number change = world.agents.modify number other := by
    refine Array.ext (by simp) fun index _ inside => ?_
    rw [Array.getElem_modify, Array.getElem_modify]
    split
    · rename_i here
      subst here
      have held : number < world.agents.size := by simpa using inside
      simpa [agent, held] using same
    · rfl
  unfold modifyAgent
  rw [agents]

/-- A change that leaves an agent as it is leaves the world as it is. -/
theorem modifyAgent_of_eq {world : World V} {number : BirthNumber} {change : Agent V → Agent V}
    (same : change (world.agent number) = world.agent number) :
    world.modifyAgent number change = world := by
  have agents : world.agents.modify number id = world.agents :=
    Array.ext (by simp) fun index _ _ => by simp [Array.getElem_modify]
  have kept : world.modifyAgent number change = world.modifyAgent number id :=
    modifyAgent_congr same
  rw [kept]
  unfold modifyAgent
  rw [agents]

/-- An agent that is changed twice is changed by both in turn. -/
theorem modifyAgent_modifyAgent (world : World V) (number : BirthNumber)
    (first second : Agent V → Agent V) :
    (world.modifyAgent number first).modifyAgent number second =
      world.modifyAgent number fun agent => second (first agent) := by
  unfold modifyAgent
  simp only
  congr 1
  refine Array.ext (by simp) fun index _ _ => ?_
  simp only [Array.getElem_modify]
  split <;> rfl

/-- Changes of two agents do not depend on their order. -/
theorem modifyAgent_comm (world : World V) {number other : BirthNumber}
    (different : other ≠ number) (first second : Agent V → Agent V) :
    (world.modifyAgent number first).modifyAgent other second =
      (world.modifyAgent other second).modifyAgent number first := by
  unfold modifyAgent
  simp only
  congr 1
  refine Array.ext (by simp) fun index _ _ => ?_
  simp only [Array.getElem_modify]
  split
  · rename_i here
    subst here
    rw [if_neg (Ne.symm different), if_neg (Ne.symm different)]
  · rfl

/-! ## Arrivals -/

/-- Scheduling leaves the agents. -/
@[simp] theorem agent_schedule (world : World V) (number other : BirthNumber) :
    (world.schedule number).agent other = world.agent other := rfl

/-- Waking changes nothing but the schedule and the journal. -/
theorem wake_eq (world : World V) (number : BirthNumber) :
    ∃ schedule journal,
      world.wake number = { world with executor := { world.executor with schedule }, journal } := by
  simp only [wake]
  split
  · exact ⟨_, _, rfl⟩
  · split
    · exact ⟨_, _, rfl⟩
    · exact ⟨_, _, rfl⟩
    · exact ⟨_, _, rfl⟩

/-- Waking leaves all agents as they are. -/
@[simp] theorem agents_wake (world : World V) (number : BirthNumber) :
    (world.wake number).agents = world.agents := by
  obtain ⟨schedule, journal, woken⟩ := world.wake_eq number
  rw [woken]

/-- Waking leaves each agent as it is. -/
@[simp] theorem agent_wake (world : World V) (number other : BirthNumber) :
    (world.wake number).agent other = world.agent other :=
  agent_congr (agents_wake world number) other

/-- An agent is put into the schedule when it is woken, if it has the executor for its scheduler and
is not done. -/
theorem executor_wake (world : World V) (number : BirthNumber) :
    (world.wake number).executor =
      if (world.agent number).done = false ∧ (world.agent number).scheduler = some .executor then
        (world.schedule number).executor
      else world.executor := by
  simp only [wake]
  cases (world.agent number).done with
  | true => simp
  | false =>
    match (world.agent number).scheduler with
    | none => simp
    | some .executor => simp
    | some (.recorder accepts) => simp [log]

/-- An arrival leaves the number of agents. -/
@[simp] theorem size_arrive (world : World V) (number : BirthNumber) (arrival : Arrival V) :
    (world.arrive number arrival).agents.size = world.agents.size := by
  simp [arrive]

/-- An arrival leaves the other agents. -/
theorem agent_arrive_of_ne (world : World V) {number other : BirthNumber} (arrival : Arrival V)
    (different : other ≠ number) :
    (world.arrive number arrival).agent other = world.agent other := by
  simp [arrive, agent_modifyAgent_of_ne _ _ different]

/-- An agent that is there receives what arrives at it. -/
theorem agent_arrive_self (world : World V) {number : BirthNumber} (arrival : Arrival V)
    (inside : number < world.agents.size) :
    (world.arrive number arrival).agent number =
      { world.agent number with inbox := (world.agent number).inbox.receive arrival } := by
  simp [arrive, agent_modifyAgent_self _ _ inside]

/-- An arrival changes an inbox and nothing else of an agent. -/
theorem field_arrive {α : Type} (field : Agent V → α) (world : World V)
    (number other : BirthNumber) (arrival : Arrival V)
    (keeps : ∀ (agent : Agent V) (inbox : Inbox V), field { agent with inbox } = field agent) :
    field ((world.arrive number arrival).agent other) = field (world.agent other) := by
  unfold arrive
  rw [agent_wake]
  exact field_modifyAgent field world number other _ (keeps _ _)

/-- What an arrival leaves as it was: everything but agents, schedule and journal. -/
theorem arrive_eq (world : World V) (number : BirthNumber) (arrival : Arrival V) :
    ∃ agents schedule journal,
      world.arrive number arrival =
        { world with agents, executor := { world.executor with schedule }, journal } := by
  obtain ⟨schedule, journal, woken⟩ := wake_eq (world.modifyAgent number fun agent =>
    { agent with inbox := agent.inbox.receive arrival }) number
  exact ⟨_, schedule, journal, woken⟩

/-- An arrival leaves the flags. -/
@[simp] theorem pursuit_arrive (world : World V) (number : BirthNumber) (arrival : Arrival V) :
    (world.arrive number arrival).pursuit = world.pursuit := by
  obtain ⟨_, _, _, arrived⟩ := world.arrive_eq number arrival
  rw [arrived]

/-- An arrival leaves the messenger. -/
@[simp] theorem messenger_arrive (world : World V) (number : BirthNumber) (arrival : Arrival V) :
    (world.arrive number arrival).messenger = world.messenger := by
  obtain ⟨_, _, _, arrived⟩ := world.arrive_eq number arrival
  rw [arrived]

/-! ## New agents -/

/-- A new agent leaves those that are there. -/
theorem agent_create_of_lt (world : World V) (id : AgentId) (design : Design V)
    (scheduler : Option Scheduler) (connected : Bool) {number : BirthNumber}
    (inside : number < world.agents.size) :
    (world.create id design scheduler connected).1.agent number = world.agent number := by
  unfold create agent
  simp [Array.getElem?_push_lt inside, inside]

/-- A new agent starts out as its design says. -/
@[simp] theorem agent_create_self (world : World V) (id : AgentId) (design : Design V)
    (scheduler : Option Scheduler) (connected : Bool) :
    (world.create id design scheduler connected).1.agent world.agents.size =
      Agent.ofBlueprint id design.build scheduler connected := by
  unfold create agent
  simp

section born

variable {world next : World V} {id : AgentId} {design : Design V} {scheduler : Option Scheduler}
  {connected : Bool}

/-- With a new agent there is one more. -/
theorem size_born (agents : next.agents = (world.create id design scheduler connected).1.agents) :
    next.agents.size = world.agents.size + 1 := by
  rw [agents]
  exact Array.size_push ..

/-- The birth of an agent leaves those that are there. -/
theorem agent_born_of_lt
    (agents : next.agents = (world.create id design scheduler connected).1.agents)
    {number : BirthNumber} (inside : number < world.agents.size) :
    next.agent number = world.agent number :=
  (agent_congr agents number).trans (agent_create_of_lt world _ _ _ _ inside)

/-- The agent that is born starts out as its design says. -/
theorem agent_born_self
    (agents : next.agents = (world.create id design scheduler connected).1.agents) :
    next.agent world.agents.size = Agent.ofBlueprint id design.build scheduler connected :=
  (agent_congr agents _).trans (agent_create_self world _ _ _ _)

/-- Where an agent was born, each agent is the new one or one of those that were there before. -/
theorem agent_born (agents : next.agents = (world.create id design scheduler connected).1.agents)
    {number : BirthNumber} (inside : number < next.agents.size) :
    (number < world.agents.size ∧ next.agent number = world.agent number) ∨
      (number = world.agents.size ∧
        next.agent number = Agent.ofBlueprint id design.build scheduler connected) := by
  rw [size_born agents] at inside
  rcases Nat.lt_succ_iff_lt_or_eq.mp inside with older | rfl
  · exact .inl ⟨older, agent_born_of_lt agents older⟩
  · exact .inr ⟨rfl, agent_born_self agents⟩

end born

/-- Only the messenger takes note of a registration. -/
theorem register_eq (world : World V) (number : BirthNumber) :
    world.register number = { world with messenger := (world.register number).messenger } := by
  unfold register
  cases world.messenger.routing <;> rfl

/-- In a registry an agent takes the place of a former one of its identity. -/
theorem register_of_registry (world : World V) (number : BirthNumber)
    (routing : world.messenger.routing = .registry) :
    world.register number =
      world.withEntries
        (AgentIndex.insert (world.agent number).id number world.messenger.entries) := by
  simp only [register, routing]

/-- Waking an agent that asks the executor for cycles schedules it, unless it is done. -/
theorem wake_of_ready (world : World V) {number : BirthNumber}
    (scheduler : (world.agent number).scheduler = some .executor)
    (notDone : (world.agent number).done = false) : world.wake number = world.schedule number := by
  simp only [wake, notDone, scheduler]
  rfl

/-- An agent that begins to take part is registered and scheduled. -/
theorem enlist_eq (world : World V) {number : BirthNumber}
    (scheduler : (world.agent number).scheduler = some .executor)
    (notDone : (world.agent number).done = false) :
    world.enlist number =
      { world with
        messenger := (world.register number).messenger
        registry := AgentIndex.insert (world.agent number).id number world.registry
        executor := (world.schedule number).executor } := by
  unfold enlist
  rw [register_eq]
  exact wake_of_ready _ scheduler notDone

/-- A spawned agent takes part and is scheduled. -/
theorem spawn_eq (world : World V) (id : AgentId) (design : Design V)
    (absent : world.registry.contains id = false) :
    world.spawn id design =
      ({ (world.create id design (some .executor) true).1 with
          messenger :=
            ((world.create id design (some .executor) true).1.register world.agents.size).messenger
          registry := AgentIndex.insert id world.agents.size world.registry
          executor :=
            { world.executor with
              schedule := AgentIndex.insert id world.agents.size world.executor.schedule } },
        .ok world.agents.size) := by
  have created := world.agent_create_self id design (some .executor) true
  have enlisted := enlist_eq (world.create id design (some .executor) true).1
    (congrArg Agent.scheduler created) (congrArg Agent.done created)
  unfold spawn
  rw [absent, if_neg Bool.false_ne_true]
  refine Prod.ext (enlisted.trans ?_) rfl
  unfold schedule
  rw [created]
  rfl

/-- Spawning leaves the flags, also when it is refused. -/
@[simp] theorem pursuit_spawn (world : World V) (id : AgentId) (design : Design V) :
    (world.spawn id design).1.pursuit = world.pursuit := by
  cases taken : world.registry.contains id with
  | true => simp [spawn, taken]
  | false => rw [world.spawn_eq id design taken, create]

end World

end Deliberation
