import Deliberation.Proofs.Flight

/-!
# Runs in which identities are used again

Once an agent is killed its identity is free, and a new agent may be spawned under it. What all
worlds of such a run have in common is `World.Orderly`: without a deadline, every agent asks the
executor for its cycles, and the registry and the schedule list agents under their identities. The
operations of a platform and the strides of a tick keep this (`Succession.Reachable.orderly`).
-/

namespace Deliberation

open Relation

variable {V : Vocabulary}

/-! ## Operations where identities may be used again -/

/-- Only agents that are there and not done are scheduled. -/
def Operation.Sensible (world : World V) : Operation V → Prop
  | schedule number => number < world.agents.size ∧ (world.agent number).done = false
  | _ => True

/-- What an operation comes down to, whatever identities are in use. -/
inductive Operation.Change (world : World V) : Operation V → World V → Prop where
  /-- An agent is born, registered and scheduled. -/
  | born (id : AgentId) (design : Design V) (messenger : Messenger)
      (absent : world.registry.contains id = false) :
      Change world (.spawn id design)
        { (world.create id design (some .executor) true).1 with
          messenger
          registry := AgentIndex.insert id world.agents.size world.registry
          executor :=
            { world.executor with
              schedule := AgentIndex.insert id world.agents.size world.executor.schedule } }
  /-- An agent is scheduled. -/
  | scheduled (number : BirthNumber) : Change world (.schedule number) (world.schedule number)
  /-- Things arrive at agents, after something changed that no agent has a part in, and some were
  taken out of the registry. -/
  | stirred (operation : Operation V) (middle : World V) {next : World V}
      (agents : middle.agents = world.agents) (executor : middle.executor = world.executor)
      (registry : ∀ id number, middle.registry.find? id = some number →
        world.registry.find? id = some number)
      (stirs : Stirs 0 middle next) : Change world operation next

/-- Some are taken out of a registry. -/
theorem AgentIndex.find?_eraseAll {α : Type} (agents : List AgentId) (index : AgentIndex α)
    {agent : AgentId} {value : α} (found : find? (agents.foldl erase index) agent = some value) :
    find? index agent = some value := by
  induction agents generalizing index with
  | nil => exact found
  | cons erased rest ih =>
    have left := ih (erase index erased) found
    rw [find?_erase] at left
    split at left
    · cases left
    · exact left

/-- Agents that are done leave the registry and the messenger. -/
theorem World.reap_registry (world : World V) :
    ∃ messenger registry, world.reap.1 = { world with messenger, registry } ∧
      ∀ id number, registry.find? id = some number → world.registry.find? id = some number := by
  unfold World.reap
  exact (Operation.deregisterAll_eq _ _).elim fun messenger reaped =>
    ⟨messenger, _, reaped, fun _ _ found => AgentIndex.find?_eraseAll _ _ found⟩

/-- As long as no cycle is abandoned, every operation comes down to one of these changes. -/
theorem Operation.perform_change {world : World V} (noneAbandoned : world.executor.abandoned = [])
    (operation : Operation V) : Change world operation (operation.perform world) := by
  have kept : ∀ id number, world.registry.find? id = some number →
      world.registry.find? id = some number := fun _ _ found => found
  cases operation with
  | spawn id design =>
    cases taken : world.registry.contains id with
    | true =>
      refine .stirred _ world rfl rfl kept ?_
      simp only [perform, World.spawn, taken, if_pos]
      exact .refl
    | false =>
      simp only [perform, world.spawn_eq id design taken]
      exact .born id design _ taken
  | kill id =>
    simp only [perform, World.kill]
    split
    · exact .stirred _ world rfl rfl kept .refl
    · refine .stirred _ ((world.withRegistry (world.registry.erase id)).deregister id) rfl rfl ?_
        (.single (.arrive _ _ _))
      intro other number found
      exact AgentIndex.find?_eraseAll [id] world.registry found
  | reap =>
    obtain ⟨messenger, registry, reaped, fewer⟩ := world.reap_registry
    exact .stirred _ { world with messenger, registry } rfl rfl fewer (reaped ▸ .refl)
  | arrive number arrival =>
    exact .stirred _ world rfl rfl kept (.single (.arrive world number arrival))
  | deliver message => exact .stirred _ world rfl rfl kept (world.deliver_stirs 0 message)
  | send number message => exact .stirred _ world rfl rfl kept (world.send_stirs 0 number message)
  | schedule number => exact .scheduled number
  | hold number => exact .stirred _ (world.hold number) rfl rfl kept .refl
  | forget id => exact .stirred _ (world.forget id) rfl rfl kept .refl
  | openGate gate =>
    refine .stirred _ { world with openGates := gate :: world.openGates } rfl rfl kept ?_
    simp only [perform, World.openGate, noneAbandoned]
    exact .refl

/-- Agents stay where they are. -/
theorem Operation.Change.size_le {world next : World V} {operation : Operation V}
    (change : operation.Change world next) : world.agents.size ≤ next.agents.size := by
  cases change with
  | born id design messenger absent =>
    change _ ≤ (world.agents.push _).size
    rw [Array.size_push]
    exact Nat.le_succ _
  | scheduled number => exact Nat.le_refl _
  | stirred _ middle agents executor registry stirs =>
    rw [stirs.steady.lasting.frame.size, agents]

/-! ## Worlds in order -/

namespace World

/-- What all worlds of a run have in common in which identities may be used again: there is no
deadline, every agent asks the executor for its cycles, and the registry lists agents under their
identities. -/
structure Orderly (world : World V) : Prop extends Prompt world where
  running : world.executor.isShutDown = false
  scheduler : ∀ number < world.agents.size, (world.agent number).scheduler = some .executor
  registered : ∀ {id number}, world.registry.find? id = some number →
    number < world.agents.size ∧ (world.agent number).id = id

namespace Orderly

variable {world next : World V}

/-- Where the frame of a world is kept and its timetable is in order, it stays orderly. -/
theorem of_frame (orderly : world.Orderly) (frame : world.Frame next) (timetable : next.Timetable) :
    next.Orderly where
  toTimetable := timetable
  staffed := frame.poolSize ▸ orderly.staffed
  noDeadline := frame.unitTimeout.trans orderly.noDeadline
  noneAbandoned := frame.abandoned.trans orderly.noneAbandoned
  running := frame.isShutDown.trans orderly.running
  scheduler := by
    intro number inside
    rw [frame.size] at inside
    exact (frame.scheduler number).trans (orderly.scheduler number inside)
  registered := by
    intro id number found
    rw [frame.size, frame.id]
    exact orderly.registered (frame.registry ▸ found)

/-- The moves of a cycle leave a world orderly. -/
theorem moves {self : BirthNumber} (orderly : world.Orderly)
    (moves : Moves Agent.Lasting self world next) : next.Orderly :=
  orderly.of_frame moves.frame (moves.timetable orderly.toTimetable)

/-- Only agents, executor and registry matter, and agents may leave the registry. -/
theorem congr (orderly : world.Orderly) (agents : next.agents = world.agents)
    (executor : next.executor = world.executor)
    (registry : ∀ id number, next.registry.find? id = some number →
      world.registry.find? id = some number) : next.Orderly where
  toPrompt := orderly.toPrompt.congr agents executor
  running := executor ▸ orderly.running
  scheduler := by
    intro number inside
    rw [agent_congr agents]
    exact orderly.scheduler number (agents ▸ inside)
  registered := by
    intro id number found
    rw [agent_congr agents, agents]
    exact orderly.registered (registry id number found)

/-- A world without agents. -/
theorem new (settings : ExecutorSettings) (messenger : Messenger)
    (noDeadline : settings.unitTimeout = none) :
    (World.new settings messenger : World V).Orderly where
  toPrompt := .new settings messenger noDeadline
  running := rfl
  scheduler := fun _ inside => absurd inside (Nat.not_lt_zero _)
  registered := fun found => (nomatch found)

/-- A change of the executor that keeps its schedule a timetable. -/
theorem withExecutor (orderly : world.Orderly) (executor : Executor V)
    (changed : ∃ random schedule tick duration, executor =
      { world.executor with random, schedule, tick, lastTickDuration := duration })
    (timetable : ({ world with executor } : World V).Timetable) :
    ({ world with executor } : World V).Orderly := by
  have prompt := orderly.toPrompt.withExecutor changed timetable
  obtain ⟨_, _, _, _, rfl⟩ := changed
  exact { toPrompt := prompt, running := orderly.running, scheduler := orderly.scheduler
          registered := orderly.registered }

/-- Taking the schedule for a tick leaves a world orderly. -/
theorem taken (orderly : world.Orderly) (random : Option Generator) :
    (world.taken random).Orderly :=
  orderly.withExecutor _ ⟨_, _, _, _, rfl⟩ (.empty rfl)

/-- Scheduling an agent leaves a world orderly. -/
theorem schedule (orderly : world.Orderly) {number : BirthNumber}
    (inside : number < world.agents.size) : (world.schedule number).Orderly :=
  orderly.withExecutor _ ⟨_, _, _, _, rfl⟩
    (orderly.toTimetable.insert (fun _ before => ⟨before, rfl⟩) inside rfl rfl)

/-- A new agent, whatever its identity. -/
theorem born (orderly : world.Orderly) (id : AgentId) (design : Design V)
    (agents : next.agents = (world.create id design (some .executor) true).1.agents)
    (executor : next.executor =
      { world.executor with
        schedule := AgentIndex.insert id world.agents.size world.executor.schedule })
    (registry : next.registry = AgentIndex.insert id world.agents.size world.registry) :
    next.Orderly := by
  refine
    { toPrompt := orderly.toPrompt.born agents executor, running := executor ▸ orderly.running
      scheduler := ?_, registered := ?_ }
  · intro number inside
    rcases agent_born agents inside with ⟨before, same⟩ | ⟨_, new⟩
    · rw [same]
      exact orderly.scheduler number before
    · rw [new]
      rfl
  · intro other number found
    rw [registry, AgentIndex.find?_insert] at found
    split at found
    · rename_i same
      cases found
      rw [size_born agents, agent_born_self agents]
      exact ⟨Nat.lt_succ_self _, same.symm⟩
    · obtain ⟨inside, same⟩ := orderly.registered found
      rw [size_born agents, agent_born_of_lt agents inside]
      exact ⟨Nat.lt_succ_of_lt inside, same⟩

/-- Operations keep a world in order. -/
theorem change (orderly : world.Orderly) {operation : Operation V}
    (scheduled : ∀ number, operation = .schedule number → number < world.agents.size)
    (change : operation.Change world next) : next.Orderly := by
  cases change with
  | born id design messenger absent => exact orderly.born id design rfl rfl rfl
  | scheduled number => exact orderly.schedule (scheduled number rfl)
  | stirred _ middle agents executor registry stirs =>
    have settled : middle.Orderly := orderly.congr agents executor registry
    exact settled.moves stirs.steady.lasting

end Orderly

end World

/-! ## Runs in which identities are used again -/

namespace Succession

/-- A step of a tick; meanwhile agents may also be spawned under identities that other agents have
had. -/
inductive Step : Flight V → Flight V → Prop where
  | step {flight next : Flight V} (step : Flight.Step flight next) : Step flight next
  | spawn (flight : Flight V) (id : AgentId) (design : Design V) :
      Step flight { flight with world := (flight.world.spawn id design).1 }

/-- The worlds of a run in which no tick is under way. -/
inductive Reachable (settings : ExecutorSettings) (messenger : Messenger) : World V → Prop where
  | start : Reachable settings messenger (World.new settings messenger)
  | operate {world : World V} (before : Reachable settings messenger world)
      (operation : Operation V) (sensible : operation.Sensible world) :
      Reachable settings messenger (operation.perform world)
  | tick {world next : World V} {results : TickResults V}
      (before : Reachable settings messenger world)
      (ticked : world.tick = some (next, .ok results)) : Reachable settings messenger next
  | fly {world : World V} {random : Option Generator} {order : List BirthNumber}
      {flight : Flight V} (before : Reachable settings messenger world)
      (permuted : order.Perm world.executor.schedule.values)
      (steps : ReflTransGen Step (.depart world random order) flight)
      (finished : flight.cycles = []) (duration : Nat) :
      Reachable settings messenger (flight.touchDown duration)

/-- In the midst of a tick a world is in order, and the cycles are those of its agents. -/
structure Sound (flight : Flight V) : Prop where
  orderly : flight.world.Orderly
  inside : ∀ entry ∈ flight.cycles, entry.1 < flight.world.agents.size

variable {flight next : Flight V}

/-- A tick takes off soundly. -/
theorem depart_sound {world : World V} (orderly : world.Orderly) (random : Option Generator)
    {order : List BirthNumber} (permuted : order.Perm world.executor.schedule.values) :
    Sound (.depart world random order) where
  orderly := (orderly.taken random).congr rfl rfl fun _ _ found => found
  inside := by
    intro entry member
    obtain ⟨number, listed, rfl⟩ := List.mem_map.mp member
    exact orderly.values_inside (permuted.mem_iff.mp listed)

/-- An operation keeps a tick in order. -/
theorem Sound.operate (sound : Sound flight) (operation : Operation V)
    (scheduled : ∀ number, operation = .schedule number → number < flight.world.agents.size) :
    Sound { flight with world := operation.perform flight.world } := by
  have change := operation.perform_change sound.orderly.noneAbandoned
  exact
    { orderly := sound.orderly.change scheduled change
      inside := fun entry member => Nat.lt_of_lt_of_le (sound.inside entry member) change.size_le }

/-- Every step keeps a flight sound. -/
theorem Step.sound (step : Step flight next) (sound : Sound flight) : Sound next := by
  cases step with
  | spawn id design => exact sound.operate (.spawn id design) nofun
  | step step =>
    cases step with
    | operate operation permitted =>
      refine sound.operate operation fun number isSchedule => ?_
      subst isSchedule
      exact permitted
    | elapse clock =>
      exact
        { orderly := sound.orderly.congr rfl rfl fun _ _ found => found, inside := sound.inside }
    | @stride before behind number phase underway =>
      have moves := flight.world.stride_moves number phase
      refine { orderly := sound.orderly.moves moves, inside := fun entry member => ?_ }
      have listed : ∃ phase, (entry.1, phase) ∈ flight.cycles := by
        rw [underway]
        rcases List.mem_append.mp member with inBefore | inRest
        · exact ⟨_, List.mem_append_left _ inBefore⟩
        · rcases List.mem_cons.mp inRest with rfl | inBehind
          · exact ⟨phase, List.mem_append_right _ List.mem_cons_self⟩
          · exact ⟨_, List.mem_append_right _ (List.mem_cons_of_mem _ inBehind)⟩
      obtain ⟨held, listed⟩ := listed
      have within := sound.inside (entry.1, held) listed
      exact moves.frame.size ▸ within
    | @report before behind number outcome finished =>
      have listed : (number, .finished outcome) ∈ flight.cycles :=
        finished ▸ List.mem_append_right _ List.mem_cons_self
      have fewer : (before ++ behind).Sublist flight.cycles :=
        finished ▸ (List.sublist_cons_self _ _).append_left before
      refine { orderly := ?_, inside := fun entry member => ?_ }
      · unfold World.requeueIf
        split
        · exact sound.orderly.schedule (sound.inside _ listed)
        · exact sound.orderly
      · rw [World.requeueIf_eq]
        exact sound.inside entry (fewer.subset member)

/-- When a tick is over, the world is in order. -/
theorem Sound.touchDown (sound : Sound flight) (duration : Nat) :
    (flight.touchDown duration).Orderly := by
  have landed := sound.orderly.withExecutor
    { flight.world.executor with
      tick := flight.world.executor.tick + 1
      lastTickDuration := duration }
    ⟨_, _, _, _, rfl⟩ ⟨sound.orderly.ordered, sound.orderly.entry⟩
  exact landed.congr rfl rfl fun _ _ found => found

/-- Steps keep a flight sound. -/
theorem Sound.steps (sound : Sound flight) (steps : ReflTransGen Step flight next) :
    Sound next := by
  induction steps with
  | refl => exact sound
  | tail _ step ih => exact step.sound ih

variable {settings : ExecutorSettings} {messenger : Messenger} {world : World V}

/-- Between ticks the world is in order. -/
theorem Reachable.orderly (noDeadline : settings.unitTimeout = none)
    (reachable : Reachable settings messenger world) : world.Orderly := by
  induction reachable with
  | start => exact .new settings messenger noDeadline
  | @operate world before operation sensible ih =>
    refine ih.change (fun number isSchedule => ?_) (operation.perform_change ih.noneAbandoned)
    subst isSchedule
    exact sensible.1
  | @tick world next results before ticked ih =>
    obtain ⟨flown, random, order, duration, permuted, steps, finished, landed⟩ :=
      Flight.of_tick ih.toPrompt ih.running ticked
    rw [← landed]
    have sound := depart_sound ih random permuted
    exact (sound.steps (ReflTransGen.mono (fun _ _ step => .step step) _ _ steps)).touchDown duration
  | @fly world random order flight before permuted steps finished duration ih =>
    exact ((depart_sound ih random permuted).steps steps).touchDown duration

end Succession

end Deliberation
