import Deliberation.Proofs.Index
import Deliberation.Proofs.Moving

/-!
# What stays as it is

`World.Frame` collects what no move of a cycle changes: how many agents there are, their identities
and schedulers, the executor apart from its schedule, and the agents that take part or are held. Of
another agent a cycle changes the inbox only (`Moves.other`). The schedule only grows, and it stays
in order with every entry under the identity of its agent (`World.Timetable`).
-/

namespace Deliberation

open Relation

variable {V : Vocabulary}

/-- What no move of a cycle changes. -/
structure World.Frame (world next : World V) : Prop where
  size : next.agents.size = world.agents.size
  id : ∀ number, (next.agent number).id = (world.agent number).id
  scheduler : ∀ number, (next.agent number).scheduler = (world.agent number).scheduler
  executor : ∃ schedule, next.executor = { world.executor with schedule }
  registry : next.registry = world.registry
  handles : next.handles = world.handles
  running : next.running = world.running

/-- The schedule of a world is in order, and lists agents under their identities. -/
structure World.Timetable (world : World V) : Prop where
  ordered : world.executor.schedule.Ordered
  entry : ∀ {id number}, (id, number) ∈ world.executor.schedule →
    number < world.agents.size ∧ (world.agent number).id = id

namespace World.Frame

variable {first second third : World V}

/-- A world is in its own frame. -/
theorem refl (world : World V) : Frame world world :=
  { size := rfl, id := fun _ => rfl, scheduler := fun _ => rfl, executor := ⟨_, rfl⟩,
    registry := rfl, handles := rfl, running := rfl }

/-- What keeps the frame may happen one after the other. -/
theorem trans (before : Frame first second) (after : Frame second third) : Frame first third where
  size := after.size.trans before.size
  id number := (after.id number).trans (before.id number)
  scheduler number := (after.scheduler number).trans (before.scheduler number)
  executor := by
    obtain ⟨_, secondExecutor⟩ := before.executor
    obtain ⟨schedule, thirdExecutor⟩ := after.executor
    exact ⟨schedule, by rw [thirdExecutor, secondExecutor]⟩
  registry := after.registry.trans before.registry
  handles := after.handles.trans before.handles
  running := after.running.trans before.running

/-- Of the executor only the schedule can have changed. -/
theorem unitTimeout (frame : Frame first second) :
    second.executor.unitTimeout = first.executor.unitTimeout := by
  obtain ⟨_, executor⟩ := frame.executor
  rw [executor]

/-- The frame holds the abandoned cycles. -/
theorem abandoned (frame : Frame first second) :
    second.executor.abandoned = first.executor.abandoned := by
  obtain ⟨_, executor⟩ := frame.executor
  rw [executor]

/-- The frame holds the number of workers. -/
theorem poolSize (frame : Frame first second) :
    second.executor.poolSize = first.executor.poolSize := by
  obtain ⟨_, executor⟩ := frame.executor
  rw [executor]

/-- The frame holds the number of ticks. -/
theorem tick (frame : Frame first second) : second.executor.tick = first.executor.tick := by
  obtain ⟨_, executor⟩ := frame.executor
  rw [executor]

/-- The frame says whether the executor was shut down. -/
theorem isShutDown (frame : Frame first second) :
    second.executor.isShutDown = first.executor.isShutDown := by
  obtain ⟨_, executor⟩ := frame.executor
  rw [executor]

end World.Frame

namespace World

/-- An arrival keeps the frame. -/
theorem arrive_frame (world : World V) (number : BirthNumber) (arrival : Arrival V) :
    Frame world (world.arrive number arrival) where
  size := world.size_arrive number arrival
  id other := field_arrive Agent.id world number other arrival fun _ _ => rfl
  scheduler other := field_arrive Agent.scheduler world number other arrival fun _ _ => rfl
  executor := by
    obtain ⟨_, schedule, _, arrived⟩ := world.arrive_eq number arrival
    exact ⟨schedule, by rw [arrived]⟩
  registry := by
    obtain ⟨_, _, _, arrived⟩ := world.arrive_eq number arrival
    rw [arrived]
  handles := by
    obtain ⟨_, _, _, arrived⟩ := world.arrive_eq number arrival
    rw [arrived]
  running := by
    obtain ⟨_, _, _, arrived⟩ := world.arrive_eq number arrival
    rw [arrived]

/-- The schedule after an arrival has at most one entry more, for the agent that was reached. -/
theorem schedule_arrive (world : World V) (number : BirthNumber) (arrival : Arrival V) :
    (world.arrive number arrival).executor.schedule =
      if (world.agent number).done = false ∧ (world.agent number).scheduler = some .executor then
        AgentIndex.insert (world.agent number).id number world.executor.schedule
      else world.executor.schedule := by
  have done := field_modifyAgent Agent.done world number number
    (fun agent => { agent with inbox := agent.inbox.receive arrival }) rfl
  have scheduler := field_modifyAgent Agent.scheduler world number number
    (fun agent => { agent with inbox := agent.inbox.receive arrival }) rfl
  have id := field_modifyAgent Agent.id world number number
    (fun agent => { agent with inbox := agent.inbox.receive arrival }) rfl
  unfold arrive
  rw [executor_wake, done, scheduler]
  split
  · exact congrArg (AgentIndex.insert · number world.executor.schedule) id
  · rfl

/-- An agent that is put into the schedule is there. -/
theorem scheduled_inside {world : World V} {number : BirthNumber}
    (scheduler : (world.agent number).scheduler = some .executor) : number < world.agents.size := by
  by_contra outside
  rw [agent_outside world (Nat.le_of_not_lt outside)] at scheduler
  cases scheduler

end World

/-! ## Moves -/

variable {self : BirthNumber} {before after : World V}

/-- A move keeps the frame. -/
theorem Move.frame (move : Move Agent.Lasting self before after) : before.Frame after := by
  cases move with
  | own change kept =>
    exact
      { size := before.size_modifyAgent self change
        id := fun other => World.field_modifyAgent Agent.id before self other change kept.id
        scheduler := fun other =>
          World.field_modifyAgent Agent.scheduler before self other change kept.scheduler
        executor := ⟨_, rfl⟩, registry := rfl, handles := rfl, running := rfl }
  | arrive number arrival => exact before.arrive_frame number arrival
  | aside pursuit messenger names journal clock =>
    exact
      { size := rfl, id := fun _ => rfl, scheduler := fun _ => rfl, executor := ⟨_, rfl⟩,
        registry := rfl, handles := rfl, running := rfl }

/-- No cycle changes what a frame collects. -/
theorem Moves.frame (moves : Moves Agent.Lasting self before after) : before.Frame after := by
  induction moves with
  | refl => exact .refl before
  | tail _ move ih => exact ih.trans move.frame

/-- Of another agent a cycle changes the inbox only. -/
theorem Moves.other (moves : Moves Agent.Lasting self before after) {number : BirthNumber}
    (different : number ≠ self) :
    ∃ inbox, after.agent number = { before.agent number with inbox } := by
  induction moves with
  | refl => exact ⟨_, rfl⟩
  | @tail world next _ move ih =>
    obtain ⟨inbox, changed⟩ := ih
    cases move with
    | own change kept =>
      exact ⟨inbox, by rw [World.agent_modifyAgent_of_ne _ _ different, changed]⟩
    | arrive reached arrival =>
      by_cases same : number = reached
      · subst same
        by_cases inside : number < world.agents.size
        · refine ⟨inbox.receive arrival, ?_⟩
          rw [World.agent_arrive_self _ _ inside, changed]
        · have outside := Nat.le_of_not_lt inside
          refine ⟨inbox, ?_⟩
          rw [World.agent_outside _ (by simpa using outside), ← changed,
            World.agent_outside _ outside]
      · exact ⟨inbox, by rw [World.agent_arrive_of_ne _ _ same, changed]⟩
    | aside pursuit messenger names journal clock => exact ⟨inbox, changed⟩

/-- The goals of an agent stay distinct. -/
theorem Moves.goalsDistinct (moves : Moves Agent.Lasting self before after) {number : BirthNumber}
    (distinct : (before.agent number).GoalsDistinct) : (after.agent number).GoalsDistinct := by
  induction moves with
  | refl => exact distinct
  | @tail world next _ move ih =>
    cases move with
    | own change kept =>
      by_cases same : number = self
      · subst same
        by_cases inside : number < world.agents.size
        · rw [World.agent_modifyAgent_self _ _ inside]
          exact kept.distinct ih
        · rw [World.modifyAgent_outside _ _ (Nat.le_of_not_lt inside)]
          exact ih
      · rw [World.agent_modifyAgent_of_ne _ _ same]
        exact ih
    | arrive reached arrival =>
      unfold Agent.GoalsDistinct
      rw [World.field_arrive (fun agent => agent.goals.map (·.id)) world reached number arrival
        fun _ _ => rfl]
      exact ih
    | aside pursuit messenger names journal clock => exact ih

/-- Goals stay distinct. -/
theorem Moves.distinct (moves : Moves Agent.Lasting self before after)
    (distinct : ∀ number, (before.agent number).GoalsDistinct) :
    ∀ number, (after.agent number).GoalsDistinct :=
  fun number => moves.goalsDistinct (distinct number)

/-! ## The schedule -/

namespace World.Timetable

variable {world next : World V}

/-- An empty schedule is in order. -/
theorem empty (schedule : world.executor.schedule = []) : world.Timetable where
  ordered := schedule ▸ AgentIndex.ordered_nil
  entry := fun member => by
    rw [schedule] at member
    cases member

/-- The schedule stays, and so do the agents in it. -/
theorem keep (timetable : world.Timetable)
    (older : ∀ other < world.agents.size,
      other < next.agents.size ∧ (next.agent other).id = (world.agent other).id)
    (schedule : next.executor.schedule = world.executor.schedule) : next.Timetable where
  ordered := schedule ▸ timetable.ordered
  entry := by
    intro id number member
    obtain ⟨before, same⟩ := timetable.entry (schedule ▸ member)
    obtain ⟨still, kept⟩ := older number before
    exact ⟨still, kept.trans same⟩

/-- An agent is put into the schedule; it may be a new one. -/
theorem insert (timetable : world.Timetable) {id : AgentId} {number : BirthNumber}
    (older : ∀ other < world.agents.size,
      other < next.agents.size ∧ (next.agent other).id = (world.agent other).id)
    (inside : number < next.agents.size) (named : (next.agent number).id = id)
    (schedule : next.executor.schedule = AgentIndex.insert id number world.executor.schedule) :
    next.Timetable where
  ordered := schedule ▸ AgentIndex.ordered_insert _ _ timetable.ordered
  entry := by
    intro other reached member
    rw [schedule] at member
    rcases AgentIndex.mem_of_mem_insert member with equal | old
    · cases equal
      exact ⟨inside, named⟩
    · obtain ⟨before, same⟩ := timetable.entry old
      obtain ⟨still, kept⟩ := older reached before
      exact ⟨still, kept.trans same⟩

/-- An arrival leaves the schedule in order. -/
theorem arrive (timetable : world.Timetable) (number : BirthNumber) (arrival : Arrival V) :
    (world.arrive number arrival).Timetable := by
  have frame := world.arrive_frame number arrival
  have older : ∀ other < world.agents.size, other < (world.arrive number arrival).agents.size ∧
      ((world.arrive number arrival).agent other).id = (world.agent other).id :=
    fun other before => ⟨frame.size ▸ before, frame.id other⟩
  have scheduled := world.schedule_arrive number arrival
  split at scheduled
  · rename_i wakes
    have inside : number < (world.arrive number arrival).agents.size :=
      frame.size ▸ scheduled_inside wakes.2
    exact timetable.insert older inside (frame.id number) scheduled
  · exact timetable.keep older scheduled

end World.Timetable

/-- The moves of a cycle leave the schedule in order. -/
theorem Moves.timetable (moves : Moves Agent.Lasting self before after)
    (timetable : before.Timetable) : after.Timetable := by
  induction moves with
  | refl => exact timetable
  | @tail world next _ move ih =>
    have frame := move.frame
    cases move with
    | own change kept =>
      exact ih.keep (fun other before => ⟨frame.size ▸ before, frame.id other⟩) rfl
    | arrive number arrival => exact ih.arrive number arrival
    | aside pursuit messenger names journal clock => exact ⟨ih.ordered, ih.entry⟩

/-- What is scheduled while a cycle runs stays scheduled. -/
theorem Moves.schedule_grows (moves : Moves Agent.Lasting self before after) {id : AgentId}
    (scheduled : before.executor.schedule.contains id = true) :
    after.executor.schedule.contains id = true := by
  induction moves with
  | refl => exact scheduled
  | @tail world next _ move ih =>
    cases move with
    | own change kept => exact ih
    | arrive number arrival =>
      rw [World.schedule_arrive]
      split
      · exact (AgentIndex.contains_insert _ _ _ _).mpr (.inr ih)
      · exact ih
    | aside pursuit messenger names journal clock => exact ih

end Deliberation
