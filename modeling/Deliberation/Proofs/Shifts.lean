import Deliberation.Proofs.Flight

/-!
# Shifts

A tick waits for a cycle only until its deadline. A cycle that takes longer is reported as timed
out, keeps its worker and goes on, through the rest of the tick and through later ones. A `Shift` is
what the executor has in hand at some moment: the cycles in progress, and where each unit of the
present tick stands. In a step of it a cycle begins when a worker is free, makes a stride, oversteps
its deadline or returns; the tick accounts for one unit; or something happens that is not up to the
executor. Nothing else is said about when these happen.

`Shift.Sound` is what every moment of a run of steps has. Here it is kept by what happens around the
executor, and where a tick begins and ends.
-/

namespace Deliberation

open Relation

variable {V : Vocabulary}

/-! ## What is not up to the executor -/

/-- What cycles and operations do to a world between two deeds of the executor: they may change
agents and have agents scheduled, but no agent gets lost or another identity. -/
structure World.Around (world next : World V) : Prop where
  size : world.agents.size ≤ next.agents.size
  id : ∀ number < world.agents.size, (next.agent number).id = (world.agent number).id
  executor : ∃ schedule, next.executor = { world.executor with schedule }
  timetable : world.Timetable → next.Timetable
  grows : ∀ id, world.executor.schedule.contains id = true →
    next.executor.schedule.contains id = true

namespace World.Around

variable {world next : World V}

/-- The moves of a cycle are not up to the executor. -/
theorem of_moves {self : BirthNumber} (moves : Moves Agent.Lasting self world next) :
    world.Around next where
  size := moves.frame.size.ge
  id := fun number _ => moves.frame.id number
  executor := moves.frame.executor
  timetable := moves.timetable
  grows := fun _ => moves.schedule_grows

/-- What a cycle stirs is not up to the executor. -/
theorem of_stirs (self : BirthNumber) (stirs : Stirs self world next) : world.Around next :=
  .of_moves stirs.steady.lasting

/-- Other parts of a world than the agents and the executor do not matter. -/
theorem congr (agents : next.agents = world.agents) (executor : next.executor = world.executor) :
    world.Around next where
  size := agents ▸ Nat.le_refl _
  id := fun number _ => by rw [agent_congr agents]
  executor := ⟨_, executor⟩
  timetable := fun timetable => timetable.keep
    (fun other inside => ⟨agents ▸ inside, by rw [agent_congr agents]⟩) (by rw [executor])
  grows := fun id scheduled => by rw [executor]; exact scheduled

/-- To schedule an agent is to have it enter the schedule. -/
theorem schedule (world : World V) {number : BirthNumber} (inside : number < world.agents.size) :
    world.Around (world.schedule number) where
  size := Nat.le_refl _
  id := fun other _ => by rw [agent_schedule]
  executor := ⟨_, rfl⟩
  timetable := fun timetable => timetable.insert (fun _ before => ⟨before, rfl⟩) inside rfl rfl
  grows := fun _ scheduled => (AgentIndex.contains_insert _ _ _ _).mpr (.inr scheduled)

/-- What happens around the executor may happen one after the other. -/
theorem trans {third : World V} (before : world.Around next) (after : next.Around third) :
    world.Around third where
  size := before.size.trans after.size
  id := fun number inside =>
    (after.id number (Nat.lt_of_lt_of_le inside before.size)).trans (before.id number inside)
  executor := by
    obtain ⟨_, first⟩ := before.executor
    obtain ⟨schedule, second⟩ := after.executor
    exact ⟨schedule, by rw [second, first]⟩
  timetable := fun timetable => after.timetable (before.timetable timetable)
  grows := fun id scheduled => after.grows id (before.grows id scheduled)

/-- To schedule an agent again is to have it enter the schedule. -/
theorem requeueIf (world : World V) {number : BirthNumber} (inside : number < world.agents.size)
    (condition : Bool) : world.Around (world.requeueIf number condition) := by
  cases condition with
  | true => exact .schedule world inside
  | false => exact .congr rfl rfl

/-- The report on a cycle at most schedules its agent again. -/
theorem report (world : World V) {number : BirthNumber} (inside : number < world.agents.size)
    (outcome : UnitOutcome V) : world.Around (world.report number outcome).1 := by
  cases outcome with
  | ended outcome =>
    rw [World.report_eq]
    exact .requeueIf world inside _
  | timedOut => exact .congr rfl rfl

/-- The abandoned cycles are up to the executor. -/
theorem abandoned (around : world.Around next) :
    next.executor.abandoned = world.executor.abandoned := by
  obtain ⟨_, executor⟩ := around.executor
  rw [executor]

/-- Which agents are in flight is up to the executor. -/
theorem isInFlight (around : world.Around next) (id : AgentId) :
    next.executor.isInFlight id = world.executor.isInFlight id := by
  unfold Executor.isInFlight
  rw [around.abandoned]

/-- The number of workers does not change. -/
theorem poolSize (around : world.Around next) :
    next.executor.poolSize = world.executor.poolSize := by
  obtain ⟨_, executor⟩ := around.executor
  rw [executor]

end World.Around

/-! ## Shifts -/

/-- Which cycle a worker is busy with. -/
structure Badge where
  id : AgentId
  number : BirthNumber
  /-- Whether the tick does not wait for the cycle any more. -/
  overdue : Bool
  /-- The number of ticks that were over when the cycle began. -/
  tick : Nat

/-- A cycle in progress. -/
structure Worker (V : Vocabulary) extends Badge where
  phase : Phase V

/-- Where a unit of a tick stands. -/
inductive UnitState (V : Vocabulary) where
  /-- It waits for a free worker. -/
  | waiting
  /-- Its cycle is in progress, within its deadline. -/
  | working
  /-- The outcome is known and not accounted for yet. -/
  | known (outcome : World.UnitOutcome V)
  /-- It runs no cycle, because a former one has not returned. -/
  | busy
  /-- It is accounted for. -/
  | settled (slot : Slot V)

/-- How the state of a unit fits to whether a former cycle of its agent was in progress when the
tick began, whether a cycle has begun in the tick, and whether the agent is scheduled. -/
def UnitState.Fits (former begun scheduled : Prop) : UnitState V → Prop
  | .waiting => ¬ former ∧ ¬ begun
  | .working | .known _ => ¬ former
  | .busy => former ∧ ¬ begun
  | .settled slot =>
    (slot = .error .stillRunning ↔ former) ∧ (slot = .error .stillRunning → ¬ begun ∧ scheduled)

/-- A unit still fits when its agent has entered the schedule. -/
theorem UnitState.Fits.mono {state : UnitState V} {former begun scheduled later : Prop}
    (fits : state.Fits former begun scheduled) (grows : scheduled → later) :
    state.Fits former begun later := by
  cases state with
  | settled slot => exact ⟨fits.1, fun running => ⟨(fits.2 running).1, grows (fits.2 running).2⟩⟩
  | _ => exact fits

/-- What an executor has in hand. -/
structure Shift (V : Vocabulary) where
  world : World V
  working : List (Worker V)
  /-- The units of the present tick, or of the last one. -/
  board : AgentIndex (BirthNumber × UnitState V)
  /-- The slots so far. -/
  results : TickResults V
  /-- The cycles that were in progress when the tick began. -/
  opened : List (Worker V)
  /-- The agents whose cycles have begun in the tick. -/
  started : List AgentId
  /-- The results of the ticks that are over. -/
  history : List (TickResults V)
  ticking : Bool

namespace Shift

/-- An executor that has not run a tick yet. -/
def new (settings : ExecutorSettings) (messenger : Messenger) : Shift V :=
  { world := World.new settings messenger, working := [], board := [], results := [], opened := []
    started := [], history := [], ticking := false }

/-- The units of a tick. Those with a cycle that has not returned are put off. -/
def roll (world : World V) : AgentIndex (BirthNumber × UnitState V) :=
  world.executor.schedule.map fun (id, number) =>
    (id, number, if world.executor.isInFlight id then .busy else .waiting)

/-- A tick begins. -/
def depart (shift : Shift V) (random : Option Generator) (order : List BirthNumber) : Shift V :=
  { shift with
    world := shift.world.launch random order
    board := roll shift.world
    results := []
    opened := shift.working
    started := []
    ticking := true }

/-- A unit stands somewhere else now. -/
def mark (shift : Shift V) (id : AgentId) (number : BirthNumber) (state : UnitState V) : Shift V :=
  { shift with board := AgentIndex.insert id (number, state) shift.board }

/-- A cycle begins. -/
def start (shift : Shift V) (id : AgentId) (number : BirthNumber) : Shift V :=
  { shift.mark id number .working with
    working := shift.working ++
      [{ id, number, overdue := false, tick := shift.history.length, phase := .waking }]
    started := shift.started ++ [id] }

/-- A unit is accounted for. -/
def settle (shift : Shift V) (id : AgentId) (number : BirthNumber) (world : World V)
    (slot : Slot V) : Shift V :=
  { shift.mark id number (.settled slot) with
    world, results := AgentIndex.insert (world.agent number).id slot shift.results }

/-- The tick is over. -/
def land (shift : Shift V) (duration : Nat) : Shift V :=
  { shift with
    world :=
      { shift.world with
        executor :=
          { shift.world.executor with
            tick := shift.world.executor.tick + 1
            lastTickDuration := duration }
        running := [] }
    history := shift.history ++ [shift.results]
    ticking := false }

/-- A unit stands at a state. -/
def Stands (shift : Shift V) (id : AgentId) (number : BirthNumber) (state : UnitState V) : Prop :=
  shift.board.find? id = some (number, state)

/-- All cycles that the tick waits for have returned or are overdue. -/
def Joined (shift : Shift V) : Prop :=
  ∀ id number, ¬ shift.Stands id number .waiting ∧ ¬ shift.Stands id number .working

/-- The tick accounts for a unit. -/
inductive Account : Shift V → Shift V → Prop where
  /-- The outcome of its cycle is known. -/
  | report (shift : Shift V) (joined : shift.Joined) {id : AgentId} {number : BirthNumber}
      {outcome : World.UnitOutcome V} (known : shift.Stands id number (.known outcome)) :
      Account shift
        (shift.settle id number (shift.world.report number outcome).1
          (shift.world.report number outcome).2)
  /-- Its former cycle has not returned: it is put off. -/
  | defer (shift : Shift V) (joined : shift.Joined) {id : AgentId} {number : BirthNumber}
      (busy : shift.Stands id number .busy) :
      Account shift
        (shift.settle id number (shift.world.schedule number) (.error .stillRunning))

/-- What the executor does by itself. -/
inductive Deed : Shift V → Shift V → Prop where
  /-- A tick begins with what is scheduled. -/
  | depart (shift : Shift V) (resting : shift.ticking = false)
      (running : shift.world.executor.isShutDown = false) (random : Option Generator)
      {order : List BirthNumber} (permuted : order.Perm shift.world.executor.schedule.values) :
      Deed shift (shift.depart random order)
  /-- A cycle begins on a free worker. -/
  | start (shift : Shift V) (ticking : shift.ticking = true) {id : AgentId} {number : BirthNumber}
      (waiting : shift.Stands id number .waiting)
      (free : shift.working.length < shift.world.executor.poolSize) :
      Deed shift (shift.start id number)
  /-- A cycle oversteps its deadline. It keeps its worker. -/
  | lapse (shift : Shift V) {before behind : List (Worker V)} {worker : Worker V}
      (underway : shift.working = before ++ worker :: behind) (punctual : worker.overdue = false)
      (timed : shift.world.executor.unitTimeout.isSome = true) (record : Suspended V)
      (same : record.agent = worker.number) :
      Deed shift
        { shift.mark worker.id worker.number (.known .timedOut) with
          world := shift.world.abandon record
          working := before ++ { worker with overdue := true } :: behind }
  /-- A cycle returns within its deadline. -/
  | finish (shift : Shift V) {before behind : List (Worker V)} {worker : Worker V}
      (underway : shift.working = before ++ worker :: behind) (punctual : worker.overdue = false)
      {outcome : CycleOutcome V} (finished : worker.phase = .finished outcome) :
      Deed shift
        { shift.mark worker.id worker.number (.known (.ended outcome)) with
          working := before ++ behind }
  /-- A cycle returns that is overdue. Its outcome is of no interest. -/
  | release (shift : Shift V) {before behind : List (Worker V)} {worker : Worker V}
      (underway : shift.working = before ++ worker :: behind) (overdue : worker.overdue = true)
      {outcome : CycleOutcome V} (finished : worker.phase = .finished outcome) :
      Deed shift
        { shift with
          world := shift.world.modifyExecutor fun executor =>
            { executor with abandoned := executor.abandoned.filter (·.id != worker.id) }
          working := before ++ behind }
  /-- It is noted how far the overdue cycle of an agent has come. -/
  | record (shift : Shift V) (id : AgentId) (cycle : Suspended V) :
      Deed shift
        { shift with
          world := shift.world.modifyExecutor fun executor =>
            { executor with
              abandoned := executor.abandoned.map fun other =>
                if other.id == id then { other with cycle } else other } }
  /-- The tick accounts for a unit. -/
  | account {shift next : Shift V} (account : Account shift next) : Deed shift next
  /-- All units are accounted for, and the tick is over. -/
  | land (shift : Shift V) (ticking : shift.ticking = true)
      (settled : ∀ id number state, shift.Stands id number state →
        ∃ slot, state = .settled slot) (duration : Nat) :
      Deed shift (shift.land duration)

/-- One step of a run. -/
inductive Step : Shift V → Shift V → Prop where
  /-- Something happens that is not up to the executor. -/
  | around (shift : Shift V) {next : World V} (around : shift.world.Around next) :
      Step shift { shift with world := next }
  /-- A cycle makes a stride. -/
  | stride (shift : Shift V) {before behind : List (Worker V)} {worker : Worker V}
      (underway : shift.working = before ++ worker :: behind) :
      Step shift
        { shift with
          world := (shift.world.stride worker.number worker.phase).1
          working := before ++
            { worker with phase := (shift.world.stride worker.number worker.phase).2 } :: behind }
  /-- The executor does something. -/
  | deed {shift next : Shift V} (deed : Deed shift next) : Step shift next

/-- Any number of steps. -/
abbrev Steps : Shift V → Shift V → Prop := ReflTransGen Step

/-- What a run of an executor reaches. -/
def Reachable (settings : ExecutorSettings) (messenger : Messenger) (shift : Shift V) : Prop :=
  Steps (new settings messenger) shift

/-! ## In every moment -/

/-- A cycle was reported as timed out in a tick that is over. -/
def TimedOut (badge : Badge) (history : List (TickResults V)) : Prop :=
  ∃ results milliseconds, history[badge.tick]? = some results ∧
    results.find? badge.id = some (.error (.timedOut milliseconds))

/-- A unit of the present tick is overdue. -/
def Lapsed (shift : Shift V) (id : AgentId) : Prop :=
  ∃ number, shift.Stands id number (.known .timedOut) ∨
    ∃ milliseconds, shift.Stands id number (.settled (.error (.timedOut milliseconds)))

/-- Which cycles are in progress. -/
def badges (shift : Shift V) : List Badge := shift.working.map Worker.toBadge

/-- Why a cycle is in progress. -/
inductive Placed (shift : Shift V) (badge : Badge) : Prop where
  /-- It was abandoned by a former tick. -/
  | abandoned (overdue : badge.overdue = true) (timedOut : TimedOut badge shift.history)
      (former : shift.ticking = true → ∃ worker ∈ shift.opened, worker.id = badge.id)
  /-- It is overdue in this tick. -/
  | lapsed (overdue : badge.overdue = true) (ticking : shift.ticking = true)
      (present : badge.tick = shift.history.length) (lapsed : shift.Lapsed badge.id)
  /-- The tick waits for it. -/
  | punctual (punctual : badge.overdue = false) (ticking : shift.ticking = true)
      (present : badge.tick = shift.history.length)
      (working : shift.Stands badge.id badge.number .working)

/-- What every moment of a run has: no agent has two cycles in progress, there are not more of them
than workers, the executor knows the overdue ones, and each unit of the tick stands where its
cycle has got to. -/
structure Sound (poolSize : Nat) (shift : Shift V) : Prop where
  timetable : shift.world.Timetable
  pool : shift.world.executor.poolSize = poolSize
  few : shift.badges.length ≤ poolSize
  apart : (shift.badges.map Badge.id).Nodup
  named : ∀ badge ∈ shift.badges,
    badge.number < shift.world.agents.size ∧ (shift.world.agent badge.number).id = badge.id
  listed : ∀ id number state, shift.Stands id number state →
    number < shift.world.agents.size ∧ (shift.world.agent number).id = id
  tracked : ∀ id, shift.world.executor.isInFlight id = true ↔
    ∃ badge ∈ shift.badges, badge.overdue = true ∧ badge.id = id
  placed : ∀ badge ∈ shift.badges, shift.Placed badge
  reported : ∀ worker ∈ shift.opened, TimedOut worker.toBadge shift.history
  fits : ∀ id number state, shift.Stands id number state →
    state.Fits (∃ worker ∈ shift.opened, worker.id = id) (id ∈ shift.started)
      (shift.world.executor.schedule.contains id = true)
  results : ∀ id slot, shift.results.find? id = some slot ↔
    ∃ number, shift.Stands id number (.settled slot)

variable {shift next : Shift V} {poolSize : Nat} {id other : AgentId} {number reached : BirthNumber}
  {state held : UnitState V}

/-! ### Where the units stand -/

/-- Where the units stand when one of them was moved. -/
theorem stands_mark :
    (shift.mark id number state).Stands other reached held ↔
      (other = id ∧ reached = number ∧ held = state) ∨
        (other ≠ id ∧ shift.Stands other reached held) := by
  unfold Stands mark
  rw [AgentIndex.find?_insert]
  by_cases same : other = id
  · subst same
    rw [if_pos rfl]
    simp [eq_comm]
  · rw [if_neg same]
    simp [same]

/-- A unit stands at one state. -/
theorem Stands.unique (first : shift.Stands id number state)
    (second : shift.Stands id reached held) : number = reached ∧ state = held := by
  have equal := first.symm.trans second
  simp only [Option.some.injEq, Prod.mk.injEq] at equal
  exact equal

/-- Moving a unit leaves the others where they are. -/
theorem find?_mark (different : other ≠ id) :
    (shift.mark id number state).board.find? other = shift.board.find? other := by
  unfold mark
  rw [AgentIndex.find?_insert, if_neg different]

/-- To mark a unit at a state in which it is not accounted for yet leaves the others so. -/
theorem stands_settled_mark (stands : shift.Stands id number held)
    (before : ∀ slot, held ≠ .settled slot) (after : ∀ slot, state ≠ .settled slot)
    {slot : Slot V} :
    (shift.mark id number state).Stands other reached (.settled slot) ↔
      shift.Stands other reached (.settled slot) := by
  rw [stands_mark]
  constructor
  · rintro (⟨_, _, settled⟩ | ⟨_, stood⟩)
    · exact absurd settled.symm (after slot)
    · exact stood
  · intro stood
    refine .inr ⟨?_, stood⟩
    rintro rfl
    exact before slot (stands.unique stood).2

/-- What a cycle is in progress for does not change with what happens to the other units. -/
theorem Placed.keep {badge : Badge} (placed : shift.Placed badge)
    (board : next.board.find? badge.id = shift.board.find? badge.id)
    (opened : next.opened = shift.opened) (history : next.history = shift.history)
    (ticking : next.ticking = shift.ticking) : next.Placed badge := by
  have stands : ∀ {number state}, shift.Stands badge.id number state →
      next.Stands badge.id number state := fun stood => board.trans stood
  cases placed with
  | abandoned overdue timedOut former =>
    refine .abandoned overdue (history.symm ▸ timedOut) fun isTicking => ?_
    rw [opened]
    exact former (ticking.symm.trans isTicking)
  | lapsed overdue isTicking present lapsed =>
    refine .lapsed overdue (ticking.trans isTicking) (history.symm ▸ present) ?_
    obtain ⟨number, known | ⟨milliseconds, settled⟩⟩ := lapsed
    · exact ⟨number, .inl (stands known)⟩
    · exact ⟨number, .inr ⟨milliseconds, stands settled⟩⟩
  | punctual punctual isTicking present working =>
    exact .punctual punctual (ticking.trans isTicking) (history.symm ▸ present) (stands working)

/-! ### What happens around -/

/-- Changes of the world keep a shift sound if they keep the identities of the agents, the pool,
the overdue cycles that the executor knows of, and what is scheduled. -/
theorem Sound.onward (sound : Sound poolSize shift) {world : World V}
    (size : shift.world.agents.size ≤ world.agents.size)
    (sameId : ∀ number < shift.world.agents.size,
      (world.agent number).id = (shift.world.agent number).id)
    (timetable : world.Timetable)
    (pool : world.executor.poolSize = shift.world.executor.poolSize)
    (isInFlight : ∀ id, world.executor.isInFlight id = shift.world.executor.isInFlight id)
    (grows : ∀ id, shift.world.executor.schedule.contains id = true →
      world.executor.schedule.contains id = true) :
    Sound poolSize { shift with world } :=
  { timetable
    pool := pool.trans sound.pool
    few := sound.few
    apart := sound.apart
    named := fun badge member =>
      have ⟨inside, named⟩ := sound.named badge member
      ⟨Nat.lt_of_lt_of_le inside size, (sameId _ inside).trans named⟩
    listed := fun id number state stands =>
      have ⟨inside, named⟩ := sound.listed id number state stands
      ⟨Nat.lt_of_lt_of_le inside size, (sameId _ inside).trans named⟩
    tracked := fun id => by
      change world.executor.isInFlight id = true ↔ _
      rw [isInFlight]
      exact sound.tracked id
    placed := fun badge member => (sound.placed badge member).keep rfl rfl rfl rfl
    reported := sound.reported
    fits := fun id number state stands => (sound.fits id number state stands).mono (grows id)
    results := sound.results }

/-- What happens around the executor keeps a shift sound. -/
theorem Sound.around (sound : Sound poolSize shift) {world : World V}
    (around : shift.world.Around world) : Sound poolSize { shift with world } :=
  sound.onward around.size around.id (around.timetable sound.timetable) around.poolSize
    around.isInFlight around.grows

/-- How far the cycles have come is of no consequence. -/
theorem Sound.relabel (sound : Sound poolSize shift) {working : List (Worker V)}
    (badges : working.map Worker.toBadge = shift.badges) : Sound poolSize { shift with working } :=
  { timetable := sound.timetable
    pool := sound.pool
    few := (congrArg List.length badges).trans_le sound.few
    apart := (congrArg (List.map Badge.id) badges).symm ▸ sound.apart
    named := fun badge member => sound.named badge (badges ▸ member)
    listed := sound.listed
    tracked := fun id => (sound.tracked id).trans (by rw [← badges]; rfl)
    placed := fun badge member =>
      (sound.placed badge (badges ▸ member)).keep rfl rfl rfl rfl
    reported := sound.reported
    fits := sound.fits
    results := sound.results }

/-! ### When a tick begins and ends -/

/-- A unit starts out busy if its agent is in flight, else it waits for a worker. -/
theorem find?_roll (world : World V) (id : AgentId) :
    (roll world).find? id = (world.executor.schedule.find? id).map fun number =>
      (number, if world.executor.isInFlight id then .busy else .waiting) := by
  unfold roll
  induction world.executor.schedule with
  | nil => rfl
  | cons entry rest ih =>
    obtain ⟨held, number⟩ := entry
    rw [List.map_cons, AgentIndex.find?_cons, AgentIndex.find?_cons]
    by_cases same : id = held
    · rw [if_pos same, if_pos same, same]
      rfl
    · rw [if_neg same, if_neg same]
      exact ih

/-- Between ticks all cycles in progress are abandoned. -/
theorem Sound.abandoned (sound : Sound poolSize shift) (resting : shift.ticking = false)
    {badge : Badge} (member : badge ∈ shift.badges) :
    badge.overdue = true ∧ TimedOut badge shift.history := by
  cases sound.placed badge member with
  | abandoned overdue timedOut _ => exact ⟨overdue, timedOut⟩
  | lapsed _ ticking | punctual _ ticking =>
    rw [resting] at ticking
    cases ticking

/-- A tick begins soundly. -/
theorem Sound.depart (sound : Sound poolSize shift) (resting : shift.ticking = false)
    (random : Option Generator) (order : List BirthNumber) :
    Sound poolSize (shift.depart random order) := by
  have former : ∀ id, (∃ worker ∈ shift.working, worker.id = id) ↔
      shift.world.executor.isInFlight id = true := by
    intro id
    rw [sound.tracked id]
    constructor
    · rintro ⟨worker, member, rfl⟩
      have listed : worker.toBadge ∈ shift.badges := List.mem_map_of_mem member
      exact ⟨_, listed, (sound.abandoned resting listed).1, rfl⟩
    · rintro ⟨badge, member, _, rfl⟩
      obtain ⟨worker, listed, rfl⟩ := List.mem_map.mp member
      exact ⟨worker, listed, rfl⟩
  have stands : ∀ {id number state}, (shift.depart random order).Stands id number state →
      (id, number) ∈ shift.world.executor.schedule ∧
        state = if shift.world.executor.isInFlight id then .busy else .waiting := by
    intro id number state stands
    have found : (roll shift.world).find? id = some (number, state) := stands
    rw [find?_roll, Option.map_eq_some_iff] at found
    obtain ⟨other, scheduled, equal⟩ := found
    simp only [Prod.mk.injEq] at equal
    exact ⟨equal.1 ▸ AgentIndex.mem_of_find? scheduled, equal.2.symm⟩
  exact
    { timetable := .empty rfl
      pool := sound.pool
      few := sound.few
      apart := sound.apart
      named := sound.named
      listed := fun id number state stood => sound.timetable.entry (stands stood).1
      tracked := sound.tracked
      placed := fun badge member => by
        obtain ⟨overdue, timedOut⟩ := sound.abandoned resting member
        refine .abandoned overdue timedOut fun _ => ?_
        exact (former badge.id).mpr ((sound.tracked badge.id).mpr ⟨badge, member, overdue, rfl⟩)
      reported := fun worker member =>
        (sound.abandoned resting (List.mem_map_of_mem member)).2
      fits := fun id number state stood => by
        obtain ⟨_, rfl⟩ := stands stood
        cases inFlight : shift.world.executor.isInFlight id with
        | true => exact ⟨(former id).mpr inFlight, List.not_mem_nil⟩
        | false =>
          refine ⟨fun isFormer => ?_, List.not_mem_nil⟩
          rw [(former id).mp isFormer] at inFlight
          cases inFlight
      results := fun id slot => by
        refine ⟨nofun, fun ⟨number, stood⟩ => ?_⟩
        have settled := (stands stood).2
        split at settled <;> cases settled }

/-- A cycle that was reported as timed out stays so in later ticks. -/
theorem TimedOut.append {badge : Badge} {history : List (TickResults V)}
    (timedOut : TimedOut badge history) (results : TickResults V) :
    TimedOut badge (history ++ [results]) := by
  obtain ⟨former, milliseconds, listed, slot⟩ := timedOut
  obtain ⟨inside, -⟩ := List.getElem?_eq_some_iff.mp listed
  exact ⟨former, milliseconds, (List.getElem?_append_left inside).trans listed, slot⟩

/-- A tick whose units are all settled ends soundly. -/
theorem Sound.land (sound : Sound poolSize shift)
    (settled : ∀ id number state, shift.Stands id number state → ∃ slot, state = .settled slot)
    (duration : Nat) : Sound poolSize (shift.land duration) :=
  { timetable := ⟨sound.timetable.ordered, sound.timetable.entry⟩
    pool := sound.pool
    few := sound.few
    apart := sound.apart
    named := sound.named
    listed := sound.listed
    tracked := sound.tracked
    placed := fun badge member => by
      cases sound.placed badge member with
      | abandoned overdue timedOut _ => exact .abandoned overdue (timedOut.append _) nofun
      | lapsed overdue _ present lapsed =>
        refine .abandoned overdue ?_ nofun
        obtain ⟨number, known | ⟨milliseconds, stands⟩⟩ := lapsed
        · obtain ⟨_, equal⟩ := settled _ _ _ known
          cases equal
        · refine ⟨shift.results, milliseconds, ?_, (sound.results _ _).mpr ⟨number, stands⟩⟩
          change (shift.history ++ [shift.results])[badge.tick]? = some shift.results
          rw [present]
          simp
      | punctual _ _ _ working =>
        obtain ⟨_, equal⟩ := settled _ _ _ working
        cases equal
    reported := fun worker member => (sound.reported worker member).append _
    fits := sound.fits
    results := sound.results }

end Shift

end Deliberation
