import Deliberation.Proofs.Succession

/-!
# Killed agents shut down

To kill an agent is to take it out of the registry and to ask it to stop. From then on nothing but
its entry in the schedule leads to the cycle in which it runs its shutdown plans, and the schedule
has one entry per identity. As long as no other living agent has its identity, nothing takes that
entry away, and the next tick runs the shutdown plans
(`Succession.Reachable.killed_agent_shuts_down`). But identities are free again once their agents are
killed. A new agent under the same identity takes the entry over, and the killed one never runs
(`Succession.Reachable.killed_agent_forgotten`).
-/

namespace Deliberation

open Relation

variable {V : Vocabulary}

/-! ## Agents that were asked to stop -/

/-- A request to stop is not lost when something else arrives. -/
theorem Inbox.receive_stopRequested {inbox : Inbox V} (requested : inbox.stopRequested = true)
    (arrival : Arrival V) : (inbox.receive arrival).stopRequested = true := by
  cases arrival with
  | stop => rfl
  | _ => exact requested

/-- An agent that was asked to stop and still has these shutdown plans to run. -/
structure Agent.Leaving (agent : Agent V) (plans : List (Plan V)) : Prop where
  notDone : agent.done = false
  asked : agent.inbox.stopRequested = true
  parting : agent.shutdownPlans = plans

namespace World

/-- No other agent with the identity of this one is going to run. -/
def Alone (world : World V) (number : BirthNumber) : Prop :=
  ∀ other < world.agents.size, other ≠ number →
    (world.agent other).id = (world.agent number).id → (world.agent other).done = true

instance (world : World V) (number : BirthNumber) : Decidable (world.Alone number) :=
  inferInstanceAs (Decidable (∀ other < world.agents.size, _ → _ → _))

/-- The shutdown plans of an agent run in the next tick. -/
structure Due (world : World V) (number : BirthNumber) (plans : List (Plan V)) : Prop where
  leaving : (world.agent number).Leaving plans
  scheduled : world.executor.schedule.find? (world.agent number).id = some number

variable {world next : World V} {number : BirthNumber} {plans : List (Plan V)}

/-- An agent that is leaving is there. -/
theorem inside_of_leaving (leaving : (world.agent number).Leaving plans) :
    number < world.agents.size := by
  by_contra outside
  have asked := leaving.asked
  rw [agent_outside world (Nat.le_of_not_lt outside)] at asked
  cases asked

/-- Whatever arrives anywhere, the agent is still asked to stop. -/
theorem arrive_leaving (leaving : (world.agent number).Leaving plans) (reached : BirthNumber)
    (arrival : Arrival V) : ((world.arrive reached arrival).agent number).Leaving plans := by
  by_cases same : number = reached
  · subst same
    rw [agent_arrive_self world arrival (inside_of_leaving leaving)]
    exact
      { notDone := leaving.notDone
        asked := Inbox.receive_stopRequested leaving.asked arrival
        parting := leaving.parting }
  · rw [agent_arrive_of_ne world arrival same]
    exact leaving

/-- The cycles of other agents leave it to the agent to run its shutdown plans. -/
theorem moves_leaving {self : BirthNumber} (leaving : (world.agent number).Leaving plans)
    (different : number ≠ self) (moves : Moves Agent.Lasting self world next) :
    (next.agent number).Leaving plans := by
  induction moves with
  | refl => exact leaving
  | tail _ move ih =>
    cases move with
    | own change kept =>
      rw [agent_modifyAgent_of_ne _ change different]
      exact ih
    | arrive reached arrival => exact arrive_leaving ih reached arrival
    | aside pursuit messenger names journal clock => exact ih

/-- The cycles of others leave an agent that is leaving as it is. -/
theorem dispatch_leaving {units : List BirthNumber}
    {outcomes : List (BirthNumber × CycleOutcome V)}
    (leaving : (world.agent number).Leaving plans) (absent : number ∉ units)
    (dispatch : Dispatch world units next outcomes) : (next.agent number).Leaving plans := by
  induction dispatch with
  | nil => exact leaving
  | @cons world next after other rest outcome outcomes ran _ ih =>
    rw [List.mem_cons, not_or] at absent
    have moves := world.cycle_moves other none
    rw [ran] at moves
    exact ih (moves_leaving leaving absent.1 moves) absent.2

/-! ### What comes between the request and the tick -/

/-- What cycles stir leaves an agent alone with its identity. -/
theorem Alone.stirs {self : BirthNumber} (alone : world.Alone number)
    (stirs : Stirs self world next) : next.Alone number := by
  intro other inside different same
  have size := stirs.steady.lasting.frame.size
  have ids := stirs.field Agent.id fun _ _ _ _ => rfl
  rw [stirs.field Agent.done (fun _ _ _ _ => rfl) other]
  exact alone other (size ▸ inside) different (by rw [← ids, ← ids, same])

/-- An agent that is not done and has the same identity is the same one. -/
theorem Alone.eq (alone : world.Alone number) {other : BirthNumber}
    (inside : other < world.agents.size) (notDone : (world.agent other).done = false)
    (same : (world.agent other).id = (world.agent number).id) : other = number := by
  by_contra different
  rw [alone other inside different same] at notDone
  cases notDone

namespace Due

/-- Whether plans are due shows in the agents and the executor. -/
theorem congr (due : world.Due number plans) (agents : next.agents = world.agents)
    (executor : next.executor = world.executor) : next.Due number plans where
  leaving := agent_congr agents number ▸ due.leaving
  scheduled := by
    rw [agent_congr agents, executor]
    exact due.scheduled

/-- No other agent takes the entry in the schedule. -/
theorem schedule (due : world.Due number plans) (alone : world.Alone number)
    {reached : BirthNumber} (inside : reached < world.agents.size)
    (notDone : (world.agent reached).done = false) : (world.schedule reached).Due number plans where
  leaving := due.leaving
  scheduled := by
    change AgentIndex.find? (AgentIndex.insert (world.agent reached).id reached
      world.executor.schedule) (world.agent number).id = some number
    rw [AgentIndex.find?_insert]
    split
    · rename_i same
      rw [alone.eq inside notDone same.symm]
    · exact due.scheduled

/-- Shutdown plans stay due whatever arrives. -/
theorem arrive (due : world.Due number plans) (alone : world.Alone number) (reached : BirthNumber)
    (arrival : Arrival V) : (world.arrive reached arrival).Due number plans where
  leaving := arrive_leaving due.leaving reached arrival
  scheduled := by
    rw [schedule_arrive, (world.arrive_frame reached arrival).id]
    split
    · rename_i wakes
      exact (due.schedule alone (scheduled_inside wakes.2) wakes.1).scheduled
    · exact due.scheduled

/-- Shutdown plans stay due whatever cycles stir. -/
theorem stirs {self : BirthNumber} (due : world.Due number plans) (alone : world.Alone number)
    (stirs : Stirs self world next) : next.Due number plans := by
  induction stirs with
  | refl => exact due
  | @tail middle next before stir ih =>
    cases stir with
    | tune change only =>
      obtain ⟨contexts, interceptors, changed⟩ := only (middle.agent self)
      have id := field_modifyAgent Agent.id middle self number change (by rw [changed])
      refine { leaving := ?_, scheduled := by rw [id]; exact ih.scheduled }
      have kept := field_modifyAgent
        (fun agent => (agent.done, agent.inbox.stopRequested, agent.shutdownPlans)) middle self
        number change (by rw [changed])
      simp only [Prod.mk.injEq] at kept
      exact
        { notDone := kept.1.trans ih.leaving.notDone
          asked := kept.2.1.trans ih.leaving.asked
          parting := kept.2.2.trans ih.leaving.parting }
    | arrive reached arrival => exact ih.arrive (alone.stirs before) reached arrival
    | aside messenger names journal clock => exact ih.congr rfl rfl

/-- An operation that gives nobody the identity of the agent lets it run its shutdown plans. -/
theorem change (due : world.Due number plans) (alone : world.Alone number)
    {operation : Operation V} (sensible : operation.Sensible world)
    (change : operation.Change world next) (still : next.Alone number) :
    next.Due number plans := by
  have inside := inside_of_leaving due.leaving
  cases change with
  | born id design messenger absent =>
    have older := agent_create_of_lt world id design (some .executor) true inside
    have newest := agent_create_self world id design (some .executor) true
    have different : (world.agent number).id ≠ id := by
      intro same
      have done := still world.agents.size ?_ (Nat.ne_of_gt inside) ?_
      · exact absurd ((congrArg Agent.done newest).symm.trans done) Bool.false_ne_true
      · change _ < (world.agents.push _).size
        rw [Array.size_push]
        exact Nat.lt_succ_self _
      · exact (congrArg Agent.id newest).trans (same.symm.trans (congrArg Agent.id older).symm)
    refine { leaving := older ▸ due.leaving, scheduled := ?_ }
    change AgentIndex.find? (AgentIndex.insert id world.agents.size world.executor.schedule)
      ((world.create id design (some .executor) true).1.agent number).id = some number
    rw [older, AgentIndex.find?_insert, if_neg different]
    exact due.scheduled
  | scheduled reached => exact due.schedule alone sensible.1 sensible.2
  | stirred _ middle agents executor registry stirs =>
    have settled : middle.Alone number := by
      intro other inside
      rw [agent_congr agents, agent_congr agents]
      exact alone other (agents ▸ inside)
    exact (due.congr agents executor).stirs settled stirs

end Due

/-- A registered agent that is killed runs its shutdown plans next. -/
theorem kill_due (orderly : world.Orderly) {id : AgentId}
    (registered : world.registry.find? id = some number)
    (notDone : (world.agent number).done = false) :
    (world.kill id).1.Due number (world.agent number).shutdownPlans := by
  obtain ⟨inside, -⟩ := orderly.registered registered
  unfold kill
  rw [registered]
  let unlisted := (world.withRegistry (world.registry.erase id)).deregister id
  have asked : (unlisted.arrive number .stop).agent number =
      { world.agent number with inbox := (world.agent number).inbox.receive .stop } :=
    agent_arrive_self unlisted .stop inside
  refine { leaving := ?_, scheduled := ?_ }
  · change ((unlisted.arrive number .stop).agent number).Leaving _
    rw [asked]
    exact { notDone := notDone, asked := rfl, parting := rfl }
  · change (unlisted.arrive number .stop).executor.schedule.find?
      ((unlisted.arrive number .stop).agent number).id = some number
    rw [asked, schedule_arrive, if_pos ⟨notDone, orderly.scheduler number inside⟩,
      AgentIndex.find?_insert]
    exact if_pos rfl

/-! ### The last cycle -/

/-- The world in which an agent begins to run its shutdown plans. -/
def turnToShutdown (world : World V) (number : BirthNumber) : World V :=
  (world.drain number).1.modifyAgent number fun agent => { agent with shutdownPlans := [] }

/-- The cycle of an agent that was asked to stop consists of its shutdown plans. -/
theorem cycle_leaving (leaving : (world.agent number).Leaving plans) (deadline : Option Nat) :
    world.cycle number deadline =
      (world.turnToShutdown number).close number deadline plans Effects.none [] := by
  have inside := inside_of_leaving leaving
  have drained : ((world.drain number).1.agent number).stopping = true ∧
      ((world.drain number).1.agent number).shutdownPlans = plans := by
    simp only [drain]
    rw [agent_modifyAgent_self world _ inside]
    have adopted := Agent.adoptAll_steady (world.agent number).inbox.goals
      { world.agent number with inbox := Inbox.empty }
    refine ⟨?_, adopted.shutdownPlans.trans leaving.parting⟩
    rw [leaving.asked]
    exact Bool.or_true _
  simp only [cycle, leaving.notDone, Bool.false_eq_true, if_false]
  rw [if_pos drained.1, drained.2]
  rfl

/-- An agent that retires is done. -/
theorem retire_done (inside : number < world.agents.size) :
    ((world.retire number).agent number).done = true := by
  have retired : (world.retire number).agent number =
      (world.modifyAgent number fun agent =>
        { agent with plans := [], goals := [], done := true }).agent number :=
    agent_congr rfl number
  rw [retired, agent_modifyAgent_self world _ inside]

/-- When all shutdown plans ran, the agent is done; otherwise one of them panicked. -/
theorem close_ended {deadline : Option Nat} {pending : List (Plan V)} {effects : Effects V}
    {actions : List V.Action} {outcome : CycleOutcome V} (inside : number < world.agents.size)
    (ended : world.close number deadline pending effects actions = .ended next outcome) :
    (∃ cause, outcome = .panicked cause) ∨ (next.agent number).done = true := by
  have within : ∀ (plan : Plan V) (turn after : Turn V), number < turn.world.agents.size →
      (plan.start.run number deadline turn).turn = after →
        number < after.world.agents.size := by
    rintro plan turn _ before rfl
    exact (plan.start.run_stirs number deadline turn).steady.lasting.frame.size ▸ before
  fun_induction close number deadline pending effects actions world with
  | case1 effects actions world =>
    cases ended
    exact .inr (retire_done inside)
  | case2 plan pending effects actions world turn action memory ran ih
  | case3 plan pending effects actions world turn cause memory ran ih =>
    exact ih (within plan _ turn inside (congrArg Halt.turn ran)) ended
  | case4 plan pending effects actions world turn cause ran =>
    cases ended
    exact .inl ⟨cause, rfl⟩
  | case5 plan pending effects actions world turn wait rest ran => cases ended

/-- An agent that is done stays done. -/
theorem Dispatch.done {units : List BirthNumber} {outcomes : List (BirthNumber × CycleOutcome V)}
    (dispatch : Dispatch world units next outcomes) (isDone : (world.agent number).done = true) :
    (next.agent number).done = true := by
  induction dispatch with
  | nil => exact isDone
  | @cons world next after other rest outcome outcomes ran _ ih =>
    refine ih ?_
    by_cases same : number = other
    · subst same
      simp only [cycle, isDone, if_true] at ran
      cases ran
      exact isDone
    · have moves := world.cycle_moves other none
      rw [ran] at moves
      obtain ⟨inbox, changed⟩ := moves.other same
      have kept : next.agent number = { world.agent number with inbox } := changed
      rw [kept]
      exact isDone

/-- In this tick an agent runs these shutdown plans, one after the other and nothing else. Unless one
of them panics the agent is done afterwards. -/
def Parts (world final : World V) (results : TickResults V) (number : BirthNumber)
    (plans : List (Plan V)) : Prop :=
  ∃ random ran rest flown earlier outcome later middle next,
    ExactTick world final results random (ran ++ number :: rest) flown
      (earlier ++ (number, outcome) :: later) ∧
    Dispatch (world.launch random (ran ++ number :: rest)) ran middle earlier ∧
    middle.cycle number none = .ended next outcome ∧
    middle.cycle number none =
      (middle.turnToShutdown number).close number none plans Effects.none [] ∧
    ((∀ cause, outcome ≠ .panicked cause) → (final.agent number).done = true)

/-- An exact tick runs the shutdown plans that are due. -/
theorem ExactTick.parts {final flown : World V} {results : TickResults V}
    {random : Option Generator} {order : List BirthNumber}
    {outcomes : List (BirthNumber × CycleOutcome V)}
    (exact : ExactTick world final results random order flown outcomes)
    (due : world.Due number plans) : world.Parts final results number plans := by
  have scheduled : number ∈ world.executor.schedule.values :=
    List.mem_map_of_mem (f := Prod.snd) (AgentIndex.mem_of_find? due.scheduled)
  obtain ⟨ran, rest, split, absent⟩ :=
    List.eq_append_cons_of_mem (exact.permuted.mem_iff.mpr scheduled)
  obtain ⟨middle, earlier, later, before, behind, appended, -⟩ := exact.kept ran _ split
  have departing : ((world.launch random order).agent number).Leaving plans := due.leaving
  have leaving := dispatch_leaving departing absent before
  have closing := cycle_leaving leaving none
  subst split appended
  cases behind with
  | @cons _ next _ _ _ outcome later ended others =>
    refine ⟨random, ran, rest, flown, earlier, outcome, later, middle, next, exact, before, ended,
      closing, fun calm => ?_⟩
    have within : number < (middle.turnToShutdown number).agents.size := by
      unfold turnToShutdown
      rw [size_modifyAgent, (middle.drain_moves number).lasting.frame.size]
      exact inside_of_leaving leaving
    obtain ⟨cause, panicked⟩ | isDone := close_ended within (closing.symm.trans ended)
    · exact absurd panicked (calm cause)
    · obtain ⟨schedule, landed⟩ := exact.landed
      have flownDone := others.done isDone
      rw [landed]
      exact flownDone

end World

namespace Succession

variable {settings : ExecutorSettings} {messenger : Messenger} {world : World V}
  {number : BirthNumber}

/-- What can happen while an agent waits for the next tick, as long as nobody else has its
identity. -/
inductive Waits (number : BirthNumber) (world : World V) : World V → Prop where
  | start (alone : world.Alone number) : Waits number world world
  | operate {waiting : World V} (before : Waits number world waiting) (operation : Operation V)
      (sensible : operation.Sensible waiting) (alone : (operation.perform waiting).Alone number) :
      Waits number world (operation.perform waiting)

/-- An agent that waits is alone with its identity. -/
theorem Waits.alone {waiting : World V} (waits : Waits number world waiting) :
    waiting.Alone number := by
  cases waits with
  | start alone => exact alone
  | operate _ _ _ alone => exact alone

/-- While an agent waits, the run goes on. -/
theorem Waits.reachable {waiting : World V} (waits : Waits number world waiting)
    (reachable : Reachable settings messenger world) : Reachable settings messenger waiting := by
  induction waits with
  | start => exact reachable
  | operate _ operation sensible _ ih => exact ih.operate operation sensible

/-- Shutdown plans stay due while the agent waits. -/
theorem Waits.due {waiting : World V} {plans : List (Plan V)}
    (noDeadline : settings.unitTimeout = none) (waits : Waits number world waiting)
    (reachable : Reachable settings messenger world) (due : world.Due number plans) :
    waiting.Due number plans := by
  induction waits with
  | start => exact due
  | @operate waiting before operation sensible alone ih =>
    have orderly := (before.reachable reachable).orderly noDeadline
    exact ih.change before.alone sensible (operation.perform_change orderly.noneAbandoned) alone

/-- An agent that is killed runs its shutdown plans in the next tick and is done, whatever happens
until then, if no agent that could run has its identity. Only when a cycle waits at a closed gate
there is no such tick, because it does not return. -/
theorem Reachable.killed_agent_shuts_down (noDeadline : settings.unitTimeout = none)
    (reachable : Reachable settings messenger world) {id : AgentId}
    (registered : world.registry.find? id = some number)
    (notDone : (world.agent number).done = false) {waiting : World V}
    (waits : Waits number (world.kill id).1 waiting) :
    (∃ final results, waiting.tick = some (final, .ok results) ∧
      waiting.Parts final results number (world.agent number).shutdownPlans) ∨
    (waiting.tick = none ∧ ∃ random order, order.Perm waiting.executor.schedule.values ∧
      (waiting.launch random order).Stuck order) := by
  have killed : Reachable settings messenger (world.kill id).1 :=
    reachable.operate (.kill id) trivial
  have due := waits.due noDeadline killed
    (World.kill_due (reachable.orderly noDeadline) registered notDone)
  have orderly := (waits.reachable killed).orderly noDeadline
  refine (orderly.toPrompt.tick_cases orderly.running).imp_left ?_
  rintro ⟨final, results, random, order, flown, outcomes, ticked, exact⟩
  exact ⟨final, results, ticked, exact.parts due⟩

end Succession

/-! ## An identity that is used again -/

namespace Market

/-- An agent that makes a last offer when it shuts down. -/
def clerk : Design vocabulary :=
  Design.empty.withShutdownPlan (resultPlan (.ok (some (.offered 3))))

/-- The settings of an executor with one worker. -/
def office : ExecutorSettings := { poolSize := 1, seed := none, unitTimeout := none }

/-- A world with one clerk. -/
def staffed : World vocabulary :=
  ((World.new office (.new none)).spawn (AgentId.ofNat 1) clerk).1

/-- The clerk is killed and a listener comes. -/
def dismissed : World vocabulary :=
  ((staffed.kill (AgentId.ofNat 1)).1.spawn (AgentId.ofNat 2) listener).1

/-- The clerk is killed and another one comes under its identity. -/
def replaced : World vocabulary :=
  ((staffed.kill (AgentId.ofNat 1)).1.spawn (AgentId.ofNat 1) clerk).1

/-- Whether an agent is done, how many shutdown plans it has still to run, and whether anything still
holds it. -/
def farewellOf (number : BirthNumber) (world : World vocabulary) : Bool × Nat × Bool :=
  ((world.agent number).done, (world.agent number).shutdownPlans.length, world.isAlive number)

/-- The office with its clerk is reached by a run. -/
theorem staffed_reachable : Succession.Reachable office (.new none) staffed :=
  .operate .start (.spawn (AgentId.ofNat 1) clerk) trivial

end Market

namespace Succession

/-- The clerk that was killed has made its last offer after the next tick. -/
theorem Reachable.killed_agent_shuts_down_dismissed :
    Market.office.unitTimeout = none ∧
      Reachable Market.office (.new none) Market.staffed ∧
      Market.staffed.registry.find? (AgentId.ofNat 1) = some 0 ∧
      (Market.staffed.agent 0).done = false ∧
      Waits 0 (Market.staffed.kill (AgentId.ofNat 1)).1 Market.dismissed ∧
      ∃ final results, Market.dismissed.tick = some (final, .ok results) ∧
        Market.dismissed.Parts final results 0 (Market.staffed.agent 0).shutdownPlans := by
  have registered : Market.staffed.registry.find? (AgentId.ofNat 1) = some 0 := by decide +kernel
  have notDone : (Market.staffed.agent 0).done = false := by decide +kernel
  have waits : Waits 0 (Market.staffed.kill (AgentId.ofNat 1)).1 Market.dismissed :=
    .operate (.start (by decide +kernel)) (.spawn (AgentId.ofNat 2) Market.listener) trivial
      (by decide +kernel)
  refine ⟨rfl, Market.staffed_reachable, registered, notDone, waits, ?_⟩
  rcases Market.staffed_reachable.killed_agent_shuts_down rfl registered notDone waits with
    parts | ⟨stuck, -⟩
  · exact parts
  · have returns : Market.dismissed.tick.isSome = true := by decide +kernel
    rw [stuck] at returns
    cases returns

/-- When another clerk comes under the identity of the one that was killed, the next tick runs the
new one only. The one that was killed is gone after that tick, but it is not done and has its
shutdown plan still to run. -/
theorem Reachable.killed_agent_forgotten :
    Reachable Market.office (.new none) Market.staffed ∧
      Market.staffed.registry.find? (AgentId.ofNat 1) = some 0 ∧
      (Market.staffed.agent 0).done = false ∧
      Market.dismissed.tick.map (Market.farewellOf 0 ·.1) = some (true, 0, false) ∧
      Market.replaced.tick.map (Market.farewellOf 0 ·.1) = some (false, 1, false) := by
  refine ⟨Market.staffed_reachable, ?_, ?_, ?_, ?_⟩ <;> decide +kernel

end Succession

end Deliberation
