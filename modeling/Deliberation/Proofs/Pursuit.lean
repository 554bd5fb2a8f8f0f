import Deliberation.Market.Trading
import Deliberation.Proofs.Backing

/-!
# Pursued goals have plans

An `Ensemble` is any number of agents with any number of cycles under way, at most one of each
agent. `Ensemble.Sound` is what a step keeps as long as no cycle panics: every flag has its plan, and
an agent that is done has let go of everything.
-/

namespace Deliberation

open Relation

variable {V : Vocabulary}

/-! ## Agents that are done -/

/-- An agent that is done has let go of everything. -/
def Agent.Settled (agent : Agent V) : Prop :=
  agent.done = true → agent.plans = [] ∧ agent.goals = [] ∧ agent.shutdownPlans = []

/-- Whether a cycle is between its beginning and its end. -/
def Phase.isBusy : Phase V → Bool
  | .waking | .finished _ => false
  | _ => true

/-- Whether a cycle is executing shutdown plans. -/
def Phase.isLate : Phase V → Bool
  | .closing _ _ _ | .parting _ _ _ _ _ => true
  | _ => false

/-- An agent in the midst of its cycle is not done, and it has handed its shutdown plans over to the
cycle that executes them. -/
structure Phase.Fits (phase : Phase V) (agent : Agent V) : Prop where
  busy : phase.isBusy = true → agent.done = false
  late : phase.isLate = true → agent.shutdownPlans = []

namespace World

/-- A cycle executes shutdown plans only after its agent has handed them over. -/
theorem stride_late (world : World V) {number : BirthNumber} (inside : number < world.agents.size)
    (phase : Phase V) :
    (world.stride number phase).2.isLate = true →
      phase.isLate = true ∨ ((world.stride number phase).1.agent number).shutdownPlans = [] := by
  have strode := world.strode number phase
  generalize world.stride number phase = next at strode ⊢
  cases strode with
  | turns after inbox _ drained =>
    intro _
    have size := (world.drain_moves number).lasting.frame.size
    rw [drained] at size
    exact .inr (congrArg Agent.shutdownPlans (agent_modifyAgent_self after _ (size ▸ inside)))
  | retires | parts | partingReturns | partingFails | partingPanics | partingGoesOn =>
    exact fun _ => .inl rfl
  | _ =>
    intro late
    cases late

/-- Only a cycle that begins turns to shutdown plans. -/
theorem early_stride (world : World V) {number : BirthNumber} {phase : Phase V}
    (begun : phase ≠ .waking) (early : phase.isLate = false) :
    (world.stride number phase).2.isLate = false := by
  have strode := world.strode number phase
  generalize world.stride number phase = next at strode ⊢
  cases strode with
  | idles | turns | wakes => exact absurd rfl begun
  | retires | parts | partingReturns | partingFails | partingPanics | partingGoesOn => cases early
  | _ => rfl

end World

/-- What stays of agents that go on. -/
theorem Moves.steady {self : BirthNumber} {before after : World V}
    (moves : Moves Agent.Steady self before after) (number : BirthNumber) :
    (after.agent number).done = (before.agent number).done ∧
      (after.agent number).shutdownPlans = (before.agent number).shutdownPlans := by
  induction moves with
  | refl => exact ⟨rfl, rfl⟩
  | @tail world next _ move ih =>
    have kept : (next.agent number).done = (world.agent number).done ∧
        (next.agent number).shutdownPlans = (world.agent number).shutdownPlans := by
      cases move with
      | own change kept =>
        exact ⟨World.field_modifyAgent Agent.done world self number change kept.done,
          World.field_modifyAgent Agent.shutdownPlans world self number change kept.shutdownPlans⟩
      | arrive reached arrival =>
        exact ⟨World.field_arrive Agent.done world reached number arrival fun _ _ => rfl,
          World.field_arrive Agent.shutdownPlans world reached number arrival fun _ _ => rfl⟩
      | aside pursuit messenger names journal clock => exact ⟨rfl, rfl⟩
    exact ⟨kept.1.trans ih.1, kept.2.trans ih.2⟩

namespace World

/-- A stride leaves its own agent settled and fitting. -/
theorem stride_settled (world : World V) {number : BirthNumber}
    (inside : number < world.agents.size) (phase : Phase V)
    (settled : (world.agent number).Settled) (fits : phase.Fits (world.agent number)) :
    ((world.stride number phase).1.agent number).Settled ∧
      (world.stride number phase).2.Fits ((world.stride number phase).1.agent number) := by
  cases isDone : (world.agent number).done with
  | true =>
    -- Only a cycle that begins or is over has an agent that is done, and neither does anything.
    have still : ∃ outcome, world.stride number phase = (world, .finished outcome) := by
      cases phase with
      | waking => exact ⟨_, if_pos isDone⟩
      | finished outcome => exact ⟨outcome, rfl⟩
      | _ => exact absurd (fits.busy rfl) (by simp [isDone])
    obtain ⟨outcome, stride⟩ := still
    rw [stride]
    exact ⟨settled, { busy := fun busy => (nomatch busy), late := fun late => (nomatch late) }⟩
  | false =>
    rcases world.stride_cases number phase with
      steady | ⟨_, _, closing⟩ | ⟨effects, actions, rfl⟩
    · obtain ⟨done, shutdownPlans⟩ := Moves.steady steady number
      refine ⟨fun nowDone => ?_, { busy := fun _ => done.trans isDone, late := fun late => ?_ }⟩
      · rw [done, isDone] at nowDone
        cases nowDone
      · rcases world.stride_late inside phase late with wasLate | empty
        · exact shutdownPlans.trans (fits.late wasLate)
        · exact empty
    · have size := (world.drain_moves number).lasting.frame.size
      have done := (Moves.steady (world.drain_moves number) number).1.trans isDone
      rw [closing]
      simp only
      rw [agent_modifyAgent_self _ _ (size ▸ inside)]
      refine ⟨fun nowDone => ?_, { busy := fun _ => done, late := fun _ => rfl }⟩
      exact absurd (done.symm.trans nowDone) Bool.false_ne_true
    · have retired : ((world.retire number).agent number) =
          { world.agent number with plans := [], goals := [], done := true } :=
        (agent_congr rfl number).trans (agent_modifyAgent_self world
          (fun agent => { agent with plans := [], goals := [], done := true }) inside)
      refine ⟨fun _ => ?_, { busy := fun busy => (nomatch busy), late := fun late => (nomatch late) }⟩
      rw [World.stride, retired]
      exact ⟨rfl, rfl, fits.late rfl⟩

end World

/-! ## Runs of any number of agents -/

/-- What an agent holds that a cycle of another agent cannot change. -/
def Agent.holdings (agent : Agent V) :
    List (GoalHandle V) × List (ActivePlan V) × List (Plan V) × Bool :=
  (agent.goals, agent.plans, agent.shutdownPlans, agent.done)

/-- Any number of agents, with the cycles that are under way. -/
structure Ensemble (V : Vocabulary) where
  world : World V
  cycles : List (BirthNumber × Phase V)

namespace Ensemble

/-- One step of an ensemble in which no cycle panics. -/
inductive Step : Ensemble V → Ensemble V → Prop where
  | create (ensemble : Ensemble V) (id : AgentId) (design : Design V)
      (scheduler : Option Scheduler) (connected : Bool) :
      Step ensemble
        { ensemble with world := (ensemble.world.create id design scheduler connected).1 }
  | arrive (ensemble : Ensemble V) (number : BirthNumber) (arrival : Arrival V) :
      Step ensemble { ensemble with world := ensemble.world.arrive number arrival }
  /-- The contexts of an agent change from outside. -/
  | tune (ensemble : Ensemble V) (number : BirthNumber) (contexts : Contexts V.Object) :
      Step ensemble
        { ensemble with
          world := ensemble.world.modifyAgent number fun agent => { agent with contexts } }
  /-- Anything changes but agents and flags. -/
  | surround (ensemble : Ensemble V) (world : World V)
      (agents : world.agents = ensemble.world.agents)
      (pursuit : world.pursuit = ensemble.world.pursuit) : Step ensemble { ensemble with world }
  /-- A whole cycle runs at once. -/
  | cycle (ensemble : Ensemble V) {number : BirthNumber} {deadline : Option Nat} {next : World V}
      {outcome : CycleOutcome V} (inside : number < ensemble.world.agents.size)
      (idle : ∀ entry ∈ ensemble.cycles, entry.1 ≠ number)
      (ran : ensemble.world.cycle number deadline = .ended next outcome)
      (calm : ∀ cause, outcome ≠ .panicked cause) : Step ensemble { ensemble with world := next }
  /-- A cycle begins, unless its agent is in the midst of one. -/
  | start (ensemble : Ensemble V) {number : BirthNumber}
      (inside : number < ensemble.world.agents.size)
      (idle : ∀ entry ∈ ensemble.cycles, entry.1 ≠ number) :
      Step ensemble { ensemble with cycles := (number, .waking) :: ensemble.cycles }
  /-- A cycle that is under way makes a stride. -/
  | stride (ensemble : Ensemble V) {before behind : List (BirthNumber × Phase V)}
      {number : BirthNumber} {phase : Phase V}
      (underway : ensemble.cycles = before ++ (number, phase) :: behind)
      (calm : ∀ cause, (ensemble.world.stride number phase).2 ≠ .finished (.panicked cause)) :
      Step ensemble
        { world := (ensemble.world.stride number phase).1
          cycles := before ++ (number, (ensemble.world.stride number phase).2) :: behind }
  | finish (ensemble : Ensemble V) {before behind : List (BirthNumber × Phase V)}
      {number : BirthNumber} {outcome : CycleOutcome V}
      (finished : ensemble.cycles = before ++ (number, .finished outcome) :: behind) :
      Step ensemble { ensemble with cycles := before ++ behind }

/-- The ensembles of a run that starts without agents. -/
inductive Reachable (settings : ExecutorSettings) (messenger : Messenger) : Ensemble V → Prop where
  | start : Reachable settings messenger { world := World.new settings messenger, cycles := [] }
  | step {ensemble next : Ensemble V} (before : Reachable settings messenger ensemble)
      (step : Step ensemble next) : Reachable settings messenger next

/-- The plans in the hands of all cycles. -/
def hand (cycles : List (BirthNumber × Phase V)) : List (ActivePlan V) :=
  cycles.flatMap fun entry => entry.2.hand

/-- What a run without panics keeps. -/
structure Sound (ensemble : Ensemble V) : Prop where
  distinct : ∀ number, (ensemble.world.agent number).GoalsDistinct
  backed : ensemble.world.Backed (hand ensemble.cycles)
  settled : ∀ number, (ensemble.world.agent number).Settled
  alone : (ensemble.cycles.map Prod.fst).Nodup
  inside : ∀ entry ∈ ensemble.cycles, entry.1 < ensemble.world.agents.size
  fits : ∀ entry ∈ ensemble.cycles, entry.2.Fits (ensemble.world.agent entry.1)

namespace Sound

variable {ensemble : Ensemble V}

/-- An ensemble without agents is sound. -/
theorem start (settings : ExecutorSettings) (messenger : Messenger) :
    Sound ({ world := World.new settings messenger, cycles := [] } : Ensemble V) where
  distinct _ := List.nodup_nil
  backed _ flagged := nomatch flagged
  settled _ isDone := nomatch isDone
  alone := List.nodup_nil
  inside _ member := nomatch member
  fits _ member := nomatch member

/-- Only flags, and what the agents hold, matter. -/
theorem congr (sound : ensemble.Sound) {next : World V}
    (size : next.agents.size = ensemble.world.agents.size)
    (pursuit : next.pursuit = ensemble.world.pursuit)
    (holdings : ∀ number, (next.agent number).holdings = (ensemble.world.agent number).holdings) :
    Sound { ensemble with world := next } := by
  have parts : ∀ number, (next.agent number).goals = (ensemble.world.agent number).goals ∧
      (next.agent number).plans = (ensemble.world.agent number).plans ∧
      (next.agent number).shutdownPlans = (ensemble.world.agent number).shutdownPlans ∧
      (next.agent number).done = (ensemble.world.agent number).done := by
    intro number
    simpa [Agent.holdings] using holdings number
  refine
    { distinct := fun number => ?_
      backed := sound.backed.congr pursuit fun number => (parts number).2.1
      settled := fun number => ?_
      alone := sound.alone
      inside := fun entry member => size ▸ sound.inside entry member
      fits := fun entry member => ?_ }
  · unfold Agent.GoalsDistinct
    rw [(parts number).1]
    exact sound.distinct number
  · unfold Agent.Settled
    obtain ⟨goals, plans, shutdownPlans, done⟩ := parts number
    rw [goals, plans, shutdownPlans, done]
    exact sound.settled number
  · obtain ⟨goals, plans, shutdownPlans, done⟩ := parts entry.1
    have fits := sound.fits entry member
    exact
      { busy := fun busy => done.trans (fits.busy busy)
        late := fun late => shutdownPlans.trans (fits.late late) }

/-- A new agent holds no goals and is not done. -/
theorem create (sound : ensemble.Sound) (id : AgentId) (design : Design V)
    (scheduler : Option Scheduler) (connected : Bool) :
    Sound { ensemble with world := (ensemble.world.create id design scheduler connected).1 } := by
  have size : (ensemble.world.create id design scheduler connected).1.agents.size =
      ensemble.world.agents.size + 1 := Array.size_push ..
  have older : ∀ number < ensemble.world.agents.size,
      (ensemble.world.create id design scheduler connected).1.agent number =
        ensemble.world.agent number :=
    fun number inside => World.agent_create_of_lt _ _ _ _ _ inside
  have newer : ∀ number, ¬ number < ensemble.world.agents.size →
      ((ensemble.world.create id design scheduler connected).1.agent number).goals = [] ∧
        ((ensemble.world.create id design scheduler connected).1.agent number).done = false := by
    intro number outside
    by_cases newest : number = ensemble.world.agents.size
    · subst newest
      rw [World.agent_create_self]
      exact ⟨rfl, rfl⟩
    · have beyond := Nat.lt_of_le_of_ne (Nat.le_of_not_lt outside) (Ne.symm newest)
      rw [World.agent_outside _ (size ▸ beyond)]
      exact ⟨rfl, rfl⟩
  refine
    { distinct := fun number => ?_
      backed := sound.backed.grow (fun _ flagged => flagged) fun number active member => ?_
      settled := fun number isDone => ?_
      alone := sound.alone
      inside := fun entry member =>
        size ▸ Nat.lt_succ_of_lt (sound.inside entry member)
      fits := fun entry member => ?_ }
  · by_cases inside : number < ensemble.world.agents.size
    · rw [older number inside]
      exact sound.distinct number
    · unfold Agent.GoalsDistinct
      rw [(newer number inside).1]
      exact List.nodup_nil
  · by_cases inside : number < ensemble.world.agents.size
    · rw [older number inside]
      exact member
    · rw [World.agent_outside _ (Nat.le_of_not_lt inside)] at member
      cases member
  · by_cases inside : number < ensemble.world.agents.size
    · rw [older number inside] at isDone ⊢
      exact sound.settled number isDone
    · rw [(newer number inside).2] at isDone
      cases isDone
  · rw [older entry.1 (sound.inside entry member)]
    exact sound.fits entry member

/-- An arrival leaves an ensemble sound. -/
theorem arrive (sound : ensemble.Sound) (number : BirthNumber) (arrival : Arrival V) :
    Sound { ensemble with world := ensemble.world.arrive number arrival } := by
  obtain ⟨_, _, _, arrived⟩ := ensemble.world.arrive_eq number arrival
  refine sound.congr (ensemble.world.size_arrive number arrival) (by rw [arrived]) fun other => ?_
  exact World.field_arrive Agent.holdings ensemble.world number other arrival fun _ _ => rfl

/-- A cycle that begins or ends has nothing in its hand. -/
theorem begin (sound : ensemble.Sound) {number : BirthNumber}
    (inside : number < ensemble.world.agents.size)
    (idle : ∀ entry ∈ ensemble.cycles, entry.1 ≠ number) :
    Sound { ensemble with cycles := (number, .waking) :: ensemble.cycles } where
  distinct := sound.distinct
  backed := sound.backed
  settled := sound.settled
  alone := by
    refine List.nodup_cons.mpr ⟨fun member => ?_, sound.alone⟩
    obtain ⟨entry, listed, same⟩ := List.mem_map.mp member
    exact idle entry listed same
  inside := by
    intro entry member
    rcases List.mem_cons.mp member with rfl | old
    · exact inside
    · exact sound.inside entry old
  fits := by
    intro entry member
    rcases List.mem_cons.mp member with rfl | old
    · exact { busy := fun busy => (nomatch busy), late := fun late => (nomatch late) }
    · exact sound.fits entry old

/-- A cycle that is over may leave a sound ensemble. -/
theorem finish (sound : ensemble.Sound) {before behind : List (BirthNumber × Phase V)}
    {number : BirthNumber} {outcome : CycleOutcome V}
    (finished : ensemble.cycles = before ++ (number, .finished outcome) :: behind) :
    Sound { ensemble with cycles := before ++ behind } := by
  have fewer : (before ++ behind).Sublist ensemble.cycles :=
    finished ▸ (List.sublist_cons_self _ _).append_left before
  have sameHand : hand (before ++ behind) = hand ensemble.cycles := by
    rw [finished]
    simp [hand, Phase.hand]
  exact
    { distinct := sound.distinct
      backed := sameHand ▸ sound.backed
      settled := sound.settled
      alone := sound.alone.sublist (fewer.map _)
      inside := fun entry member => sound.inside entry (fewer.subset member)
      fits := fun entry member => sound.fits entry (fewer.subset member) }

/-- A stride without a panic leaves an ensemble sound. -/
theorem stride (sound : ensemble.Sound) {before behind : List (BirthNumber × Phase V)}
    {number : BirthNumber} {phase : Phase V}
    (underway : ensemble.cycles = before ++ (number, phase) :: behind)
    (calm : ∀ cause, (ensemble.world.stride number phase).2 ≠ .finished (.panicked cause)) :
    Sound
      { world := (ensemble.world.stride number phase).1
        cycles := before ++ (number, (ensemble.world.stride number phase).2) :: behind } := by
  have listed : (number, phase) ∈ ensemble.cycles :=
    underway ▸ List.mem_append_right _ List.mem_cons_self
  have inside := sound.inside _ listed
  have moves := ensemble.world.stride_moves number phase
  obtain ⟨settled, fits⟩ :=
    ensemble.world.stride_settled inside phase (sound.settled number) (sound.fits _ listed)
  have others : ∀ other ≠ number, ∃ inbox, (ensemble.world.stride number phase).1.agent other =
      { ensemble.world.agent other with inbox } := fun other different => moves.other different
  have apart := sound.alone
  rw [underway, List.map_append, List.map_cons] at apart
  have elsewhere : ∀ entry ∈ before ++ (number, (ensemble.world.stride number phase).2) :: behind,
      entry = (number, (ensemble.world.stride number phase).2) ∨
        entry ∈ ensemble.cycles ∧ entry.1 ≠ number := by
    intro entry member
    have absent := (List.nodup_cons.mp (List.nodup_middle.mp apart)).1
    rw [← List.map_append] at absent
    rcases List.mem_cons.mp (List.perm_middle.mem_iff.mp member) with equal | other
    · exact .inl equal
    · refine .inr ⟨underway ▸ List.perm_middle.mem_iff.mpr (List.mem_cons_of_mem _ other), ?_⟩
      intro same
      rw [← same] at absent
      exact absent (List.mem_map.mpr ⟨entry, other, rfl⟩)
  refine
    { distinct := moves.distinct sound.distinct, backed := ?_, settled := fun other => ?_
      alone := by simpa using apart, inside := fun entry member => ?_
      fits := fun entry member => ?_ }
  · have held : ensemble.world.Backed (phase.hand ++ hand (before ++ behind)) :=
      sound.backed.subset (by simp [underway, hand, or_left_comm])
    exact (ensemble.world.stride_backed inside phase _ calm held).subset
      (by simp [hand, or_left_comm])
  · by_cases same : other = number
    · exact same ▸ settled
    · obtain ⟨inbox, changed⟩ := others other same
      rw [changed]
      exact sound.settled other
  · rw [moves.frame.size]
    rcases elsewhere entry member with rfl | ⟨old, _⟩
    · exact inside
    · exact sound.inside entry old
  · rcases elsewhere entry member with rfl | ⟨old, different⟩
    · exact fits
    · obtain ⟨inbox, changed⟩ := others entry.1 different
      have kept := sound.fits entry old
      rw [changed]
      exact { busy := kept.busy, late := kept.late }

/-- What every stride keeps, a whole cycle keeps. -/
theorem strides {cycles : List (BirthNumber × Phase V)} {number : BirthNumber}
    {start stop : World V × Phase V} (sound : Sound ⟨start.1, (number, start.2) :: cycles⟩)
    (strides : World.Strides number start stop)
    (calm : ∀ cause, stop.2 ≠ .finished (.panicked cause)) :
    Sound ⟨stop.1, (number, stop.2) :: cycles⟩ := by
  induction strides with
  | refl => exact sound
  | tail _ stride ih =>
    cases stride with
    | stride world phase =>
      refine @Sound.stride _ ⟨world, (number, phase) :: cycles⟩ (ih ?_) [] cycles number phase rfl
        calm
      rintro cause rfl
      exact calm cause rfl
    | elapse world phase clock => exact (ih calm).congr rfl rfl fun _ => rfl

end Sound

/-- Every step keeps an ensemble sound. -/
theorem Step.sound {ensemble next : Ensemble V} (step : Step ensemble next)
    (sound : ensemble.Sound) : next.Sound := by
  cases step with
  | create id design scheduler connected => exact sound.create id design scheduler connected
  | arrive number arrival => exact sound.arrive number arrival
  | tune number contexts =>
    refine sound.congr (World.size_modifyAgent _ _ _) rfl fun other => ?_
    exact World.field_modifyAgent Agent.holdings ensemble.world number other _ rfl
  | surround world agents pursuit =>
    exact sound.congr (by rw [agents]) pursuit fun other => by rw [World.agent_congr agents]
  | @cycle number deadline world outcome inside idle ran calm =>
    have strides := ensemble.world.cycle_strides number deadline
    rw [ran] at strides
    refine @Sound.finish _ _ (Sound.strides (sound.begin inside idle) strides ?_)
      [] ensemble.cycles number outcome rfl
    intro cause panicked
    exact calm cause (Phase.finished.inj panicked)
  | start inside idle => exact sound.begin inside idle
  | stride underway calm => exact sound.stride underway calm
  | finish finished => exact sound.finish finished

variable {settings : ExecutorSettings} {messenger : Messenger} {ensemble : Ensemble V}

/-- Whatever an ensemble reaches is sound. -/
theorem Reachable.sound (reachable : Reachable settings messenger ensemble) : ensemble.Sound := by
  induction reachable with
  | start => exact .start settings messenger
  | step _ step ih => exact step.sound ih

/-- In a run without panics, whenever no cycle is under way: the goals of each agent are distinct,
every goal that is flagged as pursued has a plan in some agent, and agents that are done hold
nothing. -/
theorem Reachable.agents_in_order (reachable : Reachable settings messenger ensemble)
    (between : ensemble.cycles = []) :
    (∀ number, (ensemble.world.agent number).GoalsDistinct) ∧
    (∀ goal, ensemble.world.pursuit.isPursued goal = true →
      ∃ number < ensemble.world.agents.size, ∃ active ∈ (ensemble.world.agent number).plans,
        active.Pursues goal) ∧
    ∀ number, (ensemble.world.agent number).done = true →
      (ensemble.world.agent number).plans = [] ∧ (ensemble.world.agent number).goals = [] ∧
        (ensemble.world.agent number).shutdownPlans = [] := by
  have sound := reachable.sound
  refine ⟨sound.distinct, fun goal flagged => ?_, sound.settled⟩
  rcases sound.backed goal flagged with ⟨number, active, member, pursues⟩ | ⟨active, member, _⟩
  · refine ⟨number, ?_, active, member, pursues⟩
    by_contra outside
    rw [World.agent_outside _ (Nat.le_of_not_lt outside)] at member
    cases member
  · rw [between] at member
    cases member

end Ensemble

/-- An agent whose plan for a goal never finishes. -/
def Market.seeker : Design Market.vocabulary :=
  Design.empty.withScheme .goal <|
    .rule "seeker" fun _ _ trigger =>
      .ok <| trigger.goal?.map fun _ => Plan.repeating fun _ => .done (.ok none) 0

/-- A goal that is never reached. -/
def Market.utopia : GoalHandle Market.vocabulary := { id := ⟨0⟩, goal := Market.Aim.unrelated }

/-- An agent that a goal waits for. -/
def Market.resolved : World Market.vocabulary :=
  let world := World.new { poolSize := 1, seed := none, unitTimeout := none } (.new none)
  (world.create (AgentId.ofNat 1) Market.seeker none false).1.arrive 0 (.goal Market.utopia)

/-- The agent after the cycle in which it begins to pursue its goal. -/
def Market.seeking : World Market.vocabulary :=
  match Market.resolved.cycle 0 none with
  | .ended world _ => world
  | .blocked world _ => world

/-- The goal is flagged, so the agent has a plan for it. -/
theorem Ensemble.Reachable.agents_in_order_seeking :
    Market.seeking.pursuit.isPursued ⟨0⟩ = true ∧
    (∀ number, (Market.seeking.agent number).GoalsDistinct) ∧
    (∀ goal, Market.seeking.pursuit.isPursued goal = true →
      ∃ number < Market.seeking.agents.size,
        ∃ active ∈ (Market.seeking.agent number).plans, active.Pursues goal) ∧
    ∀ number, (Market.seeking.agent number).done = true →
      (Market.seeking.agent number).plans = [] ∧ (Market.seeking.agent number).goals = [] ∧
        (Market.seeking.agent number).shutdownPlans = [] := by
  have created : Reachable { poolSize := 1, seed := none, unitTimeout := none } (.new none) _ :=
    .step .start (.create _ (AgentId.ofNat 1) Market.seeker none false)
  have resolved := created.step (.arrive _ 0 (.goal Market.utopia))
  have returns : (match Market.resolved.cycle 0 none with
      | .ended _ (.acted _ _) => true
      | _ => false) = true := by decide +kernel
  have ran : ∃ actions reschedule,
      Market.resolved.cycle 0 none = .ended Market.seeking (.acted actions reschedule) := by
    unfold Market.seeking
    split at returns
    · rename_i actions reschedule halted
      exact ⟨actions, reschedule, by rw [halted]⟩
    · cases returns
  obtain ⟨actions, reschedule, ran⟩ := ran
  have seeking := resolved.step <|
    .cycle _ (by decide) (fun _ member => nomatch member) ran fun _ panicked => nomatch panicked
  exact ⟨by decide +kernel, seeking.agents_in_order rfl⟩

end Deliberation
