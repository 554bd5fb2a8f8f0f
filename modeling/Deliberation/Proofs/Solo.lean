import Deliberation.Proofs.Exclusive

/-!
# One plan for a goal

The flag does not outlast the goal. A goal that is achieved is dropped with its flag, but its plan
goes on; when the goal is taken up again meanwhile, it gets a second plan
(`Solo.Reachable.rivals_for_errand`). Unless a goal is taken up while a plan for it is live, no goal
of an agent that has its goals to itself ever has two plans (`Solo.Reachable.one_plan_per_goal`).
-/

namespace Deliberation

open Relation

variable {V : Vocabulary}

/-! ## Runs of a single agent -/

namespace Inbox

/-- Whether no goal waits among the triggers. -/
def isAimless (inbox : Inbox V) : Bool :=
  (inbox.external ++ inbox.internal ++ inbox.messages).all fun trigger => !trigger.isGoal

/-- The triggers of an aimless inbox have no goals. -/
theorem goal_of_isAimless {inbox : Inbox V} (aimless : inbox.isAimless = true)
    (category : Category) : ∀ trigger ∈ inbox.triggers category, trigger.goal? = none := by
  intro trigger member
  have among : trigger ∈ inbox.external ++ inbox.internal ++ inbox.messages := by
    cases category with
    | goal => cases member
    | external => exact List.mem_append_left _ (List.mem_append_left _ member)
    | internal => exact List.mem_append_left _ (List.mem_append_right _ member)
    | message => exact List.mem_append_right _ member
  have noGoal := List.all_eq_true.mp aimless trigger among
  simpa [Trigger.isGoal] using noGoal

/-- An aimless inbox stays so without a category. -/
theorem isAimless_without {inbox : Inbox V} (aimless : inbox.isAimless = true)
    (category : Category) : (inbox.without category).isAimless = true := by
  cases category <;> simp_all [isAimless, without]

end Inbox

/-- Whether an agent has no interceptors for goals, and goals reach it by adoption only. -/
def Agent.isPlain (agent : Agent V) : Bool :=
  agent.interceptors.goal.isEmpty && agent.inbox.isAimless

/-- Whether no goal waits among the triggers that a cycle has yet to sense. -/
def Phase.isAimless : Phase V → Bool
  | .sweeping inbox | .sensing inbox _ _ => inbox.isAimless
  | _ => true

/-- Whether a cycle broke off. -/
def Phase.isBroken : Phase V → Bool
  | .finished (.panicked _) => true
  | _ => false

/-- What a plain agent senses are the goals that it holds, or triggers without goals. -/
theorem offered_of_isAimless {agent : Agent V} {inbox : Inbox V}
    (noInterceptor : agent.interceptors.goal.isEmpty = true) (aimless : inbox.isAimless = true)
    (category : Category) :
    agent.interceptors.get category = [] ∧
        (if category = .goal then agent.goals.map .goal else inbox.triggers category) =
          agent.goals.map .goal ∨
      ∀ trigger ∈ if category = .goal then agent.goals.map .goal else inbox.triggers category,
        trigger.goal? = none := by
  by_cases goals : category = .goal
  · subst goals
    exact .inl ⟨List.isEmpty_iff.mp noInterceptor, if_pos rfl⟩
  · rw [if_neg goals]
    exact .inr (Inbox.goal_of_isAimless aimless category)

/-- A stride of a plain agent that takes up goals without plans makes no second plan for a goal. -/
theorem World.stride_exclusive (world : World V) {number : BirthNumber}
    (inside : number < world.agents.size) (phase : Phase V)
    (plain : (world.agent number).isPlain = true) (aimless : phase.isAimless = true)
    (calm : (world.stride number phase).2.isBroken = false)
    (anew : TakesUpAnew world (world.stride number phase).1 number
      (world.stride number phase).2.hand)
    (exclusive : world.Exclusive number phase.hand) :
    (world.stride number phase).1.Exclusive number (world.stride number phase).2.hand ∧
      (world.stride number phase).2.isAimless = true := by
  obtain ⟨noInterceptor, arrived⟩ := Bool.and_eq_true_iff.mp plain
  have strode := world.strode number phase
  generalize world.stride number phase = next at strode calm anew ⊢
  cases strode with
  | idles | passes | begins | parts | rests => exact ⟨exclusive, aimless⟩
  | sensed => exact ⟨exclusive, rfl⟩
  | turns after inbox _ drained =>
    have idle : world.Exclusive number [] := exclusive
    have closed := World.drain_closing_exclusive idle
    rw [drained] at closed
    exact ⟨closed anew, rfl⟩
  | wakes after inbox _ drained =>
    have idle : world.Exclusive number [] := exclusive
    have emptied := World.drain_exclusive idle
    rw [drained] at emptied
    have taken : inbox = (world.agent number).inbox := (congrArg Prod.snd drained).symm
    exact ⟨emptied anew, taken ▸ arrived⟩
  | sweepPanics | sensePanics | actingPanics | partingPanics => cases calm
  | sweeps inbox after swept =>
    have idle : world.Exclusive number [] := exclusive
    have kept := World.sweep_exclusive inside idle
    rw [swept] at kept
    exact ⟨kept, aimless⟩
  | senses inbox category steps acts after _ senses =>
    have idle : world.Exclusive number [] := exclusive
    have complete := World.senseTriggers_exclusive category
      (world.offered number inbox category) inside idle
    rw [senses] at complete
    exact ⟨complete (offered_of_isAimless noInterceptor aimless category) rfl,
      Inbox.isAimless_without aimless category⟩
  | concludes progress =>
    exact ⟨World.applyEffects_exclusive progress.effects inside exclusive anew, rfl⟩
  | takes steps progress => exact ⟨World.take_exclusive inside exclusive, rfl⟩
  | actingReturns script finished active pending steps progress turn action memory returned =>
    have stirs := Script.stirs_of_advance returned
    have stillInside := stirs.steady.lasting.frame.size ▸ inside
    exact ⟨World.kept_exclusive (progress.act world) active action memory stillInside
      (Exclusive.stirs exclusive stirs), rfl⟩
  | actingFails script finished active pending steps progress turn cause memory returned =>
    have stirs := Script.stirs_of_advance returned
    have stillInside := stirs.steady.lasting.frame.size ▸ inside
    have goals := (stirs.holdings number).2.1
    exact ⟨World.failed_exclusive (progress.act world) active stillInside
      (Exclusive.stirs exclusive stirs) (anew.congr goals rfl rfl), rfl⟩
  | actingGoesOn script finished active pending steps progress turn wait rest blocked
  | partingGoesOn script finished pending effects actions turn wait rest blocked =>
    exact ⟨Exclusive.stirs exclusive (Script.stirs_of_advance blocked), rfl⟩
  | retires effects actions => exact ⟨World.retire_exclusive inside, rfl⟩
  | partingReturns script finished pending effects actions turn action memory returned
  | partingFails script finished pending effects actions turn cause memory returned =>
    exact ⟨Exclusive.stirs exclusive (Script.stirs_of_advance returned), rfl⟩

namespace Solo

/-- One step of a run of an agent in which none of its cycles panics. -/
inductive Step (number : BirthNumber) : World V × Phase V → World V × Phase V → Prop where
  /-- The world around the agent changes: other agents go on, something arrives at the agent, its
  contexts change. As only this agent uses the handles of its goals, the flags of the goals that it
  has plans for stay as they are. -/
  | surround {world next : World V} (phase : Phase V) (inside : number < next.agents.size)
      (agent : ∃ inbox contexts,
        next.agent number = { world.agent number with inbox, contexts })
      (flags : ∀ goal ∈ world.targets number phase.hand,
        next.pursuit.isPursued goal = world.pursuit.isPursued goal) :
      Step number (world, phase) (next, phase)
  /-- The agent begins another cycle. -/
  | begin (world : World V) {phase : Phase V} (between : phase.isBusy = false) :
      Step number (world, phase) (world, .waking)
  | stride (world : World V) (phase : Phase V)
      (calm : (world.stride number phase).2.isBroken = false) :
      Step number (world, phase) (world.stride number phase)

/-- What a run of an agent reaches, when it takes only the steps that are admitted. The agent starts
without goals; it has no interceptors for goals, and goals reach it by adoption only. -/
inductive Reachable (admitted : World V × Phase V → World V × Phase V → Prop)
    (number : BirthNumber) : World V × Phase V → Prop where
  | start {world : World V} (inside : number < world.agents.size)
      (created : ∃ id design scheduler connected,
        world.agent number = Agent.ofBlueprint id (Design.build design) scheduler connected)
      (plain : (world.agent number).isPlain = true) :
      Reachable admitted number (world, .waking)
  | step {before after : World V × Phase V} (reachable : Reachable admitted number before)
      (step : Step number before after) (admits : admitted before after)
      (plain : (after.1.agent number).isPlain = true) : Reachable admitted number after

/-- A step that takes up no goal while a plan for it is live. -/
def Anew (number : BirthNumber) (before after : World V × Phase V) : Prop :=
  World.TakesUpAnew before.1 after.1 number after.2.hand

instance (number : BirthNumber) (before after : World V × Phase V) :
    Decidable (Anew number before after) :=
  inferInstanceAs (Decidable (World.TakesUpAnew before.1 after.1 number after.2.hand))

/-- What every step keeps. -/
structure Sound (number : BirthNumber) (state : World V × Phase V) : Prop where
  inside : number < state.1.agents.size
  plain : (state.1.agent number).isPlain = true
  aimless : state.2.isAimless = true
  exclusive : state.1.Exclusive number state.2.hand

variable {number : BirthNumber} {before after : World V × Phase V}

/-- A step that takes up no goal with a live plan keeps the goals exclusive. -/
theorem Step.sound (step : Step number before after) (anew : Anew number before after)
    (plain : (after.1.agent number).isPlain = true) (sound : Sound number before) :
    Sound number after := by
  cases step with
  | @surround world next phase inside agent flags =>
    obtain ⟨inbox, contexts, changed⟩ := agent
    exact
      { inside, plain, aimless := sound.aimless
        exclusive := sound.exclusive.congr (by rw [changed]) (by rw [changed]) flags }
  | @begin world phase between =>
    have empty : phase.hand = [] := by
      cases phase with
      | waking | finished => rfl
      | _ => cases between
    have exclusive := sound.exclusive
    simp only [empty] at exclusive
    exact { inside := sound.inside, plain, aimless := rfl, exclusive }
  | stride world phase calm =>
    obtain ⟨exclusive, aimless⟩ := world.stride_exclusive sound.inside phase sound.plain
      sound.aimless calm anew sound.exclusive
    exact
      { inside := (world.stride_moves number phase).frame.size ▸ sound.inside, plain, aimless,
        exclusive }

namespace Reachable

variable {state : World V × Phase V}

/-- Whatever such a run reaches has its goals to itself. -/
theorem sound (reachable : Reachable (Anew number) number state) : Sound number state := by
  induction reachable with
  | @start world inside created plain =>
    obtain ⟨id, design, scheduler, connected, isNew⟩ := created
    refine { inside, plain, aimless := rfl, exclusive := ?_ }
    have targets : world.targets number [] = [] := by
      unfold World.targets
      rw [isNew, List.append_nil]
      exact target_detached _
    refine { goals := ?_, plans := ?_, flagged := fun goal held => ?_ }
    · rw [isNew]
      exact List.nodup_nil
    · exact targets ▸ List.nodup_nil
    · rw [isNew] at held
      cases held
  | step _ step admits plain ih => exact step.sound admits plain ih

/-- A run may take more steps when more of them are admitted. -/
theorem mono {admitted others : World V × Phase V → World V × Phase V → Prop}
    (reachable : Reachable admitted number state)
    (wider : ∀ before after, admitted before after → others before after) :
    Reachable others number state := by
  induction reachable with
  | start inside created plain => exact .start inside created plain
  | step _ step admits plain ih => exact ih.step step (wider _ _ admits) plain

/-- In a run without panics in which no goal is taken up while a plan for it is live, an agent that
has its goals to itself never has two plans for a goal. -/
theorem one_plan_per_goal (reachable : Reachable (Anew number) number state) (goal : GoalId) :
    ((state.1.agent number).plansFor goal).length ≤ 1 := by
  have plans := reachable.sound.exclusive.plans
  unfold World.targets at plans
  rw [List.filterMap_append] at plans
  exact Agent.length_plansFor_le_one plans.of_append_left goal

end Reachable

/-- What the cycles of other agents do, and what arrives, is no more than a change of the
surroundings. -/
theorem Step.of_moves {world next : World V} {other : BirthNumber} (phase : Phase V)
    (moves : Moves Agent.Lasting other world next) (different : number ≠ other)
    (inside : number < world.agents.size)
    (flags : ∀ goal ∈ world.targets number phase.hand,
      next.pursuit.isPursued goal = world.pursuit.isPursued goal) :
    Step number (world, phase) (next, phase) := by
  obtain ⟨inbox, changed⟩ := moves.other different
  exact .surround phase (moves.frame.size ▸ inside) ⟨inbox, _, changed⟩ flags

/-- An arrival is a step of the run. -/
theorem Step.arrive (world : World V) (phase : Phase V) (arrival : Arrival V)
    (inside : number < world.agents.size) :
    Step number (world, phase) (world.arrive number arrival, phase) :=
  .of_moves phase (.single (.arrive world number arrival)) (Nat.ne_of_lt number.lt_succ_self) inside
    fun _ _ => by rw [World.pursuit_arrive]

/-- A change of the contexts is a step of the run. -/
theorem Step.tune (world : World V) (phase : Phase V) (contexts : Contexts V.Object)
    (inside : number < world.agents.size) :
    Step number (world, phase)
      (world.modifyAgent number fun agent => { agent with contexts }, phase) :=
  .surround phase (by simpa using inside) ⟨_, _, World.agent_modifyAgent_self world _ inside⟩
    fun _ _ => rfl

/-! ### Runs stride by stride -/

/-- Make a number of strides. -/
def walk (number : BirthNumber) : Nat → World V × Phase V → World V × Phase V
  | 0, state => state
  | strides + 1, state => walk number strides (state.1.stride number state.2)

/-- Whether strides do not panic, are admitted and leave the agent plain. -/
def isSmooth (admits : World V × Phase V → World V × Phase V → Bool) (number : BirthNumber) :
    Nat → World V × Phase V → Bool
  | 0, _ => true
  | strides + 1, state =>
    let next := state.1.stride number state.2
    !next.2.isBroken && admits state next && (next.1.agent number).isPlain &&
      isSmooth admits number strides next

/-- A run goes on for a number of smooth strides. -/
theorem Reachable.walk {admitted : World V × Phase V → World V × Phase V → Prop}
    [DecidableRel admitted] {state : World V × Phase V}
    (reachable : Reachable admitted number state) (strides : Nat)
    (smooth : isSmooth (fun before after => decide (admitted before after)) number strides state =
      true) :
    Reachable admitted number (walk number strides state) := by
  induction strides generalizing state with
  | zero => exact reachable
  | succ strides ih =>
    simp only [isSmooth, Bool.and_eq_true, Bool.not_eq_true', decide_eq_true_eq] at smooth
    obtain ⟨⟨⟨calm, admits⟩, plain⟩, later⟩ := smooth
    exact ih (reachable.step (.stride _ _ calm) admits plain) later

end Solo

/-! ## A goal that is taken up while its plan is live -/

namespace Market

/-- A goal that is reached with the first sale. -/
def errand : GoalHandle vocabulary := { id := ⟨0⟩, goal := Aim.sales 1 }

/-- The contexts of a trader with a number of sales. -/
def salesBooked (sold : UInt32) : Contexts Book :=
  Contexts.empty.register [bookCapability]
    { reservation := 0, maxPrice := 1, sold
      random := { key := Vector.replicate 8 0, position := 0 } }

/-- A seeker without sales. -/
def beginner : World vocabulary :=
  let world := World.new { poolSize := 1, seed := none, unitTimeout := none } (.new none)
  (world.create (AgentId.ofNat 1) { seeker with contexts := salesBooked 0 } none false).1

/-- The agent has another number of sales. -/
def rebooked (world : World vocabulary) (sold : UInt32) : World vocabulary :=
  world.modifyAgent 0 fun agent => { agent with contexts := salesBooked sold }

/-- The cycle in which the seeker makes a plan for the errand. -/
def pursuing : World vocabulary × Phase vocabulary :=
  Solo.walk 0 11 (beginner.arrive 0 (.goal errand), .waking)

/-- The cycle in which the errand is achieved. It is dropped, and its plan goes on. -/
def released : World vocabulary × Phase vocabulary :=
  Solo.walk 0 11 (rebooked pursuing.1 1, .waking)

/-- The cycle for which the errand is undone and taken up once more. -/
def rivals : World vocabulary × Phase vocabulary :=
  Solo.walk 0 13 ((rebooked released.1 0).arrive 0 (.goal errand), .waking)

end Market

namespace Solo

open Market

/-- A run in which the seeker achieves its errand takes up no goal while a plan for it is live. -/
theorem reachable_released : Reachable (Anew 0) 0 released := by
  have start : Reachable (Anew 0) 0 (beginner, .waking) :=
    .start (by decide) ⟨_, _, _, _, rfl⟩ rfl
  have pursues : Reachable (Anew 0) 0 pursuing :=
    (start.step (.arrive _ _ _ (by decide)) (by decide) rfl).walk 11 (by decide +kernel)
  have awake : Reachable (Anew 0) 0 (rebooked pursuing.1 1, .waking) :=
    (pursues.step (.tune _ _ _ (by decide +kernel)) (by decide +kernel) (by decide +kernel)).step
      (.begin _ (by decide +kernel)) (by decide +kernel) (by decide +kernel)
  exact awake.walk 11 (by decide +kernel)

/-- The errand is achieved and dropped, and there is still one plan for it. -/
theorem Reachable.one_plan_per_goal_released :
    Reachable (Anew 0) 0 released ∧ released.2.isBusy = false ∧
      (released.1.agent 0).holds errand = false ∧
      ((released.1.agent 0).plansFor errand.id).length ≠ 0 ∧
      ((released.1.agent 0).plansFor errand.id).length ≤ 1 :=
  ⟨reachable_released, by decide +kernel, by decide +kernel, by decide +kernel,
    reachable_released.one_plan_per_goal errand.id⟩

/-- A goal that is taken up while its plan is live gets a second one: the flag went with the goal
when it was achieved. -/
theorem Reachable.rivals_for_errand :
    Reachable (fun _ _ => True) 0 rivals ∧ rivals.2.isBusy = false ∧
      ((rivals.1.agent 0).plansFor errand.id).length = 2 := by
  have achieved : Reachable (fun _ _ => True) 0 released :=
    reachable_released.mono fun _ _ _ => trivial
  have undone := achieved.step (.tune _ _ (salesBooked 0) (by decide +kernel)) trivial
    (by decide +kernel)
  have sent := undone.step (.arrive _ _ (.goal errand) (by decide +kernel)) trivial
    (by decide +kernel)
  have awake := sent.step (.begin _ (by decide +kernel)) trivial (by decide +kernel)
  exact ⟨awake.walk 13 (by decide +kernel), by decide +kernel, by decide +kernel⟩

end Solo

end Deliberation
