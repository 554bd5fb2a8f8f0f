import Deliberation.Proofs.Breakage
import Deliberation.Proofs.Confinement
import Deliberation.Proofs.Deeds
import Deliberation.Proofs.Selection

/-!
# Agents that have nothing to do

An agent has nothing left to do when no plan is left, nothing waits in the inbox, the goals that are
held are not achieved, no interceptor fires on them, and the schemes make nothing of those that are
not pursued (`Agent.Asleep`). A cycle that begins there leaves the world as it is
(`World.cycle_of_asleep`), and so does a cycle of an agent that is done (`World.cycle_of_done`).
-/

namespace Deliberation

variable {V : Vocabulary}

/-! ## Matching without hits -/

section

variable {view : View V} {pursuit : Pursuit} {triggers : List (Trigger V)}

/-- Interceptors that make no plans are left, and so is everything else. -/
theorem scanFrom_of_passes (interceptors : List (Interceptor V))
    (passes : ∀ interceptor ∈ interceptors, ∀ trigger ∈ triggers,
      interceptor.scheme.Passes pursuit view trigger)
    (scanned : List (Interceptor V × Bool)) (hits : List (Hit V)) :
    scanFrom view scanned hits triggers pursuit interceptors =
      { hits := hits.reverse, triggers, pursuit, broken := none,
        interceptors := (scanned.reverse.filter (!·.2)).map (·.1) ++ interceptors } := by
  induction interceptors generalizing scanned with
  | nil => simp [scanFrom]
  | cons interceptor rest ih =>
    obtain ⟨here, behind⟩ := List.forall_mem_cons.mp passes
    simp only [scanFrom, firstFiring_of_passes here, ih behind]
    simp

/-- Where a scan comes to no hits, no interceptor made a plan. -/
theorem passes_of_scanFrom {interceptors : List (Interceptor V)}
    {scanned : List (Interceptor V × Bool)}
    (complete : (scanFrom view scanned [] triggers pursuit interceptors).broken = none)
    (silent : (scanFrom view scanned [] triggers pursuit interceptors).hits = []) :
    ∀ interceptor ∈ interceptors, ∀ trigger ∈ triggers,
      interceptor.scheme.Passes pursuit view trigger := by
  induction interceptors generalizing scanned with
  | nil => simp
  | cons interceptor rest ih =>
    rcases firstFiring_tried pursuit view interceptor.scheme triggers with
      ⟨panic, broken⟩ | here | ⟨before, trigger, after, plan, rfl, first, grants⟩
    · simp [scanFrom, broken] at complete
    · simp only [scanFrom, firstFiring_of_passes here] at complete silent
      exact List.forall_mem_cons.mpr ⟨here, ih complete silent⟩
    · simp only [scanFrom, firstFiring_of_grants first grants] at silent
      exact (List.eq_nil_iff_forall_not_mem.mp silent _
        (scanFrom_hits view _ _ _ _ rest _ List.mem_cons_self)).elim

/-- Triggers that are skipped, or that no scheme makes a plan of, leave everything as it is. -/
theorem matchFrom_of_passes {schemes : List (Scheme V)}
    (passes : ∀ trigger ∈ triggers, trigger.isPursuedGoal pursuit = true ∨
      ∀ scheme ∈ schemes, scheme.Passes pursuit view trigger) (hits : List (Hit V)) :
    matchFrom view hits pursuit schemes triggers =
      { hits := hits.reverse, schemes, pursuit, broken := none } := by
  induction triggers with
  | nil => rfl
  | cons trigger rest ih =>
    obtain ⟨here, behind⟩ := List.forall_mem_cons.mp passes
    cases offered : trigger.isPursuedGoal pursuit with
    | true => simp only [matchFrom, offered, if_true, ih behind]
    | false =>
      have missed := here.resolve_left (by simp [offered])
      simp only [matchFrom, offered, Bool.false_eq_true, if_false, firstPlan_of_passes missed,
        ih behind]

/-- Where matching comes to no hits, every trigger was skipped, or no scheme made a plan of it. -/
theorem passes_of_matchFrom {schemes : List (Scheme V)}
    (complete : (matchFrom view [] pursuit schemes triggers).broken = none)
    (silent : (matchFrom view [] pursuit schemes triggers).hits = []) :
    ∀ trigger ∈ triggers, trigger.isPursuedGoal pursuit = true ∨
      ∀ scheme ∈ schemes, scheme.Passes pursuit view trigger := by
  induction triggers with
  | nil => simp
  | cons trigger rest ih =>
    cases offered : trigger.isPursuedGoal pursuit with
    | true =>
      simp only [matchFrom, offered, if_true] at complete silent
      exact List.forall_mem_cons.mpr ⟨.inl offered, ih complete silent⟩
    | false =>
      rcases firstPlan_tried pursuit view trigger schemes with
        here | ⟨before, scheme, after, rfl, first, ⟨panic, panics⟩ | ⟨plan, grants⟩⟩
      · simp only [matchFrom, offered, Bool.false_eq_true, if_false, firstPlan_of_passes here]
          at complete silent
        exact List.forall_mem_cons.mpr ⟨.inr here, ih complete silent⟩
      · simp [matchFrom, offered, firstPlan_of_panics first panics] at complete
      · simp only [matchFrom, offered, Bool.false_eq_true, if_false,
          firstPlan_of_grants first grants] at silent
        exact (List.eq_nil_iff_forall_not_mem.mp silent _
          (matchFrom_hits view _ _ _ rest _ List.mem_cons_self)).elim

end

/-! ## Agents that have nothing to do -/

/-- No goal that an agent holds is achieved. -/
def Agent.Unachieved (agent : Agent V) : Prop :=
  ∀ handle ∈ agent.goals, V.holds handle.goal agent.contexts = .ok false

/-- No interceptor fires on a trigger, and no scheme makes a plan of it unless it is skipped. -/
def Agent.Ignores (agent : Agent V) (pursuit : Pursuit) (category : Category)
    (trigger : Trigger V) : Prop :=
  (∀ interceptor ∈ agent.interceptors.get category,
    interceptor.scheme.Passes pursuit agent.view trigger) ∧
  (trigger.isPursuedGoal pursuit = true ∨
    ∀ scheme ∈ agent.schemes.get category, scheme.Passes pursuit agent.view trigger)

/-- A goal step makes nothing of the goals that an agent holds. -/
def Agent.Rests (agent : Agent V) (pursuit : Pursuit) : Prop :=
  ∀ handle ∈ agent.goals, agent.Ignores pursuit .goal (.goal handle)

/-- An agent has nothing left to do. -/
structure Agent.Asleep (agent : Agent V) (pursuit : Pursuit) : Prop where
  inbox : agent.inbox = Inbox.empty
  stopping : agent.stopping = false
  plans : agent.plans = []
  unachieved : agent.Unachieved
  rests : .goal ∈ agent.senseSteps → agent.Rests pursuit

/-- The schemes of an agent, and those of its interceptors, are functions of the trigger, the flags
and the view: what flags the same is the same to them. -/
structure Agent.Candid (agent : Agent V) : Prop where
  schemes : ∀ category, ∀ scheme ∈ agent.schemes.get category, scheme.Within fun _ => True
  interceptors : ∀ category, ∀ interceptor ∈ agent.interceptors.get category,
    interceptor.scheme.Within fun _ => True

/-- Setting a category to what it has changes nothing. -/
theorem PerCategory.set_get {α : Type} (family : PerCategory α) (category : Category) :
    family.set category (family.get category) = family := by
  cases category <;> rfl

/-- A check of goals of which none is achieved drops none. -/
theorem sweepGoals_of_unachieved {contexts : Contexts V.Object} {goals : List (GoalHandle V)}
    (unachieved : ∀ handle ∈ goals, V.holds handle.goal contexts = .ok false) (pursuit : Pursuit) :
    sweepGoals contexts pursuit goals = (goals, pursuit, none) := by
  induction goals with
  | nil => rfl
  | cons handle rest ih =>
    obtain ⟨here, behind⟩ := List.forall_mem_cons.mp unachieved
    simp only [sweepGoals, here, ih behind]

/-- What is left when achieved goals are dropped is not achieved. -/
theorem unachieved_of_sweepGoals {contexts : Contexts V.Object} {pursuit : Pursuit}
    {goals : List (GoalHandle V)} (complete : (sweepGoals contexts pursuit goals).2.2 = none) :
    ∀ handle ∈ (sweepGoals contexts pursuit goals).1, V.holds handle.goal contexts = .ok false := by
  fun_induction sweepGoals contexts pursuit goals with
  | case1 => simp
  | case2 => cases complete
  | case3 pursuit handle rest _ ih => exact ih complete
  | case4 pursuit handle rest missed kept after panic swept ih =>
    rw [swept] at ih
    exact List.forall_mem_cons.mpr ⟨missed, ih complete⟩

namespace World

variable {world : World V} {number : BirthNumber}

/-- Draining an empty inbox changes nothing. -/
theorem drain_of_empty (empty : (world.agent number).inbox = Inbox.empty) :
    world.drain number = (world, Inbox.empty) := by
  have kept : ({ world.agent number with inbox := Inbox.empty } : Agent V) =
      world.agent number := by
    rw [← empty]
  unfold drain
  rw [empty]
  refine Prod.ext (modifyAgent_of_eq ?_) rfl
  simp only [kept]
  simp [Inbox.empty]

/-- An agent none of whose goals is achieved drops none. -/
theorem sweep_of_unachieved (unachieved : (world.agent number).Unachieved) :
    world.sweep number = (world, none) := by
  simp only [sweep, sweepGoals_of_unachieved unachieved]
  exact Prod.ext (modifyAgent_of_eq rfl) rfl

/-- A sense step that makes nothing of its triggers leaves the world as it is. -/
theorem senseTriggers_of_ignores {category : Category} {triggers : List (Trigger V)}
    (ignores : ∀ trigger ∈ triggers,
      (world.agent number).Ignores world.pursuit category trigger) :
    world.senseTriggers number category triggers = (world, none) := by
  have scanned := scanFrom_of_passes ((world.agent number).interceptors.get category)
    (fun interceptor member trigger inside => (ignores trigger inside).1 interceptor member) [] []
  have found := matchFrom_of_passes (fun trigger inside => (ignores trigger inside).2) []
  have interceptors : (world.modifyAgent number fun agent =>
      { agent with
        interceptors := agent.interceptors.set category
          ((world.agent number).interceptors.get category) }) = world :=
    modifyAgent_of_eq (by rw [PerCategory.set_get])
  have schemes : (world.modifyAgent number fun agent =>
      { agent with
        schemes := agent.schemes.set category ((world.agent number).schemes.get category) }) =
      world :=
    modifyAgent_of_eq (by rw [PerCategory.set_get])
  have plans : (world.modifyAgent number fun agent =>
      { agent with plans := agent.plans ++ activated [] }) = world :=
    modifyAgent_of_eq (by simp [activated])
  simp only [List.reverse_nil, List.filter_nil, List.map_nil, List.nil_append] at scanned found
  simp only [senseTriggers, scanInterceptors, scanned, matchSchemes, interceptors, found, schemes,
    List.append_nil, plans]

/-- A sense step that adds no plans made nothing of its triggers. -/
theorem ignores_of_senseTriggers {after : World V} {category : Category}
    {triggers : List (Trigger V)} (inside : number < world.agents.size)
    (senses : world.senseTriggers number category triggers = (after, none))
    (idle : (after.agent number).plans = (world.agent number).plans) :
    ∀ trigger ∈ triggers, (world.agent number).Ignores world.pursuit category trigger := by
  have complete : (world.senseTriggers number category triggers).2 = none := by rw [senses]
  have plans := (senseTriggers_complete category triggers inside complete).2.2
  rw [senses, idle, List.self_eq_append_right, activated, List.map_eq_nil_iff, sensedHits,
    List.append_eq_nil_iff] at plans
  obtain ⟨unfired, unmatched⟩ := plans
  have unbroken : (world.intercepted number category triggers).broken = none ∧
      (world.matched number category triggers).broken = none := by
    simp only [senseTriggers] at complete
    split at complete
    · cases complete
    · rename_i scanned
      split at complete
      · cases complete
      · rename_i found
        exact ⟨scanned, found⟩
  have passes := passes_of_scanFrom unbroken.1 unfired
  have scanned : world.intercepted number category triggers = _ := scanFrom_of_passes _ passes [] []
  unfold matched at unbroken unmatched
  rw [scanned] at unbroken unmatched
  have unmade := passes_of_matchFrom unbroken.2 unmatched
  exact fun trigger member =>
    ⟨fun interceptor offered => passes interceptor offered trigger member,
      unmade trigger member⟩

/-- Sense steps of an agent at rest. -/
theorem sense_of_rests (steps : List SenseStep)
    (rests : .goal ∈ steps → (world.agent number).Rests world.pursuit) :
    sense number world Inbox.empty steps = (world, none) := by
  induction steps with
  | nil => rfl
  | cons category steps ih =>
    have later := ih fun member => rests (List.mem_cons_of_mem _ member)
    cases category with
    | external | internal | message => simpa [sense] using later
    | goal =>
      have ignores : ∀ trigger ∈ (world.agent number).goals.map Trigger.goal,
          (world.agent number).Ignores world.pursuit .goal trigger :=
        List.forall_mem_map.mpr (rests List.mem_cons_self)
      simp only [sense, if_true, senseTriggers_of_ignores ignores]
      split <;> exact later

/-- Act steps of an agent without plans. -/
theorem run_of_planless (act : Act V) (planless : (act.world.agent number).plans = [])
    (deadline : Option Nat) (steps : List ActStep) :
    act.run number deadline steps = .completed act := by
  have kept : (act.world.modifyAgent number fun agent => { agent with plans := [] }) = act.world :=
    modifyAgent_of_eq (by rw [← planless])
  induction steps with
  | nil => rfl
  | cons step steps ih =>
    simp only [Act.run, planless, kept, Act.executePlans]
    exact ih

/-- An act stage without executions asks for no other cycle. -/
theorem conclude_of_asleep (asleep : (world.agent number).Asleep world.pursuit) :
    conclude number (.completed (Act.begin world)) = .ended world (.acted [] false) := by
  simp only [conclude, Act.begin, applyEffects_none, asleep.plans, asleep.stopping, asleep.inbox]
  rfl

/-- A cycle of an agent that has nothing to do leaves the world as it is. -/
theorem cycle_of_asleep (asleep : (world.agent number).Asleep world.pursuit)
    (deadline : Option Nat) : world.cycle number deadline = .ended world (.acted [] false) := by
  unfold cycle
  split
  · rfl
  · have acts := run_of_planless (Act.begin world) asleep.plans deadline
    simp only [drain_of_empty asleep.inbox, asleep.stopping, Bool.false_eq_true, if_false,
      deliberate, sweep_of_unachieved asleep.unachieved, sense_of_rests _ asleep.rests]
    exact (congrArg (conclude number) (acts _)).trans (conclude_of_asleep asleep)

/-- A cycle of an agent that is done leaves the world as it is. -/
theorem cycle_of_done (isDone : (world.agent number).done = true) (deadline : Option Nat) :
    world.cycle number deadline = .ended world (.acted [] false) := by
  unfold cycle
  rw [if_pos isDone]

end World

end Deliberation
