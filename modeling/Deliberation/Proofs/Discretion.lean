import Deliberation.Proofs.Confinement
import Deliberation.Proofs.Deeds

/-!
# Discreet agents

Whether a cycle is confined depends on all it may come to. It is so when its agent is discreet: the
scripts of its plans neither send nor reach, whatever they are told, they adopt goals of the agent
only, and what they adopt or register is discreet again; the schemes look at no flag of another
agent. A stride keeps an agent discreet (`World.stride_discreet`), so all of its cycle is confined
(`World.Keeps.of_discreet`).
-/

namespace Deliberation

open Relation

variable {V : Vocabulary} {own : GoalId → Prop}

/-! ## Scripts, plans and schemes -/

/-- A plan that a scheme may make. -/
def Scheme.Makes : Scheme V → Plan V → Prop
  | rule _ attempt, plan => ∃ pursuit view trigger, attempt pursuit view trigger = .ok (some plan)
  | oneShot _ _ make _, plan => ∃ trigger, make trigger = plan

/-- Whatever it is told, a script concerns its own agent only. -/
inductive Script.Discreet (own : GoalId → Prop) : Script V → Prop where
  | done (result : Except PlanError (Option V.Action)) (memory : Nat) :
      Discreet own (.done result memory)
  | panic (cause : Panic) : Discreet own (.panic cause)
  | finish {next : Script V} (later : Discreet own next) : Discreet own (.finish next)
  | isFinished {next : Bool → Script V} (later : ∀ finished, Discreet own (next finished)) :
      Discreet own (.isFinished next)
  | observe {next : View V → Script V} (later : ∀ view, Discreet own (next view)) :
      Discreet own (.observe next)
  | change (capability : Capability) (update : V.Object → V.Object) {next : Script V}
      (later : Discreet own next) : Discreet own (.change capability update next)
  | raise (payload : Payload) {next : Script V} (later : Discreet own next) :
      Discreet own (.raise payload next)
  | adoptGoal {handle : GoalHandle V} {next : Script V} (isOwn : own handle.id)
      (later : Discreet own next) : Discreet own (.adoptGoal handle next)
  | adoptPlan {plan : Plan V} {next : Script V}
      (plans : ∀ memory, Discreet own (plan.step memory)) (later : Discreet own next) :
      Discreet own (.adoptPlan plan next)
  | requestStop {next : Script V} (later : Discreet own next) : Discreet own (.requestStop next)
  | nameInterceptor (name : String) {next : InterceptorId → Script V}
      (later : ∀ id, Discreet own (next id)) : Discreet own (.nameInterceptor name next)
  | interceptorNamed (name : String) {next : Option InterceptorId → Script V}
      (later : ∀ id?, Discreet own (next id?)) : Discreet own (.interceptorNamed name next)
  | addInterceptor (category : Category) {interceptor : Interceptor V} {next : Script V}
      (within : interceptor.scheme.Within own)
      (makes : ∀ plan, interceptor.scheme.Makes plan → ∀ memory, Discreet own (plan.step memory))
      (later : Discreet own next) : Discreet own (.addInterceptor category interceptor next)
  | removeInterceptor (category : Category) (id : InterceptorId) {next : Bool → Script V}
      (later : ∀ registered, Discreet own (next registered)) :
      Discreet own (.removeInterceptor category id next)
  | note (entry : V.Note) {next : Script V} (later : Discreet own next) :
      Discreet own (.note entry next)
  | await (gate : String) {next : Script V} (later : Discreet own next) :
      Discreet own (.await gate next)
  | sleep (milliseconds : Nat) {next : Script V} (later : Discreet own next) :
      Discreet own (.sleep milliseconds next)

/-- All executions of a plan are discreet. -/
def Plan.Discreet (own : GoalId → Prop) (plan : Plan V) : Prop :=
  ∀ memory, (plan.step memory).Discreet own

/-- A scheme looks at no flag of another agent, and the plans that it may make are discreet. -/
structure Scheme.Discreet (own : GoalId → Prop) (scheme : Scheme V) : Prop where
  within : scheme.Within own
  makes : ∀ plan, scheme.Makes plan → plan.Discreet own

/-- An active plan is discreet and for no goal of another agent. -/
structure ActivePlan.Discreet (own : GoalId → Prop) (active : ActivePlan V) : Prop where
  within : active.Within own
  plan : active.plan.Discreet own

/-- A discreet plan is discreet when it is active without a goal. -/
theorem ActivePlan.Discreet.detached {plan : Plan V} (discreet : plan.Discreet own) :
    (ActivePlan.detached plan).Discreet own where
  within := by
    intro handle held
    cases held
  plan := discreet

/-- A script that is discreet has a confined operation before it. -/
theorem Script.Discreet.confined {script : Script V} (discreet : script.Discreet own)
    (world : World V) (number : BirthNumber) : script.Confined world number := by
  cases discreet <;> trivial

/-! ### Matching -/

/-- A plan that matching came up with is discreet, and its trigger is no goal of another agent. -/
structure Hit.Discreet (own : GoalId → Prop) (hit : Hit V) : Prop where
  within : hit.trigger.Within own
  plan : hit.plan.Discreet own

/-- The active plans of discreet hits are discreet. -/
theorem activated_discreet {hits : List (Hit V)} (discreet : ∀ hit ∈ hits, hit.Discreet own) :
    ∀ active ∈ activated hits, active.Discreet own := by
  intro active member
  obtain ⟨hit, listed, rfl⟩ := List.mem_map.mp member
  exact ⟨(discreet hit listed).within, (discreet hit listed).plan⟩

/-- A discreet scheme makes a discreet plan if any, and stays discreet. -/
theorem Scheme.Discreet.instantiate {scheme used : Scheme V} (discreet : scheme.Discreet own)
    {pursuit : Pursuit} {view : View V} {trigger : Trigger V} {plan? : Option (Plan V)}
    (made : scheme.instantiate pursuit view trigger = .ok (plan?, used)) :
    used.Discreet own ∧ ∀ plan, plan? = some plan → plan.Discreet own := by
  have within := within_instantiate discreet.within made
  cases scheme with
  | rule name attempt =>
    simp only [Scheme.instantiate, bind, Except.bind] at made
    split at made
    · cases made
    · rename_i attempted
      cases made
      refine ⟨discreet, fun plan same => ?_⟩
      subst same
      exact discreet.makes plan ⟨pursuit, view, trigger, attempted⟩
  | oneShot name selects make spent =>
    simp only [Scheme.instantiate, bind, Except.bind] at made
    split at made
    · cases made
    · split at made
      · cases made
        refine ⟨⟨within, discreet.makes⟩, fun plan same => ?_⟩
        cases same
        exact discreet.makes _ ⟨trigger, rfl⟩
      · cases made
        refine ⟨discreet, fun plan same => ?_⟩
        cases same

/-- A discreet scheme that fires stays discreet, and its plan is discreet. -/
theorem firstFiring_discreet {scheme : Scheme V} (discreet : scheme.Discreet own)
    {pursuit : Pursuit} {view : View V} {triggers : List (Trigger V)} {firing : Firing V}
    (fires : firstFiring pursuit view scheme triggers = .ok (some firing)) :
    firing.scheme.Discreet own ∧ firing.plan.Discreet own := by
  induction triggers generalizing scheme firing with
  | nil => cases fires
  | cons trigger rest ih =>
    simp only [firstFiring, bind, Except.bind] at fires
    split at fires
    · cases fires
    · rename_i made
      split at fires
      · cases fires
        exact ⟨(discreet.instantiate made).1, (discreet.instantiate made).2 _ rfl⟩
      · split at fires
        · cases fires
        · rename_i found? searched
          cases found : found? with
          | none =>
            rw [found] at fires
            cases fires
          | some later =>
            rw [found] at fires searched
            cases fires
            have later := ih discreet searched
            exact later

/-- Discreet schemes stay discreet, and the plan that one of them makes is discreet. -/
theorem firstPlan_discreet {schemes used : List (Scheme V)}
    (discreet : ∀ scheme ∈ schemes, scheme.Discreet own) {pursuit : Pursuit} {view : View V}
    {trigger : Trigger V} {found : Option (String × Plan V)}
    (made : firstPlan pursuit view trigger schemes = .ok (found, used)) :
    (∀ scheme ∈ used, scheme.Discreet own) ∧
      ∀ named, found = some named → named.2.Discreet own := by
  induction schemes generalizing used found with
  | nil =>
    cases made
    refine ⟨discreet, fun named same => ?_⟩
    cases same
  | cons scheme rest ih =>
    obtain ⟨here, behind⟩ := List.forall_mem_cons.mp discreet
    simp only [firstPlan, bind, Except.bind] at made
    split at made
    · cases made
    · rename_i tried
      obtain ⟨kept, plan⟩ := here.instantiate tried
      split at made
      · cases made
        refine ⟨List.forall_mem_cons.mpr ⟨kept, behind⟩, fun named same => ?_⟩
        cases same
        exact plan _ rfl
      · split at made
        · cases made
        · rename_i later
          cases made
          obtain ⟨keptBehind, planBehind⟩ := ih behind later
          exact ⟨List.forall_mem_cons.mpr ⟨kept, keptBehind⟩, planBehind⟩

/-- A scan of discreet interceptors for own triggers gives discreet hits and leaves discreet
interceptors. -/
theorem scanFrom_discreet (view : View V) (scanned : List (Interceptor V × Bool))
    (hits : List (Hit V)) (triggers : List (Trigger V)) (pursuit : Pursuit)
    (interceptors : List (Interceptor V))
    (passed : ∀ entry ∈ scanned, entry.1.scheme.Discreet own)
    (made : ∀ hit ∈ hits, hit.Discreet own) (aims : ∀ trigger ∈ triggers, trigger.Within own)
    (discreet : ∀ interceptor ∈ interceptors, interceptor.scheme.Discreet own) :
    (∀ hit ∈ (scanFrom view scanned hits triggers pursuit interceptors).hits, hit.Discreet own) ∧
      ∀ interceptor ∈ (scanFrom view scanned hits triggers pursuit interceptors).interceptors,
        interceptor.scheme.Discreet own := by
  fun_induction scanFrom view scanned hits triggers pursuit interceptors with
  | case1 scanned hits =>
    refine ⟨fun hit member => made hit (List.mem_reverse.mp member), fun interceptor member => ?_⟩
    obtain ⟨entry, listed, rfl⟩ := List.mem_map.mp member
    exact passed entry (List.mem_reverse.mp (List.mem_of_mem_filter listed))
  | case2 scanned hits triggers pursuit interceptor rest panic fires =>
    refine ⟨fun hit member => made hit (List.mem_reverse.mp member), fun other member => ?_⟩
    rcases List.mem_append.mp member with before | behind
    · obtain ⟨entry, listed, rfl⟩ := List.mem_map.mp before
      exact passed entry (List.mem_reverse.mp listed)
    · exact discreet other behind
  | case3 scanned hits triggers pursuit interceptor rest fires ih =>
    obtain ⟨here, behind⟩ := List.forall_mem_cons.mp discreet
    exact ih (List.forall_mem_cons.mpr ⟨here, passed⟩) made aims behind
  | case4 scanned hits triggers pursuit interceptor rest firing fires left hit ih =>
    obtain ⟨here, behind⟩ := List.forall_mem_cons.mp discreet
    obtain ⟨scheme, plan⟩ := firstFiring_discreet here fires
    have aim : firing.trigger.Within own := by
      refine aims _ ?_
      rw [firstFiring_split _ _ _ _ fires]
      exact List.mem_append_right _ List.mem_cons_self
    exact ih (List.forall_mem_cons.mpr ⟨scheme, passed⟩)
      (List.forall_mem_cons.mpr ⟨⟨aim, plan⟩, made⟩)
      (fun trigger member => aims trigger (firstFiring_left fires _ trigger member)) behind

/-- Matching discreet schemes with own triggers gives discreet hits and leaves discreet schemes. -/
theorem matchFrom_discreet (view : View V) (hits : List (Hit V)) (pursuit : Pursuit)
    (schemes : List (Scheme V)) (triggers : List (Trigger V))
    (made : ∀ hit ∈ hits, hit.Discreet own) (aims : ∀ trigger ∈ triggers, trigger.Within own)
    (discreet : ∀ scheme ∈ schemes, scheme.Discreet own) :
    (∀ hit ∈ (matchFrom view hits pursuit schemes triggers).hits, hit.Discreet own) ∧
      ∀ scheme ∈ (matchFrom view hits pursuit schemes triggers).schemes,
        scheme.Discreet own := by
  fun_induction matchFrom view hits pursuit schemes triggers with
  | case1 | case3 => exact ⟨fun hit member => made hit (List.mem_reverse.mp member), discreet⟩
  | case2 hits pursuit schemes trigger rest _ ih =>
    exact ih made (List.forall_mem_cons.mp aims).2 discreet
  | case4 hits pursuit schemes trigger rest _ used found ih =>
    exact ih made (List.forall_mem_cons.mp aims).2 (firstPlan_discreet discreet found).1
  | case5 hits pursuit schemes trigger rest _ name plan used found ih =>
    obtain ⟨aim, aimsBehind⟩ := List.forall_mem_cons.mp aims
    obtain ⟨kept, makes⟩ := firstPlan_discreet discreet found
    exact ih (List.forall_mem_cons.mpr ⟨⟨aim, makes _ rfl⟩, made⟩) aimsBehind kept

/-! ## Agents -/

/-- The triggers in an inbox are no goals of other agents. -/
def Inbox.Within (own : GoalId → Prop) (inbox : Inbox V) : Prop :=
  ∀ category, ∀ trigger ∈ inbox.triggers category, trigger.Within own

/-- All that an agent is made of concerns the agent only. -/
structure Agent.Discreet (own : GoalId → Prop) (agent : Agent V) : Prop where
  arrived : ∀ handle ∈ agent.inbox.goals, own handle.id
  inbox : agent.inbox.Within own
  goals : ∀ handle ∈ agent.goals, own handle.id
  plans : ∀ active ∈ agent.plans, active.Discreet own
  schemes : ∀ category, ∀ scheme ∈ agent.schemes.get category, scheme.Discreet own
  interceptors : ∀ category, ∀ interceptor ∈ agent.interceptors.get category,
    interceptor.scheme.Discreet own
  shutdownPlans : ∀ plan ∈ agent.shutdownPlans, plan.Discreet own

/-- What plans have requested concerns their own agent only. -/
structure Effects.Discreet (own : GoalId → Prop) (effects : Effects V) : Prop where
  goals : ∀ handle ∈ effects.goals, own handle.id
  plans : ∀ plan ∈ effects.plans, plan.Discreet own

/-- What a cycle has in hand concerns its own agent only. -/
def Phase.Discreet (own : GoalId → Prop) : Phase V → Prop
  | .sweeping inbox | .sensing inbox .. => inbox.Within own
  | .planning pending _ progress =>
    (∀ active ∈ pending, active.Discreet own) ∧ progress.effects.Discreet own
  | .acting script _ active pending _ progress =>
    script.Discreet own ∧ active.Discreet own ∧ (∀ active ∈ pending, active.Discreet own) ∧
      progress.effects.Discreet own
  | .closing pending effects _ => (∀ plan ∈ pending, plan.Discreet own) ∧ effects.Discreet own
  | .parting script _ pending effects _ =>
    script.Discreet own ∧ (∀ plan ∈ pending, plan.Discreet own) ∧ effects.Discreet own
  | .waking | .finished _ => True

/-- Nothing foreign is in an empty inbox. -/
theorem Inbox.Within.empty : (Inbox.empty : Inbox V).Within own := by
  intro category trigger member
  cases category <;> cases member

/-- An inbox has nothing new when triggers are taken out of it. -/
theorem Inbox.Within.without {inbox : Inbox V} (within : inbox.Within own) (category : Category) :
    (inbox.without category).Within own := by
  intro other trigger member
  refine within other trigger ?_
  cases category <;> cases other <;> first | exact member | cases member

/-- No effects are discreet. -/
theorem Effects.Discreet.none : (Effects.none : Effects V).Discreet own :=
  ⟨fun _ member => absurd member List.not_mem_nil, fun _ member => absurd member List.not_mem_nil⟩

/-- What holds of all items of a family holds when one list was replaced by such items. -/
theorem PerCategory.forall_get_set {α : Type} {family : PerCategory (List α)} {holds : α → Prop}
    (before : ∀ category, ∀ item ∈ family.get category, holds item) {category : Category}
    {items : List α} (now : ∀ item ∈ items, holds item) :
    ∀ other, ∀ item ∈ (family.set category items).get other, holds item := by
  intro other
  by_cases same : other = category
  · subst same
    rw [get_set_self]
    exact now
  · rw [get_set_of_ne family items same]
    exact before other

/-- A discreet agent that adopts own goals stays discreet. -/
theorem Agent.Discreet.adoptAll {agent : Agent V} (discreet : agent.Discreet own)
    {handles : List (GoalHandle V)} (owned : ∀ handle ∈ handles, own handle.id) :
    (handles.foldl Agent.adopt agent).Discreet own := by
  induction handles generalizing agent with
  | nil => exact discreet
  | cons handle rest ih =>
    obtain ⟨here, behind⟩ := List.forall_mem_cons.mp owned
    refine ih ?_ behind
    unfold Agent.adopt
    split
    · exact discreet
    · refine { discreet with goals := fun held member => ?_ }
      rcases List.mem_append.mp member with before | new
      · exact discreet.goals held before
      · exact List.mem_singleton.mp new ▸ here

/-- What arrives is no goal of another agent. -/
def Arrival.Within (own : GoalId → Prop) : Arrival V → Prop
  | .external trigger | .internal trigger => trigger.Within own
  | .goal handle => own handle.id
  | .message _ | .stop | .nudge => True

/-- The trigger of an own arrival is about own goals. -/
theorem Arrival.Within.trigger {arrival : Arrival V} (within : arrival.Within own)
    {category : Category} {trigger : Trigger V}
    (arrived : arrival.trigger? category = some trigger) : trigger.Within own := by
  cases arrival with
  | external | internal =>
    simp only [Arrival.trigger?] at arrived
    split at arrived
    · cases arrived
      exact within
    · cases arrived
  | message =>
    simp only [Arrival.trigger?] at arrived
    split at arrived
    · cases arrived
      intro handle held
      cases held
    · cases arrived
  | goal | stop | nudge => cases arrived

/-- Discreet parts make a discreet agent. -/
theorem Agent.Discreet.ofBlueprint {blueprint : Blueprint V}
    (schemes : ∀ category, ∀ scheme ∈ blueprint.schemes.get category, scheme.Discreet own)
    (interceptors : ∀ category, ∀ interceptor ∈ blueprint.interceptors.get category,
      interceptor.scheme.Discreet own)
    (initialPlans : ∀ plan ∈ blueprint.initialPlans, plan.Discreet own)
    (shutdownPlans : ∀ plan ∈ blueprint.shutdownPlans, plan.Discreet own) (id : AgentId)
    (scheduler : Option Scheduler) (connected : Bool) :
    (Agent.ofBlueprint id blueprint scheduler connected).Discreet own where
  arrived := fun _ member => absurd member List.not_mem_nil
  inbox := .empty
  goals := fun _ member => absurd member List.not_mem_nil
  plans := by
    intro active member
    obtain ⟨plan, listed, rfl⟩ := List.mem_map.mp member
    exact .detached (initialPlans plan listed)
  schemes := schemes
  interceptors := interceptors
  shutdownPlans := shutdownPlans

/-- An agent stays discreet when nothing arrives that concerns others. -/
theorem Agent.Discreet.receive {agent : Agent V} (discreet : agent.Discreet own)
    {arrival : Arrival V} (within : arrival.Within own) :
    Agent.Discreet own { agent with inbox := agent.inbox.receive arrival } := by
  refine { discreet with arrived := fun handle member => ?_, inbox := ?_ }
  · cases arrival with
    | goal arrived =>
      rcases List.mem_append.mp member with before | new
      · exact discreet.arrived handle before
      · exact List.mem_singleton.mp new ▸ within
    | _ => exact discreet.arrived handle member
  · intro category trigger member
    rw [Inbox.triggers_receive] at member
    rcases List.mem_append.mp member with before | new
    · exact discreet.inbox category trigger before
    · exact within.trigger (Option.mem_toList.mp new)

namespace World

variable {world : World V} {number : BirthNumber}

/-- A property that a change of an agent gives it. -/
theorem agent_modifyAgent_of {holds : Agent V → Prop} {change : Agent V → Agent V}
    (before : holds (world.agent number)) (now : holds (change (world.agent number))) :
    holds ((world.modifyAgent number change).agent number) := by
  by_cases inside : number < world.agents.size
  · rw [agent_modifyAgent_self world change inside]
    exact now
  · rw [modifyAgent_outside world change (Nat.le_of_not_lt inside)]
    exact before

end World

/-! ## Scripts at work -/

/-- Where a script halts, its agent is discreet, and so are its requests and what is left of it. -/
structure Halt.Discreet (own : GoalId → Prop) (number : BirthNumber) (halt : Halt V) : Prop where
  agent : (halt.turn.world.agent number).Discreet own
  effects : halt.turn.effects.Discreet own
  rest : ∀ turn wait rest, halt = .blocked turn wait rest → rest.Discreet own

/-- An operation of a discreet script leaves the agent, the effects and the script discreet. -/
theorem Script.Discreet.advance {script : Script V} (discreet : script.Discreet own)
    {number : BirthNumber} {turn : Turn V} (agent : (turn.world.agent number).Discreet own)
    (effects : turn.effects.Discreet own) : (script.advance number turn).Discreet own number := by
  have blocked : ∀ (after : Turn V) (wait : Wait) (rest : Script V),
      (after.world.agent number).Discreet own → after.effects.Discreet own → rest.Discreet own →
        (Halt.blocked after wait rest).Discreet own number := by
    intro after wait rest agent effects later
    refine ⟨agent, effects, fun turn wait rest same => ?_⟩
    cases same
    exact later
  cases discreet with
  | done | panic =>
    refine ⟨agent, effects, fun turn wait rest same => ?_⟩
    cases same
  | finish later | note _ later | await _ later | sleep _ later =>
    exact blocked _ _ _ agent effects later
  | isFinished later | observe later | nameInterceptor _ later | interceptorNamed _ later =>
    exact blocked _ _ _ agent effects (later _)
  | raise _ later | requestStop later =>
    exact blocked _ _ _ agent ⟨effects.goals, effects.plans⟩ later
  | change _ _ later =>
    exact blocked _ _ _ (World.agent_modifyAgent_of agent { agent with }) effects later
  | adoptGoal isOwn later =>
    refine blocked _ _ _ agent { effects with goals := fun handle member => ?_ } later
    rcases List.mem_append.mp member with before | new
    · exact effects.goals handle before
    · exact List.mem_singleton.mp new ▸ isOwn
  | adoptPlan plans later =>
    refine blocked _ _ _ agent { effects with plans := fun plan member => ?_ } later
    rcases List.mem_append.mp member with before | new
    · exact effects.plans plan before
    · exact List.mem_singleton.mp new ▸ plans
  | addInterceptor category within makes later =>
    refine blocked _ _ _ (World.agent_modifyAgent_of agent { agent with interceptors := ?_ })
      effects later
    refine PerCategory.forall_get_set agent.interceptors fun interceptor member => ?_
    rcases List.mem_append.mp member with before | new
    · exact agent.interceptors category interceptor before
    · exact List.mem_singleton.mp new ▸ ⟨within, makes⟩
  | removeInterceptor category id later =>
    refine blocked _ _ _ (World.agent_modifyAgent_of agent { agent with interceptors := ?_ })
      effects (later _)
    refine PerCategory.forall_get_set agent.interceptors fun interceptor member => ?_
    exact agent.interceptors category interceptor (List.mem_of_mem_filter member)

/-- A discreet plan starts with a discreet script. -/
theorem Plan.Discreet.start {plan : Plan V} (discreet : plan.Discreet own) :
    plan.start.Discreet own :=
  discreet plan.memory

/-! ## Strides -/

namespace World

variable {world : World V} {number : BirthNumber}

/-- An agent that drains its inbox stays discreet, and what it takes out is its own. -/
theorem drain_discreet (agent : (world.agent number).Discreet own) :
    ((world.drain number).1.agent number).Discreet own ∧ (world.drain number).2.Within own := by
  refine ⟨agent_modifyAgent_of agent ?_, agent.inbox⟩
  have emptied : Agent.Discreet own { world.agent number with inbox := Inbox.empty } :=
    { agent with
      arrived := fun _ member => absurd member List.not_mem_nil
      inbox := .empty }
  exact { emptied.adoptAll agent.arrived with }

/-- An agent that drops achieved goals stays discreet. -/
theorem sweep_discreet (agent : (world.agent number).Discreet own) :
    ((world.sweep number).1.agent number).Discreet own := by
  refine agent_modifyAgent_of agent { agent with goals := fun handle member => ?_ }
  exact agent.goals handle ((sweepGoals_sublist _ _ _).subset member)

/-- An agent that senses own triggers stays discreet. -/
theorem senseTriggers_discreet (agent : (world.agent number).Discreet own) (category : Category)
    {triggers : List (Trigger V)} (aims : ∀ trigger ∈ triggers, trigger.Within own) :
    ((world.senseTriggers number category triggers).1.agent number).Discreet own := by
  have none : ∀ hit ∈ ([] : List (Hit V)), hit.Discreet own := fun _ member =>
    absurd member List.not_mem_nil
  obtain ⟨hits, interceptors⟩ := scanFrom_discreet (world.agent number).view [] [] triggers
    world.pursuit ((world.agent number).interceptors.get category)
    (fun _ member => absurd member List.not_mem_nil) none aims (agent.interceptors category)
  have left := (scanFrom_within (world.agent number).view [] [] triggers world.pursuit
    ((world.agent number).interceptors.get category)).2
  simp only [senseTriggers, scanInterceptors, matchSchemes]
  generalize scanFrom (world.agent number).view [] [] triggers world.pursuit
    ((world.agent number).interceptors.get category) = scan at hits interceptors left ⊢
  have first : ∀ world : World V, (world.agent number).Discreet own →
      ((world.modifyAgent number fun agent =>
        { agent with interceptors := agent.interceptors.set category scan.interceptors }).agent
          number).Discreet own := fun _ agent =>
    agent_modifyAgent_of agent
      { agent with interceptors := PerCategory.forall_get_set agent.interceptors interceptors }
  cases scan.broken with
  | some panic => exact first _ agent
  | none =>
    obtain ⟨found, schemes⟩ := matchFrom_discreet (world.agent number).view [] scan.pursuit
      ((world.agent number).schemes.get category) scan.triggers none
      (fun trigger member => aims trigger (left trigger member)) (agent.schemes category)
    simp only [pursuit_modifyAgent]
    generalize matchFrom (world.agent number).view [] scan.pursuit
      ((world.agent number).schemes.get category) scan.triggers = matched at found schemes ⊢
    have second : ∀ world : World V, (world.agent number).Discreet own →
        ((world.modifyAgent number fun agent =>
          { agent with schemes := agent.schemes.set category matched.schemes }).agent
            number).Discreet own := fun _ agent =>
      agent_modifyAgent_of agent
        { agent with schemes := PerCategory.forall_get_set agent.schemes schemes }
    cases matched.broken with
    | some panic => exact second _ (first _ agent)
    | none =>
      have before := second _ (first _ agent)
      refine agent_modifyAgent_of before { before with plans := fun active member => ?_ }
      rcases List.mem_append.mp member with old | new
      · exact before.plans active old
      · refine activated_discreet (fun hit member => ?_) active new
        exact (List.mem_append.mp member).elim (hits hit) (found hit)

/-- Discreet effects leave an agent discreet. -/
theorem applyEffects_discreet (agent : (world.agent number).Discreet own) {effects : Effects V}
    (discreet : effects.Discreet own) :
    ((world.applyEffects number effects).agent number).Discreet own := by
  refine agent_modifyAgent_of agent ?_
  have raised : Agent.Discreet own
      { world.agent number with
        inbox :=
          { (world.agent number).inbox with
            internal := (world.agent number).inbox.internal ++
              effects.raised.map .internal } } := by
    refine { agent with arrived := agent.arrived, inbox := fun category trigger member => ?_ }
    cases category with
    | internal =>
      rcases List.mem_append.mp member with before | new
      · exact agent.inbox .internal trigger before
      · obtain ⟨payload, _, rfl⟩ := List.mem_map.mp new
        intro handle held
        cases held
    | goal => exact agent.inbox .goal trigger member
    | external => exact agent.inbox .external trigger member
    | message => exact agent.inbox .message trigger member
  have adopted := raised.adoptAll discreet.goals
  refine { adopted with plans := fun active member => ?_ }
  rcases List.mem_append.mp member with before | new
  · exact adopted.plans active before
  · obtain ⟨plan, listed, rfl⟩ := List.mem_map.mp new
    exact .detached (discreet.plans plan listed)

/-- An agent that retires stays discreet. -/
theorem retire_discreet (agent : (world.agent number).Discreet own) :
    ((world.retire number).agent number).Discreet own :=
  agent_modifyAgent_of agent
    { agent with
      goals := fun _ member => absurd member List.not_mem_nil
      plans := fun _ member => absurd member List.not_mem_nil }

/-- An agent that keeps a discreet plan stays discreet. -/
theorem kept_discreet (act : Act V) {active : ActivePlan V} {turn : Turn V}
    {result : Except PlanError (Option V.Action)} {memory : Nat}
    (returned : (Halt.returned turn result memory).Discreet own number)
    (discreet : active.Discreet own) (action : Option V.Action) :
    ((act.kept number active turn action memory).world.agent number).Discreet own := by
  have agent : (turn.world.agent number).Discreet own := returned.agent
  unfold Act.kept
  split
  · exact agent
  · refine agent_modifyAgent_of agent { agent with plans := fun other member => ?_ }
    rcases List.mem_append.mp member with before | new
    · exact agent.plans other before
    · rw [List.mem_singleton.mp new]
      exact ⟨discreet.within, discreet.plan⟩

/-- An agent that drops a plan stays discreet, with the plans that are put back. -/
theorem dropped_discreet (act : Act V) (active : ActivePlan V) {pending : List (ActivePlan V)}
    {turn : Turn V} {result : Except PlanError (Option V.Action)} {memory : Nat}
    (returned : (Halt.returned turn result memory).Discreet own number)
    (discreet : ∀ active ∈ pending, active.Discreet own) :
    ((act.dropped number active pending turn).world.agent number).Discreet own := by
  have agent : (turn.world.agent number).Discreet own := returned.agent
  refine agent_modifyAgent_of agent { agent with plans := fun other member => ?_ }
  exact (List.mem_append.mp member).elim (agent.plans other) (discreet other)

/-- A stride keeps an agent discreet, and what its cycle has in hand. -/
theorem stride_discreet {phase : Phase V} (agent : (world.agent number).Discreet own)
    (discreet : phase.Discreet own) :
    ((world.stride number phase).1.agent number).Discreet own ∧
      (world.stride number phase).2.Discreet own := by
  have strode := world.strode number phase
  generalize world.stride number phase = next at strode ⊢
  cases strode with
  | idles | rests => exact ⟨agent, trivial⟩
  | turns after inbox _ drained =>
    obtain ⟨emptied, _⟩ := drain_discreet agent
    rw [drained] at emptied
    exact ⟨agent_modifyAgent_of emptied
      { emptied with shutdownPlans := fun _ member => absurd member List.not_mem_nil },
      emptied.shutdownPlans, .none⟩
  | wakes after inbox _ drained =>
    have emptied := drain_discreet agent
    rw [drained] at emptied
    exact emptied
  | sweepPanics inbox after panic swept =>
    have kept := sweep_discreet agent
    rw [swept] at kept
    exact ⟨kept, trivial⟩
  | sweeps inbox after swept =>
    have kept := sweep_discreet agent
    rw [swept] at kept
    exact ⟨kept, discreet⟩
  | sensed inbox acts => exact ⟨agent, fun _ member => absurd member List.not_mem_nil, .none⟩
  | passes inbox category steps acts => exact ⟨agent, discreet⟩
  | sensePanics inbox category steps acts after panic _ senses =>
    have kept := senseTriggers_discreet agent category
      (within_offered agent.goals (discreet category))
    rw [senses] at kept
    exact ⟨kept, trivial⟩
  | senses inbox category steps acts after _ senses =>
    have kept := senseTriggers_discreet agent category
      (within_offered agent.goals (discreet category))
    rw [senses] at kept
    exact ⟨kept, discreet.without category⟩
  | concludes progress => exact ⟨applyEffects_discreet agent discreet.2, trivial⟩
  | takes steps progress =>
    exact ⟨agent_modifyAgent_of agent
      { agent with plans := fun _ member => absurd member List.not_mem_nil },
      agent.plans, discreet.2⟩
  | begins active pending steps progress =>
    obtain ⟨here, behind⟩ := List.forall_mem_cons.mp discreet.1
    exact ⟨agent, here.plan.start, here, behind, discreet.2⟩
  | actingReturns script finished active pending steps progress turn action memory returned =>
    obtain ⟨discreetly, here, behind, effects⟩ := discreet
    have advanced := returned ▸ discreetly.advance agent effects
    exact ⟨kept_discreet (progress.act world) advanced here action, behind, advanced.effects⟩
  | actingFails script finished active pending steps progress turn cause memory returned =>
    obtain ⟨discreetly, here, behind, effects⟩ := discreet
    have advanced := returned ▸ discreetly.advance agent effects
    have dropped := dropped_discreet (progress.act world) active advanced behind
    exact ⟨applyEffects_discreet dropped advanced.effects, trivial⟩
  | actingPanics script finished active pending steps progress turn cause panicked =>
    obtain ⟨discreetly, _, _, effects⟩ := discreet
    have advanced := panicked ▸ discreetly.advance agent effects
    exact ⟨advanced.agent, trivial⟩
  | actingGoesOn script finished active pending steps progress turn wait rest blocked =>
    obtain ⟨discreetly, here, behind, effects⟩ := discreet
    have advanced := blocked ▸ discreetly.advance agent effects
    exact ⟨advanced.agent, advanced.rest _ _ _ rfl, here, behind, advanced.effects⟩
  | retires effects actions => exact ⟨retire_discreet agent, trivial⟩
  | parts plan pending effects actions =>
    obtain ⟨here, behind⟩ := List.forall_mem_cons.mp discreet.1
    exact ⟨agent, here.start, behind, discreet.2⟩
  | partingReturns script finished pending effects actions turn action memory returned
  | partingFails script finished pending effects actions turn cause memory returned =>
    obtain ⟨discreetly, behind, effects⟩ := discreet
    have advanced := returned ▸ discreetly.advance agent effects
    exact ⟨advanced.agent, behind, advanced.effects⟩
  | partingPanics script finished pending effects actions turn cause panicked =>
    obtain ⟨discreetly, _, effects⟩ := discreet
    have advanced := panicked ▸ discreetly.advance agent effects
    exact ⟨advanced.agent, trivial⟩
  | partingGoesOn script finished pending effects actions turn wait rest blocked =>
    obtain ⟨discreetly, behind, effects⟩ := discreet
    have advanced := blocked ▸ discreetly.advance agent effects
    exact ⟨advanced.agent, advanced.rest _ _ _ rfl, behind, advanced.effects⟩

/-- What a discreet agent does next is confined. -/
theorem Confined.of_discreet {phase : Phase V} (agent : (world.agent number).Discreet own)
    (discreet : phase.Discreet own) : world.Confined own number phase where
  goals := agent.goals
  plans := fun active member => (agent.plans active member).within
  schemes := fun category scheme member => (agent.schemes category scheme member).within
  interceptors := fun category interceptor member =>
    (agent.interceptors category interceptor member).within
  phase := by
    cases phase with
    | sensing inbox => exact discreet
    | acting script => exact ⟨discreet.2.1.within, discreet.1.confined world number⟩
    | parting script => exact discreet.1.confined world number
    | _ => trivial

/-- A discreet agent stays so along the hops of its cycle. -/
theorem Hops.discreet {before after : World V × Phase V} (hops : Hops number before after)
    (agent : (before.1.agent number).Discreet own) (discreet : before.2.Discreet own) :
    (after.1.agent number).Discreet own ∧ after.2.Discreet own := by
  induction hops with
  | refl => exact ⟨agent, discreet⟩
  | tail _ hop ih =>
    cases hop with
    | stride world phase => exact stride_discreet ih.1 ih.2
    | elapse world phase clock => exact ih

/-- The cycle of a discreet agent is confined all along. -/
theorem Keeps.of_discreet (agent : (world.agent number).Discreet own) :
    world.Keeps own number := by
  intro state hops
  obtain ⟨still, inHand⟩ := hops.discreet agent trivial
  exact .of_discreet still inHand

end World

end Deliberation
