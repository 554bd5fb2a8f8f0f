import Deliberation.Proofs.Pursuit

/-!
# Plans that have their goals to themselves

A goal that is flagged as pursued is not offered to the schemes again. So an agent that has the
handles of its goals to itself, and no interceptors for goals, gets no second plan for a goal while
a first one is live, as long as a goal that it holds and has a plan for stays flagged
(`World.Exclusive`). Each part of a cycle keeps this, if the goals that it takes up have no live plan
(`World.TakesUpAnew`).
-/

namespace Deliberation

open Relation

variable {V : Vocabulary}

/-! ## Plans by goal -/

/-- The identity of the goal that a plan pursues, if any. -/
def ActivePlan.target? (active : ActivePlan V) : Option GoalId := active.goal.map (·.id)

/-- The identity of the goal that a plan is made for, if any. -/
def Hit.target? (hit : Hit V) : Option GoalId := hit.trigger.goal?.map (·.id)

/-- The identities of the goals that an agent holds. -/
def Agent.goalIds (agent : Agent V) : List GoalId := agent.goals.map (·.id)

/-- The plans of an agent for a goal. -/
def Agent.plansFor (agent : Agent V) (goal : GoalId) : List (ActivePlan V) :=
  agent.plans.filter fun active => active.target? == some goal

/-- The goals that an agent has plans for, plan by plan, with those in the hand of its cycle. -/
def World.targets (world : World V) (number : BirthNumber) (hand : List (ActivePlan V)) :
    List GoalId :=
  ((world.agent number).plans ++ hand).filterMap ActivePlan.target?

/-- Where no goal is pursued twice, there is at most one plan for each. -/
theorem Agent.length_plansFor_le_one {agent : Agent V}
    (distinct : (agent.plans.filterMap ActivePlan.target?).Nodup) (goal : GoalId) :
    (agent.plansFor goal).length ≤ 1 := by
  have once := List.nodup_iff_count_le_one.mp distinct goal
  rwa [List.count_filterMap, List.countP_eq_length_filter] at once

/-- Plans that hits make active are plans for the goals of the hits. -/
theorem target_activated (hits : List (Hit V)) :
    (activated hits).filterMap ActivePlan.target? = hits.filterMap Hit.target? := by
  unfold activated
  rw [List.filterMap_map]
  rfl

/-- Detached plans are for no goal. -/
theorem target_detached (plans : List (Plan V)) :
    (plans.map ActivePlan.detached).filterMap ActivePlan.target? = [] := by
  simp [List.filterMap_eq_nil_iff, ActivePlan.detached, ActivePlan.target?]

/-- A plan that is dropped clears no flag but that of its own goal. -/
theorem ActivePlan.isPursued_release_of_ne {active : ActivePlan V} {goal : GoalId}
    (different : active.target? ≠ some goal) (pursuit : Pursuit) :
    (active.release pursuit).isPursued goal = pursuit.isPursued goal := by
  unfold release
  cases isGoal : active.goal with
  | none => rfl
  | some handle =>
    have other : goal ≠ handle.id := by
      rintro rfl
      exact different (by simp [target?, isGoal])
    rw [Pursuit.isPursued_set, if_neg other]

/-! ## Hits on goals without a flag -/

/-- Hits on distinct goals that had no flag before and have one afterwards. -/
structure Hit.Fresh (before after : Pursuit) (hits : List (Hit V)) : Prop where
  distinct : (hits.filterMap Hit.target?).Nodup
  unflagged : ∀ goal ∈ hits.filterMap Hit.target?, before.isPursued goal = false
  flagged : ∀ goal ∈ hits.filterMap Hit.target?, after.isPursued goal = true
  grows : ∀ goal, before.isPursued goal = true → after.isPursued goal = true

namespace Hit.Fresh

variable {first second third : Pursuit} {hits others : List (Hit V)}

/-- Hits on triggers that are no goals flag nothing. -/
theorem aimless (targets : hits.filterMap Hit.target? = []) : Fresh first first hits where
  distinct := targets ▸ List.nodup_nil
  unflagged goal member := by
    rw [targets] at member
    cases member
  flagged goal member := by
    rw [targets] at member
    cases member
  grows _ held := held

/-- It does not matter to fresh hits in which order they are listed. -/
theorem reverse (fresh : Fresh first second hits) : Fresh first second hits.reverse where
  distinct := by
    rw [List.filterMap_reverse]
    exact List.nodup_reverse.mpr fresh.distinct
  unflagged goal member := by
    rw [List.filterMap_reverse, List.mem_reverse] at member
    exact fresh.unflagged goal member
  flagged goal member := by
    rw [List.filterMap_reverse, List.mem_reverse] at member
    exact fresh.flagged goal member
  grows := fresh.grows

/-- Fresh hits may be made one after the other. -/
theorem append (before : Fresh first second hits) (after : Fresh second third others) :
    Fresh first third (hits ++ others) where
  distinct := by
    rw [List.filterMap_append, List.nodup_append]
    refine ⟨before.distinct, after.distinct, ?_⟩
    rintro goal early _ late rfl
    have flagged := before.flagged goal early
    rw [after.unflagged goal late] at flagged
    cases flagged
  unflagged goal member := by
    rw [List.filterMap_append] at member
    rcases List.mem_append.mp member with early | late
    · exact before.unflagged goal early
    · by_contra flagged
      have held := before.grows goal (Bool.not_eq_false _ ▸ flagged)
      rw [after.unflagged goal late] at held
      cases held
  flagged goal member := by
    rw [List.filterMap_append] at member
    rcases List.mem_append.mp member with early | late
    · exact after.grows goal (before.flagged goal early)
    · exact after.flagged goal late
  grows goal held := after.grows goal (before.grows goal held)

/-- A plan for a trigger that is offered although goals with a flag are passed over. -/
theorem cons (fresh : Fresh first second hits) {trigger : Trigger V}
    (offered : trigger.isPursuedGoal second = false) (name : String) (plan : Plan V) :
    Fresh first (trigger.markPursued second) ({ name, trigger, plan } :: hits) := by
  unfold Trigger.isPursuedGoal at offered
  unfold Trigger.markPursued
  cases isGoal : trigger.goal? with
  | none =>
    have same : (({ name, trigger, plan } : Hit V) :: hits).filterMap Hit.target? =
        hits.filterMap Hit.target? := by
      simp [Hit.target?, isGoal]
    exact
      { distinct := same ▸ fresh.distinct, unflagged := same ▸ fresh.unflagged,
        flagged := same ▸ fresh.flagged, grows := fresh.grows }
  | some handle =>
    simp only [isGoal] at offered
    have one : (({ name, trigger, plan } : Hit V) :: hits).filterMap Hit.target? =
        handle.id :: hits.filterMap Hit.target? := by
      simp [Hit.target?, isGoal]
    have absent : handle.id ∉ hits.filterMap Hit.target? := by
      intro member
      rw [fresh.flagged _ member] at offered
      cases offered
    have keeps : ∀ goal, second.isPursued goal = true →
        (second.set handle.id true).isPursued goal = true := by
      intro goal held
      rw [Pursuit.isPursued_set]
      split
      · rfl
      · exact held
    refine
      { distinct := one ▸ List.nodup_cons.mpr ⟨absent, fresh.distinct⟩
        unflagged := fun goal member => ?_, flagged := fun goal member => ?_
        grows := fun goal held => keeps goal (fresh.grows goal held) }
    · rw [one] at member
      rcases List.mem_cons.mp member with rfl | old
      · by_contra flagged
        have held := fresh.grows _ (Bool.not_eq_false _ ▸ flagged)
        rw [offered] at held
        cases held
      · exact fresh.unflagged goal old
    · rw [one] at member
      rcases List.mem_cons.mp member with rfl | old
      · simp
      · exact keeps goal (fresh.flagged goal old)

end Hit.Fresh

/-- Goals that are matched with schemes had no flag, and get one. -/
theorem matchFrom_fresh (view : View V) (before : Pursuit) (hits : List (Hit V)) (pursuit : Pursuit)
    (schemes : List (Scheme V)) (triggers : List (Trigger V))
    (fresh : Hit.Fresh before pursuit hits) :
    Hit.Fresh before (matchFrom view hits pursuit schemes triggers).pursuit
      (matchFrom view hits pursuit schemes triggers).hits := by
  fun_induction matchFrom view hits pursuit schemes triggers with
  | case1 | case3 => exact fresh.reverse
  | case2 _ _ _ _ _ _ ih | case4 _ _ _ _ _ _ _ _ ih => exact ih fresh
  | case5 hits pursuit schemes trigger rest offered name plan used _ ih =>
    have unflagged : trigger.isPursuedGoal pursuit = false := by simpa using offered
    exact ih (fresh.cons unflagged name plan)

/-- Schemes are matched with nothing but the triggers. -/
theorem matchFrom_within (view : View V) (hits : List (Hit V)) (pursuit : Pursuit)
    (schemes : List (Scheme V)) (triggers : List (Trigger V)) :
    ∀ hit ∈ (matchFrom view hits pursuit schemes triggers).hits,
      hit ∈ hits ∨ hit.trigger ∈ triggers := by
  fun_induction matchFrom view hits pursuit schemes triggers with
  | case1 | case3 => exact fun hit member => .inl (List.mem_reverse.mp member)
  | case2 _ _ _ _ _ _ ih | case4 _ _ _ _ _ _ _ _ ih =>
    exact fun hit member => (ih hit member).imp_right (List.mem_cons_of_mem _)
  | case5 hits pursuit schemes trigger rest _ name plan used _ ih =>
    intro hit member
    rcases ih hit member with old | later
    · rcases List.mem_cons.mp old with rfl | old
      · exact .inr List.mem_cons_self
      · exact .inl old
    · exact .inr (List.mem_cons_of_mem _ later)

/-- Interceptors that are offered no goals set no flags. -/
theorem scanFrom_aimless (view : View V) (scanned : List (Interceptor V × Bool))
    (hits : List (Hit V)) (triggers : List (Trigger V)) (pursuit : Pursuit)
    (interceptors : List (Interceptor V)) (aimless : ∀ trigger ∈ triggers, trigger.goal? = none) :
    (scanFrom view scanned hits triggers pursuit interceptors).pursuit = pursuit := by
  fun_induction scanFrom view scanned hits triggers pursuit interceptors with
  | case1 | case2 => rfl
  | case3 _ _ _ _ _ _ _ ih => exact ih aimless
  | case4 scanned hits triggers pursuit interceptor rest firing fires left hit ih =>
    have fired : firing.trigger.goal? = none := by
      refine aimless _ ?_
      rw [firstFiring_split _ _ _ _ fires]
      exact List.mem_append_right _ List.mem_cons_self
    have unflagged : firing.trigger.markPursued pursuit = pursuit := by
      simp only [Trigger.markPursued, fired]
    have later := ih fun other member => aimless other (firstFiring_left fires _ other member)
    exact later.trans unflagged

/-! ## The invariant -/

namespace World

/-- An agent has at most one plan for each goal, and the goals that it holds and has plans for are
flagged. -/
structure Exclusive (world : World V) (number : BirthNumber) (hand : List (ActivePlan V)) :
    Prop where
  goals : (world.agent number).GoalsDistinct
  plans : (world.targets number hand).Nodup
  flagged : ∀ goal ∈ (world.agent number).goalIds, goal ∈ world.targets number hand →
    world.pursuit.isPursued goal = true

/-- Every goal that an agent has taken up is one that it has no plan for. -/
def TakesUpAnew (before after : World V) (number : BirthNumber) (hand : List (ActivePlan V)) :
    Prop :=
  ∀ goal ∈ (after.agent number).goalIds, goal ∉ (before.agent number).goalIds →
    goal ∉ after.targets number hand

instance (before after : World V) (number : BirthNumber) (hand : List (ActivePlan V)) :
    Decidable (TakesUpAnew before after number hand) :=
  inferInstanceAs (Decidable (∀ goal ∈ (after.agent number).goalIds,
    goal ∉ (before.agent number).goalIds → goal ∉ after.targets number hand))

namespace Exclusive

variable {world next : World V} {number : BirthNumber} {hand left : List (ActivePlan V)}

/-- Plans may go, and flags with them; of the goals that stay none loses its flag. -/
theorem dwindle (exclusive : world.Exclusive number hand)
    (goals : (next.agent number).GoalsDistinct)
    (plans : (next.targets number left).Sublist (world.targets number hand))
    (flags : ∀ goal ∈ (next.agent number).goalIds, goal ∈ next.targets number left →
      world.pursuit.isPursued goal = true → next.pursuit.isPursued goal = true)
    (anew : TakesUpAnew world next number left) : next.Exclusive number left where
  goals := goals
  plans := exclusive.plans.sublist plans
  flagged goal held planned := by
    have before : goal ∈ (world.agent number).goalIds := by
      by_contra fresh
      exact anew goal held fresh planned
    exact flags goal held planned (exclusive.flagged goal before (plans.subset planned))

/-- Only flags, goals and plans matter. -/
theorem congr (exclusive : world.Exclusive number hand)
    (goals : (next.agent number).goals = (world.agent number).goals)
    (plans : (next.agent number).plans = (world.agent number).plans)
    (flags : ∀ goal ∈ world.targets number hand,
      next.pursuit.isPursued goal = world.pursuit.isPursued goal) :
    next.Exclusive number hand := by
  have targets : next.targets number hand = world.targets number hand := by
    unfold targets
    rw [plans]
  refine
    { goals := ?_, plans := targets ▸ exclusive.plans, flagged := fun goal held planned => ?_ }
  · unfold Agent.GoalsDistinct
    rw [goals]
    exact exclusive.goals
  · unfold Agent.goalIds at held
    rw [goals] at held
    rw [targets] at planned
    exact (flags goal planned).trans (exclusive.flagged goal held planned)

/-- A script leaves flags, goals and plans alone. -/
theorem stirs {self : BirthNumber} (exclusive : world.Exclusive number hand)
    (stirs : Stirs self world next) : next.Exclusive number hand := by
  obtain ⟨pursuit, goals, plans⟩ := stirs.holdings number
  exact exclusive.congr goals plans fun goal _ => by rw [pursuit]

end Exclusive

/-- An agent that takes up no goals takes them up anew. -/
theorem TakesUpAnew.of_goals {before after : World V} {number : BirthNumber}
    (goals : ∀ goal ∈ (after.agent number).goalIds, goal ∈ (before.agent number).goalIds)
    (hand : List (ActivePlan V)) : TakesUpAnew before after number hand :=
  fun goal held fresh => absurd (goals goal held) fresh

/-- What is taken up depends on goals and plans. -/
theorem TakesUpAnew.congr {before after earlier later : World V} {number : BirthNumber}
    {hand : List (ActivePlan V)} (anew : TakesUpAnew before after number hand)
    (held : (earlier.agent number).goals = (before.agent number).goals)
    (goals : (after.agent number).goals = (later.agent number).goals)
    (plans : (after.agent number).plans = (later.agent number).plans) :
    TakesUpAnew earlier later number hand := by
  intro goal inGoals fresh
  unfold Agent.goalIds at inGoals fresh
  rw [← goals] at inGoals
  rw [held] at fresh
  unfold targets
  rw [← plans]
  exact anew goal inGoals fresh

end World

/-! ## What a stride keeps -/

/-- To drop achieved goals leaves the flags of all other goals alone. -/
theorem sweepGoals_apart (contexts : Contexts V.Object) (pursuit : Pursuit)
    (goals : List (GoalHandle V)) {goal : GoalId} (apart : goal ∉ goals.map (·.id)) :
    (sweepGoals contexts pursuit goals).2.1.isPursued goal = pursuit.isPursued goal := by
  fun_induction sweepGoals contexts pursuit goals with
  | case1 | case2 => rfl
  | case3 pursuit handle rest _ ih =>
    obtain ⟨different, others⟩ := not_or.mp (List.mem_cons.not.mp apart)
    rw [ih others, Pursuit.isPursued_set, if_neg different]
  | case4 pursuit handle rest _ left after panic swept ih =>
    rw [swept] at ih
    exact ih (not_or.mp (List.mem_cons.not.mp apart)).2

/-- Goals that stay when achieved ones are dropped keep their flags. -/
theorem sweepGoals_keeps (contexts : Contexts V.Object) (pursuit : Pursuit)
    (goals : List (GoalHandle V)) (distinct : (goals.map (·.id)).Nodup) {goal : GoalId}
    (kept : goal ∈ (sweepGoals contexts pursuit goals).1.map (·.id)) :
    (sweepGoals contexts pursuit goals).2.1.isPursued goal = pursuit.isPursued goal := by
  fun_induction sweepGoals contexts pursuit goals with
  | case1 | case2 => rfl
  | case3 pursuit handle rest _ ih =>
    obtain ⟨absent, others⟩ := List.nodup_cons.mp distinct
    have different : goal ≠ handle.id := by
      rintro rfl
      exact absent (((sweepGoals_sublist contexts _ rest).map _).subset kept)
    rw [ih others kept, Pursuit.isPursued_set, if_neg different]
  | case4 pursuit handle rest _ left after panic swept ih =>
    obtain ⟨absent, others⟩ := List.nodup_cons.mp distinct
    have apart := sweepGoals_apart contexts pursuit rest absent
    rw [swept] at ih apart
    rcases List.mem_cons.mp kept with rfl | later
    · exact apart
    · exact ih others later

namespace World

variable {world : World V} {number : BirthNumber} {hand : List (ActivePlan V)}

/-- A check of the goals leaves the agent with one plan for each goal. -/
theorem sweep_exclusive (inside : number < world.agents.size)
    (exclusive : world.Exclusive number hand) : (world.sweep number).1.Exclusive number hand := by
  have swept : (world.sweep number).1.agent number =
      { world.agent number with
        goals := (sweepGoals (world.agent number).contexts world.pursuit
          (world.agent number).goals).1 } :=
    agent_modifyAgent_self
      { world with
        pursuit := (sweepGoals (world.agent number).contexts world.pursuit
          (world.agent number).goals).2.1 }
      _ inside
  have targets : (world.sweep number).1.targets number hand = world.targets number hand := by
    unfold World.targets
    rw [swept]
  have kept := (sweepGoals_sublist (world.agent number).contexts world.pursuit
    (world.agent number).goals).map (·.id)
  refine exclusive.dwindle ((world.sweep_moves number).lasting.goalsDistinct exclusive.goals)
    (targets ▸ .refl _) (fun goal held _ flagged => ?_) (.of_goals (fun goal held => ?_) hand)
  · rw [swept] at held
    exact (sweepGoals_keeps _ _ _ exclusive.goals held).trans flagged
  · rw [swept] at held
    exact kept.subset held

/-- New plans are for goals that are held and had no plan, because they had no flag. -/
theorem Exclusive.activate {next : World V} (exclusive : world.Exclusive number hand)
    (hits : List (Hit V)) (goals : (next.agent number).goals = (world.agent number).goals)
    (plans : (next.agent number).plans = (world.agent number).plans ++ activated hits)
    (fresh : Hit.Fresh world.pursuit next.pursuit hits)
    (held : ∀ goal ∈ hits.filterMap Hit.target?, goal ∈ (world.agent number).goalIds) :
    next.Exclusive number hand := by
  have targets : (next.targets number hand).Perm
      (hits.filterMap Hit.target? ++ world.targets number hand) := by
    unfold World.targets
    simp only [plans, List.filterMap_append, target_activated]
    rw [← List.append_assoc]
    exact List.perm_append_comm.append_right _
  have ids : (next.agent number).goalIds = (world.agent number).goalIds := by
    unfold Agent.goalIds
    rw [goals]
  refine { goals := ?_, plans := ?_, flagged := fun goal inGoals planned => ?_ }
  · unfold Agent.GoalsDistinct
    rw [goals]
    exact exclusive.goals
  · rw [targets.nodup_iff, List.nodup_append]
    refine ⟨fresh.distinct, exclusive.plans, ?_⟩
    rintro goal new _ old rfl
    have flagged := exclusive.flagged goal (held goal new) old
    rw [fresh.unflagged goal new] at flagged
    cases flagged
  · rcases List.mem_append.mp (targets.subset planned) with new | old
    · exact fresh.flagged goal new
    · exact fresh.grows goal (exclusive.flagged goal (ids ▸ inGoals) old)

/-- What the interceptors of an agent make of triggers. -/
def intercepted (world : World V) (number : BirthNumber) (category : Category)
    (triggers : List (Trigger V)) : Scan V :=
  scanInterceptors (world.agent number).view world.pursuit triggers
    ((world.agent number).interceptors.get category)

/-- What the schemes of an agent make of the triggers that its interceptors leave. -/
def matched (world : World V) (number : BirthNumber) (category : Category)
    (triggers : List (Trigger V)) : Matches V :=
  matchSchemes (world.agent number).view (world.intercepted number category triggers).pursuit
    (world.intercepted number category triggers).triggers
    ((world.agent number).schemes.get category)

/-- The plans that an agent gets when it senses triggers. -/
def sensedHits (world : World V) (number : BirthNumber) (category : Category)
    (triggers : List (Trigger V)) : List (Hit V) :=
  (world.intercepted number category triggers).hits ++
    (world.matched number category triggers).hits

/-- What sensing leaves behind when no predicate panics. -/
theorem senseTriggers_complete (category : Category) (triggers : List (Trigger V))
    (inside : number < world.agents.size)
    (complete : (world.senseTriggers number category triggers).2 = none) :
    (world.senseTriggers number category triggers).1.pursuit =
        (world.matched number category triggers).pursuit ∧
      ((world.senseTriggers number category triggers).1.agent number).goals =
        (world.agent number).goals ∧
      ((world.senseTriggers number category triggers).1.agent number).plans =
        (world.agent number).plans ++
          activated (world.sensedHits number category triggers) := by
  revert complete
  simp only [senseTriggers]
  split
  · intro broken
    cases broken
  · split
    · intro broken
      cases broken
    · intro _
      rw [agent_modifyAgent_self _ _ (by simpa using inside)]
      refine ⟨rfl, ?_, congrArg (· ++ _) ?_⟩
      · refine (field_modifyAgent Agent.goals _ number number _ rfl).trans ?_
        exact field_modifyAgent Agent.goals
          { world with pursuit := (world.intercepted number category triggers).pursuit }
          number number _ rfl
      · refine (field_modifyAgent Agent.plans _ number number _ rfl).trans ?_
        exact field_modifyAgent Agent.plans
          { world with pursuit := (world.intercepted number category triggers).pursuit }
          number number _ rfl

/-- Hits are on nothing but the triggers. -/
theorem sensedHits_within (category : Category) (triggers : List (Trigger V)) :
    ∀ hit ∈ world.sensedHits number category triggers, hit.trigger ∈ triggers := by
  have scanned := scanFrom_within (world.agent number).view [] [] triggers world.pursuit
    ((world.agent number).interceptors.get category)
  intro hit member
  rcases List.mem_append.mp member with early | late
  · rcases scanned.1 hit early with old | fired
    · cases old
    · exact fired
  · rcases matchFrom_within _ [] _ _ _ hit late with old | offered
    · cases old
    · exact scanned.2 _ offered

/-- Interceptors flag nothing when there are none, or when they are offered no goals. So all that is
flagged had no flag before. -/
theorem sensedHits_fresh (category : Category) (triggers : List (Trigger V))
    (unhampered : (world.agent number).interceptors.get category = [] ∨
      ∀ trigger ∈ triggers, trigger.goal? = none) :
    Hit.Fresh world.pursuit (world.matched number category triggers).pursuit
      (world.sensedHits number category triggers) := by
  have intercepted : Hit.Fresh world.pursuit (world.intercepted number category triggers).pursuit
      (world.intercepted number category triggers).hits := by
    unfold World.intercepted scanInterceptors
    rcases unhampered with absent | aimless
    · rw [absent]
      exact .aimless rfl
    · rw [scanFrom_aimless _ _ _ _ _ _ aimless]
      refine .aimless (List.filterMap_eq_nil_iff.mpr fun hit member => ?_)
      rcases (scanFrom_within _ _ _ _ _ _).1 hit member with old | fired
      · cases old
      · simp [Hit.target?, aimless _ fired]
  exact intercepted.append (matchFrom_fresh _ _ [] _ _ _ (.aimless rfl))

/-- Sensing makes plans for goals that are held and have no plan yet. -/
theorem senseTriggers_exclusive (category : Category) (triggers : List (Trigger V))
    (inside : number < world.agents.size) (exclusive : world.Exclusive number hand)
    (offered : (world.agent number).interceptors.get category = [] ∧
        triggers = (world.agent number).goals.map .goal ∨
      ∀ trigger ∈ triggers, trigger.goal? = none)
    (complete : (world.senseTriggers number category triggers).2 = none) :
    (world.senseTriggers number category triggers).1.Exclusive number hand := by
  obtain ⟨pursuit, goals, plans⟩ := senseTriggers_complete category triggers inside complete
  refine exclusive.activate _ goals plans
    (pursuit ▸ sensedHits_fresh category triggers (offered.imp_left And.left)) ?_
  intro goal member
  obtain ⟨hit, hits, target⟩ := List.mem_filterMap.mp member
  have among := sensedHits_within category triggers hit hits
  unfold Hit.target? at target
  rcases offered with ⟨_, areGoals⟩ | aimless
  · rw [areGoals] at among
    obtain ⟨handle, held, isTrigger⟩ := List.mem_map.mp among
    rw [← isTrigger] at target
    cases target
    exact List.mem_map_of_mem held
  · rw [aimless _ among] at target
    cases target

/-- A plan in the hand is the only one for its goal. -/
theorem Exclusive.apart {active : ActivePlan V} {pending : List (ActivePlan V)}
    (exclusive : world.Exclusive number (active :: pending)) {goal : GoalId}
    (planned : goal ∈ world.targets number pending) : active.target? ≠ some goal := by
  intro target
  have split : (world.targets number (active :: pending)).Perm
      (goal :: world.targets number pending) := by
    unfold World.targets
    refine (List.perm_middle.filterMap _).trans ?_
    rw [List.filterMap_cons_some target]
  exact (List.nodup_cons.mp (split.nodup_iff.mp exclusive.plans)).1 planned

/-- Draining an inbox does so too, if the goals taken up have no live plan. -/
theorem drain_exclusive (exclusive : world.Exclusive number hand)
    (anew : TakesUpAnew world (world.drain number).1 number hand) :
    (world.drain number).1.Exclusive number hand := by
  have plans : ((world.drain number).1.agent number).plans = (world.agent number).plans :=
    field_modifyAgent Agent.plans world number number _ (Agent.plans_adoptAll _ _)
  refine exclusive.dwindle ((world.drain_moves number).lasting.goalsDistinct exclusive.goals) ?_
    (fun _ _ _ flagged => flagged) anew
  unfold World.targets
  rw [plans]

/-- An agent that stops takes up the goals that have arrived and turns to its shutdown plans. -/
theorem drain_closing_exclusive (exclusive : world.Exclusive number hand)
    (anew : TakesUpAnew world ((world.drain number).1.modifyAgent number fun agent =>
      { agent with shutdownPlans := [] }) number hand) :
    ((world.drain number).1.modifyAgent number fun agent =>
      { agent with shutdownPlans := [] }).Exclusive number hand := by
  have goals := field_modifyAgent Agent.goals (world.drain number).1 number number
    (fun agent => { agent with shutdownPlans := [] }) rfl
  have plans := field_modifyAgent Agent.plans (world.drain number).1 number number
    (fun agent => { agent with shutdownPlans := [] }) rfl
  have emptied := drain_exclusive exclusive (anew.congr rfl goals plans)
  exact emptied.congr goals plans fun _ _ => rfl

/-- Applying effects does so too, if the goals taken up have no live plan. -/
theorem applyEffects_exclusive (effects : Effects V) (inside : number < world.agents.size)
    (exclusive : world.Exclusive number [])
    (anew : TakesUpAnew world (world.applyEffects number effects) number []) :
    (world.applyEffects number effects).Exclusive number [] := by
  have targets :
      (world.applyEffects number effects).targets number [] = world.targets number [] := by
    unfold World.targets applyEffects
    rw [agent_modifyAgent_self world _ inside]
    simp only [List.append_nil, List.filterMap_append, target_detached, Agent.plans_adoptAll]
  exact exclusive.dwindle
    ((world.applyEffects_moves number effects).lasting.goalsDistinct exclusive.goals)
    (targets ▸ .refl _) (fun _ _ _ flagged => flagged) anew

/-- A step takes the plans of its agent into its hand. -/
theorem take_exclusive (inside : number < world.agents.size)
    (exclusive : world.Exclusive number []) :
    (world.modifyAgent number fun agent => { agent with plans := [] }).Exclusive number
      (world.agent number).plans := by
  have taken := agent_modifyAgent_self world (fun agent => { agent with plans := [] }) inside
  refine exclusive.dwindle (by rw [taken]; exact exclusive.goals) ?_
    (fun _ _ _ flagged => flagged) (.of_goals (fun goal held => ?_) _)
  · unfold World.targets
    rw [taken, List.nil_append, List.append_nil]
  · rw [taken] at held
    exact held

/-- A plan that was executed goes back to its agent, or it goes with its flag. -/
theorem kept_exclusive (act : Act V) (active : ActivePlan V) {pending : List (ActivePlan V)}
    {turn : Turn V} (action : Option V.Action) (memory : Nat)
    (inside : number < turn.world.agents.size)
    (exclusive : turn.world.Exclusive number (active :: pending)) :
    (act.kept number active turn action memory).world.Exclusive number pending := by
  simp only [Act.kept]
  split
  · refine exclusive.dwindle exclusive.goals ?_ (fun goal _ planned flagged => ?_)
      (.of_goals (fun _ held => held) _)
    · exact ((List.sublist_cons_self active pending).append_left _).filterMap _
    · exact (ActivePlan.isPursued_release_of_ne (exclusive.apart planned) _).trans flagged
  · have kept := agent_modifyAgent_self turn.world (fun agent =>
      { agent with
        plans := agent.plans ++ [{ active with plan := active.plan.remember memory }] }) inside
    refine exclusive.dwindle (by rw [kept]; exact exclusive.goals) ?_
      (fun _ _ _ flagged => flagged) (.of_goals (fun goal held => ?_) _)
    · unfold World.targets
      rw [kept, List.append_assoc, List.singleton_append, List.filterMap_append,
        List.filterMap_append, List.filterMap_cons, List.filterMap_cons]
      exact .refl _
    · rw [kept] at held
      exact held

/-- A plan that failed goes with its flag; those behind it go back to the agent. -/
theorem dropped_exclusive (act : Act V) (active : ActivePlan V) {pending : List (ActivePlan V)}
    {turn : Turn V} (inside : number < turn.world.agents.size)
    (exclusive : turn.world.Exclusive number (active :: pending)) :
    (act.dropped number active pending turn).world.Exclusive number [] := by
  have dropped : (act.dropped number active pending turn).world.agent number =
      { turn.world.agent number with plans := (turn.world.agent number).plans ++ pending } :=
    agent_modifyAgent_self { turn.world with pursuit := active.release turn.world.pursuit }
      (fun agent => { agent with plans := agent.plans ++ pending }) inside
  have targets : (act.dropped number active pending turn).world.targets number [] =
      turn.world.targets number pending := by
    unfold World.targets
    rw [dropped, List.append_nil]
  refine exclusive.dwindle (by rw [dropped]; exact exclusive.goals) ?_
    (fun goal _ planned flagged => ?_) (.of_goals (fun goal held => ?_) _)
  · rw [targets]
    exact ((List.sublist_cons_self active pending).append_left _).filterMap _
  · rw [targets] at planned
    exact (ActivePlan.isPursued_release_of_ne (exclusive.apart planned) _).trans flagged
  · rw [dropped] at held
    exact held

/-- The step of a plan that failed is over, and what its agent has requested is applied. -/
theorem failed_exclusive (act : Act V) (active : ActivePlan V) {pending : List (ActivePlan V)}
    {turn : Turn V} (inside : number < turn.world.agents.size)
    (exclusive : turn.world.Exclusive number (active :: pending))
    (anew : TakesUpAnew turn.world
      ((act.dropped number active pending turn).world.applyEffects number turn.effects) number []) :
    ((act.dropped number active pending turn).world.applyEffects number turn.effects).Exclusive
      number [] := by
  have goals : ((act.dropped number active pending turn).world.agent number).goals =
      (turn.world.agent number).goals :=
    field_modifyAgent Agent.goals
      { turn.world with pursuit := active.release turn.world.pursuit } number number _ rfl
  have frame := (act.dropped_moves number active pending turn).lasting.frame
  exact applyEffects_exclusive turn.effects (frame.size ▸ inside)
    (dropped_exclusive act active inside exclusive) (anew.congr goals rfl rfl)

/-- An agent that retires has no plan for any goal. -/
theorem retire_exclusive (inside : number < world.agents.size) :
    (world.retire number).Exclusive number [] := by
  have retired : (world.retire number).agent number =
      { world.agent number with plans := [], goals := [], done := true } :=
    (agent_congr rfl number).trans (agent_modifyAgent_self world
      (fun agent => { agent with plans := [], goals := [], done := true }) inside)
  refine { goals := ?_, plans := ?_, flagged := fun goal held => ?_ }
  · rw [retired]
    exact List.nodup_nil
  · unfold World.targets
    rw [retired]
    exact List.nodup_nil
  · rw [retired] at held
    cases held

end World

end Deliberation
