import Deliberation.Proofs.Frame
import Deliberation.Proofs.Hops

/-!
# Plans behind the flags

The flag of a goal says that a plan pursues it. Flags are set and cleared in many places while plans
move between an agent and its cycle, and agents may share goals. What holds all the time is
`World.Backed`: for every flagged goal there is a plan, in some agent or in the hand of a cycle that
is executing plans. Flags are set only for plans that are about to become active, and a plan goes
only with its flag. A stride that does not panic keeps this (`World.stride_backed`), and so does a
cycle (`World.cycle_backed`).
-/

namespace Deliberation

open Relation

variable {V : Vocabulary}

/-! ## Flags that matching sets -/

/-- A plan is made for a trigger that has a goal. -/
def Hit.Pursues (hit : Hit V) (goal : GoalId) : Prop :=
  ∃ handle, hit.trigger.goal? = some handle ∧ handle.id = goal

/-- A plan is active for a goal. -/
def ActivePlan.Pursues (active : ActivePlan V) (goal : GoalId) : Prop :=
  ∃ handle, active.goal = some handle ∧ handle.id = goal

/-- A flag that is left after another one was cleared was there before. -/
theorem Pursuit.isPursued_of_clear {pursuit : Pursuit} {cleared goal : GoalId}
    (flagged : (pursuit.set cleared false).isPursued goal = true) :
    pursuit.isPursued goal = true ∧ cleared ≠ goal := by
  rw [Pursuit.isPursued_set] at flagged
  split at flagged
  · cases flagged
  · rename_i different
    exact ⟨flagged, Ne.symm different⟩

/-- To flag the goal of a trigger flags no other goal. -/
theorem Trigger.isPursued_markPursued {trigger : Trigger V} {pursuit : Pursuit} {goal : GoalId}
    (flagged : (trigger.markPursued pursuit).isPursued goal = true) :
    pursuit.isPursued goal = true ∨ ∃ handle, trigger.goal? = some handle ∧ handle.id = goal := by
  unfold markPursued at flagged
  split at flagged
  · rename_i handle isGoal
    rw [Pursuit.isPursued_set] at flagged
    split at flagged
    · rename_i same
      exact .inr ⟨handle, isGoal, same.symm⟩
    · exact .inl flagged
  · exact .inl flagged

/-- A plan that is dropped takes the flag of its goal with it. -/
theorem ActivePlan.isPursued_release {active : ActivePlan V} {pursuit : Pursuit} {goal : GoalId}
    (flagged : (active.release pursuit).isPursued goal = true) :
    pursuit.isPursued goal = true ∧ ¬ active.Pursues goal := by
  unfold release at flagged
  split at flagged
  · rename_i handle isGoal
    obtain ⟨old, different⟩ := Pursuit.isPursued_of_clear flagged
    refine ⟨old, ?_⟩
    rintro ⟨other, isOther, same⟩
    rw [isGoal] at isOther
    cases isOther
    exact different same
  · rename_i noGoal
    refine ⟨flagged, ?_⟩
    rintro ⟨handle, isGoal, _⟩
    rw [noGoal] at isGoal
    cases isGoal

/-- An interceptor fires on one of the triggers and leaves the others. -/
theorem firstFiring_split (pursuit : Pursuit) (view : View V) (scheme : Scheme V)
    (triggers : List (Trigger V)) {firing : Firing V}
    (fires : firstFiring pursuit view scheme triggers = .ok (some firing)) :
    triggers = firing.before ++ firing.trigger :: firing.after := by
  induction triggers generalizing firing with
  | nil => cases fires
  | cons trigger rest ih =>
    simp only [firstFiring, bind, Except.bind] at fires
    split at fires
    · cases fires
    · split at fires
      · cases fires
        rfl
      · split at fires
        · cases fires
        · rename_i found? searched
          cases found : found? with
          | none =>
            rw [found] at fires
            cases fires
          | some later =>
            rw [found] at fires searched
            cases fires
            exact congrArg (trigger :: ·) (ih searched)

/-- What an interceptor leaves of the triggers, whether or not it takes the one it fired on. -/
theorem firstFiring_left {pursuit : Pursuit} {view : View V} {scheme : Scheme V}
    {triggers : List (Trigger V)} {firing : Firing V}
    (fires : firstFiring pursuit view scheme triggers = .ok (some firing)) (takes : Bool) :
    ∀ trigger ∈ if takes then firing.before ++ firing.after else triggers, trigger ∈ triggers := by
  have split := firstFiring_split _ _ _ _ fires
  intro trigger member
  cases takes with
  | false => exact member
  | true =>
    rw [split]
    rcases List.mem_append.mp member with before | after
    · exact List.mem_append_left _ before
    · exact List.mem_append_right _ (List.mem_cons_of_mem _ after)

/-- A scan of interceptors fires on nothing but the triggers, and leaves no others. -/
theorem scanFrom_within (view : View V) (scanned : List (Interceptor V × Bool))
    (hits : List (Hit V)) (triggers : List (Trigger V)) (pursuit : Pursuit)
    (interceptors : List (Interceptor V)) :
    (∀ hit ∈ (scanFrom view scanned hits triggers pursuit interceptors).hits,
      hit ∈ hits ∨ hit.trigger ∈ triggers) ∧
    ∀ trigger ∈ (scanFrom view scanned hits triggers pursuit interceptors).triggers,
      trigger ∈ triggers := by
  fun_induction scanFrom view scanned hits triggers pursuit interceptors with
  | case1 | case2 => exact ⟨fun hit member => .inl (List.mem_reverse.mp member), fun _ => id⟩
  | case3 _ _ _ _ _ _ _ ih => exact ih
  | case4 scanned hits triggers pursuit interceptor rest firing fires left hit ih =>
    have kept : ∀ trigger ∈ left, trigger ∈ triggers := firstFiring_left fires _
    refine ⟨fun other member => ?_, fun trigger member => kept trigger (ih.2 trigger member)⟩
    rcases ih.1 other member with old | later
    · rcases List.mem_cons.mp old with rfl | old
      · refine .inr ?_
        rw [firstFiring_split _ _ _ _ fires]
        exact List.mem_append_right _ List.mem_cons_self
      · exact .inl old
    · exact .inr (kept _ later)

/-- A scan keeps the hits that were made before. -/
theorem scanFrom_hits (view : View V) (scanned : List (Interceptor V × Bool)) (hits : List (Hit V))
    (triggers : List (Trigger V)) (pursuit : Pursuit) (interceptors : List (Interceptor V)) :
    ∀ hit ∈ hits, hit ∈ (scanFrom view scanned hits triggers pursuit interceptors).hits := by
  fun_induction scanFrom view scanned hits triggers pursuit interceptors with
  | case1 | case2 => exact fun hit member => List.mem_reverse.mpr member
  | case3 _ _ _ _ _ _ _ ih => exact ih
  | case4 _ _ _ _ _ _ _ _ left hit ih =>
    exact fun other member => ih other (List.mem_cons_of_mem _ member)

/-- Every flag that a scan of interceptors sets is that of a hit. -/
theorem scanFrom_flags (view : View V) (scanned : List (Interceptor V × Bool))
    (hits : List (Hit V)) (triggers : List (Trigger V)) (pursuit : Pursuit)
    (interceptors : List (Interceptor V)) {goal : GoalId}
    (flagged : (scanFrom view scanned hits triggers pursuit interceptors).pursuit.isPursued goal =
      true) :
    pursuit.isPursued goal = true ∨
      ∃ hit ∈ (scanFrom view scanned hits triggers pursuit interceptors).hits, hit.Pursues goal := by
  fun_induction scanFrom view scanned hits triggers pursuit interceptors with
  | case1 | case2 => exact .inl flagged
  | case3 _ _ _ _ _ _ _ ih => exact ih flagged
  | case4 scanned hits triggers pursuit interceptor rest firing _ left hit ih =>
    rcases ih flagged with before | later
    · rcases Trigger.isPursued_markPursued before with old | pursues
      · exact .inl old
      · exact .inr ⟨hit, scanFrom_hits view _ _ _ _ _ hit List.mem_cons_self, pursues⟩
    · exact .inr later

/-- Matching keeps the hits that were made before. -/
theorem matchFrom_hits (view : View V) (hits : List (Hit V)) (pursuit : Pursuit)
    (schemes : List (Scheme V)) (triggers : List (Trigger V)) :
    ∀ hit ∈ hits, hit ∈ (matchFrom view hits pursuit schemes triggers).hits := by
  fun_induction matchFrom view hits pursuit schemes triggers with
  | case1 | case3 => exact fun hit member => List.mem_reverse.mpr member
  | case2 _ _ _ _ _ _ ih | case4 _ _ _ _ _ _ _ _ ih => exact ih
  | case5 hits pursuit schemes trigger rest _ name plan used _ ih =>
    exact fun other member => ih other (List.mem_cons_of_mem _ member)

/-- Every flag that matching with schemes sets is that of a hit. -/
theorem matchFrom_flags (view : View V) (hits : List (Hit V)) (pursuit : Pursuit)
    (schemes : List (Scheme V)) (triggers : List (Trigger V)) {goal : GoalId}
    (flagged : (matchFrom view hits pursuit schemes triggers).pursuit.isPursued goal = true) :
    pursuit.isPursued goal = true ∨
      ∃ hit ∈ (matchFrom view hits pursuit schemes triggers).hits, hit.Pursues goal := by
  fun_induction matchFrom view hits pursuit schemes triggers with
  | case1 | case3 => exact .inl flagged
  | case2 _ _ _ _ _ _ ih | case4 _ _ _ _ _ _ _ _ ih => exact ih flagged
  | case5 hits pursuit schemes trigger rest _ name plan used _ ih =>
    rcases ih flagged with before | later
    · rcases Trigger.isPursued_markPursued before with old | pursues
      · exact .inl old
      · exact .inr ⟨_, matchFrom_hits view _ _ _ _ _ List.mem_cons_self, pursues⟩
    · exact .inr later

/-- To drop achieved goals flags none. -/
theorem sweepGoals_flags (contexts : Contexts V.Object) (pursuit : Pursuit)
    (goals : List (GoalHandle V)) {goal : GoalId}
    (flagged : (sweepGoals contexts pursuit goals).2.1.isPursued goal = true) :
    pursuit.isPursued goal = true := by
  fun_induction sweepGoals contexts pursuit goals with
  | case1 | case2 => exact flagged
  | case3 pursuit handle rest _ ih => exact (Pursuit.isPursued_of_clear (ih flagged)).1
  | case4 pursuit handle rest _ kept after panic swept ih =>
    rw [swept] at ih
    exact ih flagged

/-! ## Plans behind the flags -/

/-- An agent or the hand of a cycle has a plan for a goal. -/
def World.Backs (world : World V) (hand : List (ActivePlan V)) (goal : GoalId) : Prop :=
  (∃ number, ∃ active ∈ (world.agent number).plans, active.Pursues goal) ∨
    ∃ active ∈ hand, active.Pursues goal

/-- Every flagged goal has a plan. -/
def World.Backed (world : World V) (hand : List (ActivePlan V)) : Prop :=
  ∀ goal, world.pursuit.isPursued goal = true → world.Backs hand goal

namespace World.Backed

variable {world next : World V} {hand others : List (ActivePlan V)}

/-- Flags may go, and plans may come. -/
theorem grow (backed : world.Backed hand)
    (flags : ∀ goal, next.pursuit.isPursued goal = true → world.pursuit.isPursued goal = true)
    (plans : ∀ number, ∀ active ∈ (world.agent number).plans, active ∈ (next.agent number).plans) :
    next.Backed hand := by
  intro goal flagged
  rcases backed goal (flags goal flagged) with ⟨number, active, member, pursues⟩ | inHand
  · exact .inl ⟨number, active, plans number active member, pursues⟩
  · exact .inr inHand

/-- Only flags and plans matter. -/
theorem congr (backed : world.Backed hand) (pursuit : next.pursuit = world.pursuit)
    (plans : ∀ number, (next.agent number).plans = (world.agent number).plans) :
    next.Backed hand :=
  backed.grow (fun _ flagged => pursuit ▸ flagged) fun number _ member => plans number ▸ member

/-- It does not matter in what order the plans are in the hand. -/
theorem subset (backed : world.Backed hand) (held : ∀ active, active ∈ hand → active ∈ others) :
    world.Backed others := by
  intro goal flagged
  exact (backed goal flagged).imp_right fun ⟨active, member, pursues⟩ =>
    ⟨active, held active member, pursues⟩

/-- An arrival leaves plans and flags. -/
theorem arrive (backed : world.Backed hand) (number : BirthNumber) (arrival : Arrival V) :
    (world.arrive number arrival).Backed hand := by
  obtain ⟨_, _, _, arrived⟩ := world.arrive_eq number arrival
  refine backed.congr (by rw [arrived]) fun other => ?_
  exact field_arrive Agent.plans world number other arrival fun _ _ => rfl

/-- A script leaves flags and plans alone. -/
theorem stirs {self : BirthNumber} (backed : world.Backed hand) (stirs : Stirs self world next) :
    next.Backed hand := by
  induction stirs with
  | refl => exact backed
  | @tail middle next _ stir ih =>
    cases stir with
    | tune change only =>
      refine ih.congr rfl fun number => ?_
      obtain ⟨contexts, interceptors, changed⟩ := only (middle.agent self)
      exact field_modifyAgent Agent.plans middle self number change (by rw [changed])
    | arrive number arrival => exact ih.arrive number arrival
    | aside messenger names journal clock => exact ih

end World.Backed

/-! ## Plans in the midst of a cycle -/

/-- An agent that adopts goals keeps its plans. -/
theorem Agent.plans_adoptAll (handles : List (GoalHandle V)) (agent : Agent V) :
    (handles.foldl Agent.adopt agent).plans = agent.plans := by
  induction handles generalizing agent with
  | nil => rfl
  | cons handle rest ih =>
    refine (ih _).trans ?_
    unfold adopt
    split <;> rfl

namespace World

variable {world : World V} {number : BirthNumber} {hand others : List (ActivePlan V)}

/-- Draining an inbox leaves plans and flags. -/
theorem drain_backed (backed : world.Backed hand) : (world.drain number).1.Backed hand :=
  backed.congr rfl fun other =>
    field_modifyAgent Agent.plans world number other _ (Agent.plans_adoptAll _ _)

/-- A check of the goals clears flags only. -/
theorem sweep_backed (backed : world.Backed hand) : (world.sweep number).1.Backed hand :=
  backed.grow (fun _ flagged => sweepGoals_flags _ _ _ flagged) fun other active member => by
    have plans := field_modifyAgent Agent.plans
      { world with
        pursuit := (sweepGoals (world.agent number).contexts world.pursuit
          (world.agent number).goals).2.1 }
      number other
      (fun agent => { agent with
        goals := (sweepGoals (world.agent number).contexts world.pursuit
          (world.agent number).goals).1 }) rfl
    exact plans ▸ member

/-- A change that adds plans to an agent takes none away from any. -/
theorem plans_modifyAgent (change : Agent V → Agent V)
    (adds : ∀ active ∈ (world.agent number).plans, active ∈ (change (world.agent number)).plans)
    (other : BirthNumber) :
    ∀ active ∈ (world.agent other).plans,
      active ∈ ((world.modifyAgent number change).agent other).plans := by
  by_cases same : other = number
  · subst same
    by_cases inside : other < world.agents.size
    · rw [agent_modifyAgent_self world change inside]
      exact adds
    · rw [modifyAgent_outside world change (Nat.le_of_not_lt inside)]
      exact fun _ member => member
  · rw [agent_modifyAgent_of_ne world change same]
    exact fun _ member => member

/-- Plans that become active back the flags that were set for them. -/
theorem activate_backed {middle : World V} (backed : world.Backed hand)
    (plans : ∀ other, (middle.agent other).plans = (world.agent other).plans)
    (inside : number < middle.agents.size) (hits : List (Hit V))
    (flags : ∀ goal, middle.pursuit.isPursued goal = true →
      world.pursuit.isPursued goal = true ∨ ∃ hit ∈ hits, hit.Pursues goal) :
    (middle.modifyAgent number fun agent =>
      { agent with plans := agent.plans ++ activated hits }).Backed hand := by
  intro goal flagged
  rcases flags goal flagged with old | ⟨hit, member, pursues⟩
  · rcases backed goal old with ⟨other, active, member, pursues⟩ | inHand
    · rw [← plans other] at member
      exact .inl ⟨other, active, plans_modifyAgent _
        (fun _ member => List.mem_append_left _ member) other active member, pursues⟩
    · exact .inr inHand
  · refine .inl ⟨number, ActivePlan.instantiated hit.plan hit.trigger, ?_, pursues⟩
    rw [agent_modifyAgent_self middle _ inside]
    exact List.mem_append_right _ (List.mem_map_of_mem member)

/-- What sensing adds to the flags, it adds to the plans. -/
theorem senseTriggers_backed (category : Category) (triggers : List (Trigger V))
    (inside : number < world.agents.size) (backed : world.Backed hand) :
    (world.senseTriggers number category triggers).2 = none →
      (world.senseTriggers number category triggers).1.Backed hand := by
  simp only [senseTriggers]
  split
  · intro broken
    cases broken
  · split
    · intro broken
      cases broken
    · intro _
      refine activate_backed backed (fun other => ?_) (by simpa using inside) _ fun goal flagged => ?_
      · refine (field_modifyAgent Agent.plans _ number other _ rfl).trans ?_
        exact field_modifyAgent Agent.plans
          { world with
            pursuit := (scanInterceptors (world.agent number).view world.pursuit triggers
              ((world.agent number).interceptors.get category)).pursuit }
          number other _ rfl
      · rcases matchFrom_flags _ _ _ _ _ flagged with scanned | ⟨hit, member, pursues⟩
        · rcases scanFrom_flags _ _ _ _ _ _ scanned with old | ⟨hit, member, pursues⟩
          · exact .inl old
          · exact .inr ⟨hit, List.mem_append_left _ member, pursues⟩
        · exact .inr ⟨hit, List.mem_append_right _ member, pursues⟩

/-- The effects of a cycle leave the plans behind the flags. -/
theorem applyEffects_backed (effects : Effects V) (backed : world.Backed hand) :
    (world.applyEffects number effects).Backed hand := by
  refine backed.grow (fun _ flagged => flagged) fun other => ?_
  refine plans_modifyAgent _ (fun active member => ?_) other
  refine List.mem_append_left _ ?_
  rw [Agent.plans_adoptAll]
  exact member

/-- A plan that was executed leaves the hand: it is active again, or it is gone with its flag. -/
theorem kept_backed (act : Act V) (active : ActivePlan V) {turn : Turn V}
    (action : Option V.Action) (memory : Nat) (inside : number < turn.world.agents.size)
    (backed : turn.world.Backed (active :: hand)) :
    (act.kept number active turn action memory).world.Backed hand := by
  intro goal flagged
  simp only [Act.kept] at flagged ⊢
  split at flagged
  · rename_i finished
    obtain ⟨old, notActive⟩ := ActivePlan.isPursued_release flagged
    rw [if_pos finished]
    rcases backed goal old with inAgent | ⟨other, member, pursues⟩
    · exact .inl inAgent
    · rcases List.mem_cons.mp member with rfl | inHand
      · exact absurd pursues notActive
      · exact .inr ⟨other, inHand, pursues⟩
  · rename_i unfinished
    rw [if_neg unfinished]
    rcases backed goal flagged with ⟨other, plan, member, pursues⟩ | ⟨plan, member, pursues⟩
    · exact .inl ⟨other, plan, plans_modifyAgent _
        (fun _ member => List.mem_append_left _ member) other plan member, pursues⟩
    · rcases List.mem_cons.mp member with rfl | inHand
      · refine .inl ⟨number, { plan with plan := plan.plan.remember memory }, ?_, pursues⟩
        rw [agent_modifyAgent_self turn.world _ inside]
        exact List.mem_append_right _ List.mem_cons_self
      · exact .inr ⟨plan, inHand, pursues⟩

/-- A plan that failed is gone with its flag; those behind it go back to the agent. -/
theorem dropped_backed (act : Act V) (active : ActivePlan V) {pending : List (ActivePlan V)}
    {turn : Turn V} (inside : number < turn.world.agents.size)
    (backed : turn.world.Backed (active :: pending ++ hand)) :
    (act.dropped number active pending turn).world.Backed hand := by
  intro goal flagged
  obtain ⟨old, notActive⟩ := ActivePlan.isPursued_release flagged
  have changed := agent_modifyAgent_self
    ({ turn.world with pursuit := active.release turn.world.pursuit } : World V)
    (fun agent => { agent with plans := agent.plans ++ pending }) inside
  rcases backed goal old with ⟨other, plan, member, pursues⟩ | ⟨plan, member, pursues⟩
  · exact .inl ⟨other, plan, plans_modifyAgent _
      (fun _ member => List.mem_append_left _ member) other plan member, pursues⟩
  · rcases List.mem_append.mp member with inStep | inHand
    · rcases List.mem_cons.mp inStep with rfl | isPending
      · exact absurd pursues notActive
      · refine .inl ⟨number, plan, ?_, pursues⟩
        simp only [Act.dropped]
        rw [changed]
        exact List.mem_append_right _ isPending
    · exact .inr ⟨plan, inHand, pursues⟩

/-- A step takes the plans of its agent into its hand. -/
theorem take_backed (backed : world.Backed hand) :
    (world.modifyAgent number fun agent => { agent with plans := [] }).Backed
      ((world.agent number).plans ++ hand) := by
  intro goal flagged
  rcases backed goal flagged with ⟨other, active, member, pursues⟩ | ⟨active, member, pursues⟩
  · by_cases same : other = number
    · subst same
      exact .inr ⟨active, List.mem_append_left _ member, pursues⟩
    · refine .inl ⟨other, active, ?_, pursues⟩
      rw [agent_modifyAgent_of_ne world _ same]
      exact member
  · exact .inr ⟨active, List.mem_append_right _ member, pursues⟩

/-- A flag that is left when plans gave theirs back belongs to none of them. -/
theorem isPursued_releaseAll {plans : List (ActivePlan V)} {pursuit : Pursuit} {goal : GoalId}
    (flagged : (plans.foldl (fun pursuit active => active.release pursuit) pursuit).isPursued goal =
      true) :
    pursuit.isPursued goal = true ∧ ∀ active ∈ plans, ¬ active.Pursues goal := by
  induction plans generalizing pursuit with
  | nil => exact ⟨flagged, fun _ member => (nomatch member)⟩
  | cons active rest ih =>
    obtain ⟨released, others⟩ := ih flagged
    obtain ⟨old, notActive⟩ := ActivePlan.isPursued_release released
    refine ⟨old, fun other member => ?_⟩
    rcases List.mem_cons.mp member with rfl | inRest
    · exact notActive
    · exact others other inRest

/-- A flag that is left when flags were cleared was there before. -/
theorem isPursued_clearAll {goals : List (GoalHandle V)} {pursuit : Pursuit} {goal : GoalId}
    (flagged : (goals.foldl (fun pursuit handle => pursuit.set handle.id false) pursuit).isPursued
      goal = true) : pursuit.isPursued goal = true := by
  induction goals generalizing pursuit with
  | nil => exact flagged
  | cons handle rest ih => exact (Pursuit.isPursued_of_clear (ih flagged)).1

/-- A flag that is left when flags were cleared is none of these. -/
theorem notMem_of_isPursued_clearAll {goals : List (GoalHandle V)} {pursuit : Pursuit}
    {goal : GoalId}
    (flagged : (goals.foldl (fun pursuit handle => pursuit.set handle.id false) pursuit).isPursued
      goal = true) : ∀ handle ∈ goals, handle.id ≠ goal := by
  induction goals generalizing pursuit with
  | nil => nofun
  | cons handle rest ih =>
    intro other member
    rcases List.mem_cons.mp member with rfl | inRest
    · exact (Pursuit.isPursued_of_clear (isPursued_clearAll flagged)).2
    · exact ih flagged other inRest

/-- An agent that retires drops its plans with their flags. -/
theorem retire_backed (backed : world.Backed hand) : (world.retire number).Backed hand := by
  intro goal flagged
  obtain ⟨old, notHeld⟩ := isPursued_releaseAll (isPursued_clearAll flagged)
  rcases backed goal old with ⟨other, active, member, pursues⟩ | inHand
  · by_cases same : other = number
    · subst same
      exact absurd pursues (notHeld active member)
    · refine .inl ⟨other, active, ?_, pursues⟩
      simp only [retire]
      rw [agent_modifyAgent_of_ne _ _ same]
      exact member
  · exact .inr inHand

end World

/-- The plans that a cycle has taken out of its agent. -/
def Phase.hand : Phase V → List (ActivePlan V)
  | .planning pending _ _ => pending
  | .acting _ _ active pending _ _ => active :: pending
  | _ => []

/-- A stride that does not panic moves plans with their flags. -/
theorem World.stride_backed (world : World V) {number : BirthNumber}
    (inside : number < world.agents.size) (phase : Phase V) (others : List (ActivePlan V))
    (calm : ∀ cause, (world.stride number phase).2 ≠ .finished (.panicked cause)) :
    world.Backed (phase.hand ++ others) →
      (world.stride number phase).1.Backed ((world.stride number phase).2.hand ++ others) := by
  have strode := world.strode number phase
  generalize world.stride number phase = next at strode calm ⊢
  intro backed
  cases strode with
  | idles | sensed | passes | begins | parts | rests => exact backed
  | turns after inbox _ drained =>
    have emptied : (world.drain number).1.Backed others := drain_backed backed
    rw [drained] at emptied
    exact emptied.congr rfl fun other => field_modifyAgent Agent.plans after number other _ rfl
  | wakes after inbox _ drained =>
    have emptied : (world.drain number).1.Backed others := drain_backed backed
    rwa [drained] at emptied
  | sweepPanics inbox after panic => exact absurd rfl (calm panic)
  | sweeps inbox after swept =>
    have kept : (world.sweep number).1.Backed others := sweep_backed backed
    rwa [swept] at kept
  | sensePanics inbox category steps acts after panic => exact absurd rfl (calm panic)
  | senses inbox category steps acts after _ senses =>
    have sensed :=
      senseTriggers_backed category (world.offered number inbox category) inside backed
    rw [senses] at sensed
    exact sensed rfl
  | concludes progress => exact applyEffects_backed progress.effects backed
  | takes steps progress => exact take_backed backed
  | actingReturns script finished active pending steps progress turn action memory returned =>
    have stirs := Script.stirs_of_advance returned
    exact kept_backed (progress.act world) active action memory
      (stirs.steady.lasting.frame.size ▸ inside) (backed.stirs stirs)
  | actingFails script finished active pending steps progress turn cause memory returned =>
    have stirs := Script.stirs_of_advance returned
    exact applyEffects_backed turn.effects
      (dropped_backed (progress.act world) active (stirs.steady.lasting.frame.size ▸ inside)
        (backed.stirs stirs))
  | actingPanics script finished active pending steps progress turn cause
  | partingPanics script finished pending effects actions turn cause =>
    exact absurd rfl (calm cause)
  | actingGoesOn script finished active pending steps progress turn wait rest blocked
  | partingGoesOn script finished pending effects actions turn wait rest blocked =>
    exact backed.stirs (Script.stirs_of_advance blocked)
  | retires effects actions => exact retire_backed backed
  | partingReturns script finished pending effects actions turn action memory returned
  | partingFails script finished pending effects actions turn cause memory returned =>
    exact backed.stirs (Script.stirs_of_advance returned)

/-- What every stride keeps, a whole cycle keeps: when it ends, every flag has a plan again. -/
theorem World.cycle_backed {world next : World V} {number : BirthNumber} {deadline : Option Nat}
    {outcome : CycleOutcome V} (inside : number < world.agents.size)
    (ran : world.cycle number deadline = .ended next outcome)
    (calm : ∀ cause, outcome ≠ .panicked cause) (backed : world.Backed []) : next.Backed [] := by
  have strides := world.cycle_strides number deadline
  rw [ran] at strides
  suffices reached : ∀ stop, Strides number (world, .waking) stop →
      (∀ cause, stop.2 ≠ .finished (.panicked cause)) → stop.1.Backed (stop.2.hand ++ []) from
    reached _ strides fun cause panicked => calm cause (Phase.finished.inj panicked)
  intro stop strides
  induction strides with
  | refl => exact fun _ => backed
  | tail before stride ih =>
    intro calm
    cases stride with
    | stride middle phase =>
      have size := (Strides.moves before).frame.size
      refine middle.stride_backed (size ▸ inside) phase [] calm (ih ?_)
      rintro cause rfl
      exact calm cause rfl
    | elapse middle phase clock => exact (ih calm).congr rfl fun _ => rfl

end Deliberation
