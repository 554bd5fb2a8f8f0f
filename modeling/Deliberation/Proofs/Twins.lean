import Deliberation.Proofs.Pursuit

/-!
# Worlds that an agent cannot tell apart

Besides its agent a cycle can read and change what all agents share: the flags of goals, the
schedule, the inboxes of others. Two worlds are twins for an agent when they agree on all that
concerns its own goals, its entry in the schedule and itself (`World.Twin`). Matching comes to the
same in both, as long as schemes look at no flag of another agent, and what changes in both of them
changes in tandem (`World.Tandem`).
-/

namespace Deliberation

open Relation

variable {V : Vocabulary}

/-! ## Flags -/

namespace Pursuit

/-- Two sets of flags agree on some goals. -/
def Agree (own : GoalId → Prop) (first second : Pursuit) : Prop :=
  ∀ goal, own goal → first.isPursued goal = second.isPursued goal

/-- Flags that change together with others, and on some goals only. -/
structure Tandem (own : GoalId → Prop) (before after other : Pursuit) : Prop where
  agree : after.Agree own other
  rest : ∀ goal, ¬ own goal → after.isPursued goal = before.isPursued goal

variable {own : GoalId → Prop} {before after other : Pursuit}

/-- Flags that agree have changed in tandem if neither has changed. -/
theorem Agree.tandem (agree : before.Agree own other) : Tandem own before before other :=
  ⟨agree, fun _ _ => rfl⟩

/-- Setting an own flag on both sides is a change in tandem. -/
theorem Agree.set (agree : before.Agree own other) {goal : GoalId} (isOwn : own goal)
    (pursued : Bool) : Tandem own before (before.set goal pursued) (other.set goal pursued) where
  agree := by
    intro flag flagOwn
    rw [isPursued_set, isPursued_set, agree flag flagOwn]
  rest := by
    intro flag notOwn
    have different : flag ≠ goal := fun same => notOwn (same ▸ isOwn)
    rw [isPursued_set, if_neg different]

/-- Changes in tandem follow one another. -/
theorem Tandem.trans {later last : Pursuit} (first : Tandem own before after other)
    (second : Tandem own after later last) : Tandem own before later last :=
  ⟨second.agree, fun goal notOwn => (second.rest goal notOwn).trans (first.rest goal notOwn)⟩

end Pursuit

/-! ## What belongs to an agent -/

variable {own : GoalId → Prop}

/-- A trigger is no goal of another agent. -/
def Trigger.Within (own : GoalId → Prop) (trigger : Trigger V) : Prop :=
  ∀ handle, trigger.goal? = some handle → own handle.id

/-- A plan is for no goal of another agent. -/
def ActivePlan.Within (own : GoalId → Prop) (active : ActivePlan V) : Prop :=
  ∀ handle, active.goal = some handle → own handle.id

/-- A scheme looks at no flag of another agent. -/
def Scheme.Within (own : GoalId → Prop) : Scheme V → Prop
  | rule _ attempt => ∀ first second : Pursuit, first.Agree own second →
      attempt first = attempt second
  | oneShot _ selects _ _ => ∀ first second : Pursuit, first.Agree own second →
      selects first = selects second

/-- A sense step starts from no goal of another agent. -/
theorem World.within_offered {world : World V} {number : BirthNumber} {inbox : Inbox V}
    {category : Category} (owned : ∀ handle ∈ (world.agent number).goals, own handle.id)
    (arrived : ∀ trigger ∈ inbox.triggers category, trigger.Within own) :
    ∀ trigger ∈ world.offered number inbox category, trigger.Within own := by
  intro trigger member
  unfold offered at member
  split at member
  · obtain ⟨handle, held, rfl⟩ := List.mem_map.mp member
    intro aim same
    obtain rfl : handle = aim := Option.some.inj same
    exact owned handle held
  · exact arrived trigger member

/-! ### Matching -/

/-- To be used changes nothing about what a scheme looks at. -/
theorem Scheme.within_instantiate {scheme used : Scheme V} (within : scheme.Within own)
    {pursuit : Pursuit} {view : View V} {trigger : Trigger V} {plan? : Option (Plan V)}
    (made : scheme.instantiate pursuit view trigger = .ok (plan?, used)) : used.Within own := by
  cases scheme with
  | rule name attempt =>
    simp only [instantiate, bind, Except.bind] at made
    split at made
    · cases made
    · cases made
      exact within
  | oneShot name selects plan spent =>
    simp only [instantiate, bind, Except.bind] at made
    split at made
    · cases made
    · split at made
      · cases made
        exact within
      · cases made
        exact within

/-- The schemes that are left keep to the same goals. -/
theorem within_firstPlan {schemes used : List (Scheme V)}
    (within : ∀ scheme ∈ schemes, scheme.Within own) {pursuit : Pursuit} {view : View V}
    {trigger : Trigger V} {plan? : Option (String × Plan V)}
    (made : firstPlan pursuit view trigger schemes = .ok (plan?, used)) :
    ∀ scheme ∈ used, scheme.Within own := by
  induction schemes generalizing used plan? with
  | nil =>
    cases made
    exact within
  | cons scheme rest ih =>
    have behind : ∀ other ∈ rest, other.Within own := fun other member =>
      within other (List.mem_cons_of_mem _ member)
    simp only [firstPlan, bind, Except.bind] at made
    split at made
    · cases made
    · rename_i tried
      have ahead := Scheme.within_instantiate (within scheme List.mem_cons_self) tried
      split at made
      · cases made
        exact List.forall_mem_cons.mpr ⟨ahead, behind⟩
      · split at made
        · cases made
        · rename_i later
          cases made
          exact List.forall_mem_cons.mpr ⟨ahead, ih behind later⟩

section

variable {first second : Pursuit} (agree : first.Agree own second)

include agree

/-- A trigger with an own goal marks it on both sides. -/
theorem Trigger.markPursued_tandem {trigger : Trigger V} (within : trigger.Within own) :
    Pursuit.Tandem own first (trigger.markPursued first) (trigger.markPursued second) := by
  unfold Trigger.markPursued
  cases goal : trigger.goal? with
  | none => exact agree.tandem
  | some handle => exact agree.set (within handle goal) true

/-- Whether the goal of a trigger is pursued depends on own flags only. -/
theorem Trigger.isPursuedGoal_agree {trigger : Trigger V} (within : trigger.Within own) :
    trigger.isPursuedGoal first = trigger.isPursuedGoal second := by
  unfold Trigger.isPursuedGoal
  cases goal : trigger.goal? with
  | none => rfl
  | some handle => exact agree _ (within handle goal)

/-- A plan with an own goal gives its flag back on both sides. -/
theorem ActivePlan.release_tandem {active : ActivePlan V} (within : active.Within own) :
    Pursuit.Tandem own first (active.release first) (active.release second) := by
  unfold ActivePlan.release
  cases goal : active.goal with
  | none => exact agree.tandem
  | some handle => exact agree.set (within handle goal) false

/-- What a scheme makes of a trigger depends on own flags only. -/
theorem Scheme.instantiate_agree {scheme : Scheme V} (within : scheme.Within own)
    (view : View V) (trigger : Trigger V) :
    scheme.instantiate first view trigger = scheme.instantiate second view trigger := by
  cases scheme with
  | rule name attempt =>
    simp only [Scheme.instantiate]
    rw [within first second agree]
  | oneShot name selects plan spent =>
    simp only [Scheme.instantiate]
    rw [within first second agree]

/-- For which trigger a scheme fires depends on own flags only. -/
theorem firstFiring_agree {scheme : Scheme V} (within : scheme.Within own) (view : View V)
    (triggers : List (Trigger V)) :
    firstFiring first view scheme triggers = firstFiring second view scheme triggers := by
  induction triggers with
  | nil => rfl
  | cons trigger rest ih =>
    unfold firstFiring
    rw [scheme.instantiate_agree agree within, ih]

/-- Which scheme has a plan for a trigger depends on own flags only. -/
theorem firstPlan_agree {schemes : List (Scheme V)}
    (within : ∀ scheme ∈ schemes, scheme.Within own) (view : View V) (trigger : Trigger V) :
    firstPlan first view trigger schemes = firstPlan second view trigger schemes := by
  induction schemes with
  | nil => rfl
  | cons scheme rest ih =>
    unfold firstPlan
    rw [scheme.instantiate_agree agree (within scheme List.mem_cons_self),
      ih fun other member => within other (List.mem_cons_of_mem _ member)]

/-- Interceptors come to the same with flags that agree where it matters. -/
theorem scanFrom_tandem (view : View V) (scanned : List (Interceptor V × Bool))
    (hits : List (Hit V)) {triggers : List (Trigger V)} {interceptors : List (Interceptor V)}
    (aims : ∀ trigger ∈ triggers, trigger.Within own)
    (within : ∀ interceptor ∈ interceptors, interceptor.scheme.Within own) :
    scanFrom view scanned hits triggers first interceptors =
        { scanFrom view scanned hits triggers second interceptors with
          pursuit := (scanFrom view scanned hits triggers first interceptors).pursuit } ∧
      Pursuit.Tandem own first (scanFrom view scanned hits triggers first interceptors).pursuit
        (scanFrom view scanned hits triggers second interceptors).pursuit := by
  induction interceptors generalizing scanned hits triggers first second with
  | nil => exact ⟨rfl, agree.tandem⟩
  | cons interceptor rest ih =>
    have same := firstFiring_agree agree (within interceptor List.mem_cons_self) view triggers
    have behind : ∀ other ∈ rest, other.scheme.Within own := fun other member =>
      within other (List.mem_cons_of_mem _ member)
    simp only [scanFrom, ← same]
    cases fires : firstFiring first view interceptor.scheme triggers with
    | error panic => exact ⟨rfl, agree.tandem⟩
    | ok firing? =>
      cases firing? with
      | none => exact ih agree _ _ aims behind
      | some firing =>
        have fired : firing.trigger.Within own := by
          refine aims _ ?_
          rw [firstFiring_split _ _ _ _ fires]
          exact List.mem_append_right _ List.mem_cons_self
        have marked := firing.trigger.markPursued_tandem agree fired
        obtain ⟨scans, later⟩ := ih marked.agree _ _
          (fun trigger member => aims trigger (firstFiring_left fires _ trigger member)) behind
        exact ⟨scans, marked.trans later⟩

/-- Schemes come to the same with flags that agree where it matters. -/
theorem matchFrom_tandem (view : View V) (hits : List (Hit V)) {schemes : List (Scheme V)}
    {triggers : List (Trigger V)} (within : ∀ scheme ∈ schemes, scheme.Within own)
    (aims : ∀ trigger ∈ triggers, trigger.Within own) :
    matchFrom view hits first schemes triggers =
        { matchFrom view hits second schemes triggers with
          pursuit := (matchFrom view hits first schemes triggers).pursuit } ∧
      Pursuit.Tandem own first (matchFrom view hits first schemes triggers).pursuit
        (matchFrom view hits second schemes triggers).pursuit := by
  induction triggers generalizing hits schemes first second with
  | nil => exact ⟨rfl, agree.tandem⟩
  | cons trigger rest ih =>
    have aim := aims trigger List.mem_cons_self
    have behind : ∀ other ∈ rest, other.Within own := fun other member =>
      aims other (List.mem_cons_of_mem _ member)
    simp only [matchFrom, ← trigger.isPursuedGoal_agree agree aim,
      ← firstPlan_agree agree within view trigger]
    split
    · exact ih agree _ within behind
    · cases made : firstPlan first view trigger schemes with
      | error panic => exact ⟨rfl, agree.tandem⟩
      | ok answer =>
        obtain ⟨plan?, used⟩ := answer
        have still := within_firstPlan within made
        cases plan? with
        | none => exact ih agree _ still behind
        | some named =>
          have marked := trigger.markPursued_tandem agree aim
          obtain ⟨finds, later⟩ := ih marked.agree _ still behind
          exact ⟨finds, marked.trans later⟩

/-- The same goals are dropped with flags that agree where it matters. -/
theorem sweepGoals_tandem (contexts : Contexts V.Object) {goals : List (GoalHandle V)}
    (owned : ∀ handle ∈ goals, own handle.id) :
    sweepGoals contexts first goals =
        ((sweepGoals contexts second goals).1, (sweepGoals contexts first goals).2.1,
          (sweepGoals contexts second goals).2.2) ∧
      Pursuit.Tandem own first (sweepGoals contexts first goals).2.1
        (sweepGoals contexts second goals).2.1 := by
  induction goals generalizing first second with
  | nil => exact ⟨rfl, agree.tandem⟩
  | cons handle rest ih =>
    have behind : ∀ other ∈ rest, own other.id := fun other member =>
      owned other (List.mem_cons_of_mem _ member)
    simp only [sweepGoals]
    cases holds : V.holds handle.goal contexts with
    | error panic => exact ⟨rfl, agree.tandem⟩
    | ok achieved =>
      cases achieved with
      | true =>
        have cleared := agree.set (owned handle List.mem_cons_self) false
        obtain ⟨sweeps, later⟩ := ih cleared.agree behind
        exact ⟨sweeps, cleared.trans later⟩
      | false =>
        obtain ⟨sweeps, later⟩ := ih agree behind
        exact ⟨by rw [sweeps], later⟩

end

/-! ## Worlds -/

namespace World

/-- Two worlds agree on what concerns an agent that keeps to itself. -/
structure Alike (own : GoalId → Prop) (number : BirthNumber) (world other : World V) : Prop where
  inside : number < world.agents.size
  otherInside : number < other.agents.size
  agent : world.agent number = other.agent number
  flags : world.pursuit.Agree own other.pursuit
  entry : world.executor.schedule.find? (world.agent number).id =
    other.executor.schedule.find? (world.agent number).id
  gates : world.openGates = other.openGates
  handles : world.handles = other.handles

/-- They also have the same names for interceptors. -/
structure Twin (own : GoalId → Prop) (number : BirthNumber) (world other : World V) : Prop
    extends Alike own number world other where
  names : world.names = other.names

/-- What changes in a world belongs to one agent. -/
structure Beside (own : GoalId → Prop) (number : BirthNumber) (before after : World V) : Prop where
  size : after.agents.size = before.agents.size
  id : (after.agent number).id = (before.agent number).id
  agent : ∀ other ≠ number, after.agent other = before.agent other
  flags : ∀ goal, ¬ own goal → after.pursuit.isPursued goal = before.pursuit.isPursued goal
  entry : ∀ id ≠ (before.agent number).id,
    after.executor.schedule.find? id = before.executor.schedule.find? id
  gates : after.openGates = before.openGates
  handles : after.handles = before.handles

/-- A world changes together with a twin, and only in what belongs to one agent. -/
structure Tandem (own : GoalId → Prop) (number : BirthNumber) (before after other : World V) :
    Prop where
  twin : after.Twin own number other
  beside : before.Beside own number after

/-- What happens in a world happens in a twin, with the same answer. -/
structure Lockstep {α : Type} (own : GoalId → Prop) (number : BirthNumber) (before : World V)
    (result other : World V × α) : Prop where
  answer : result.2 = other.2
  tandem : Tandem own number before result.1 other.1

variable {number : BirthNumber} {before after other last : World V}

/-- A world has changed beside an agent if it has not changed. -/
theorem Beside.refl (own : GoalId → Prop) (number : BirthNumber) (world : World V) :
    world.Beside own number world :=
  ⟨rfl, rfl, fun _ _ => rfl, fun _ _ => rfl, fun _ _ => rfl, rfl, rfl⟩

/-- Changes beside an agent follow one another. -/
theorem Beside.trans (first : before.Beside own number after)
    (second : after.Beside own number last) : before.Beside own number last where
  size := second.size.trans first.size
  id := second.id.trans first.id
  agent := fun number different =>
    (second.agent number different).trans (first.agent number different)
  flags := fun goal notOwn => (second.flags goal notOwn).trans (first.flags goal notOwn)
  entry := fun id different =>
    (second.entry id (first.id ▸ different)).trans (first.entry id different)
  gates := second.gates.trans first.gates
  handles := second.handles.trans first.handles

/-- What belongs to one agent does not matter to another one. -/
theorem Beside.alike {foreign : GoalId → Prop} {stranger : BirthNumber}
    (beside : before.Beside foreign stranger after) (alike : before.Alike own number other)
    (different : number ≠ stranger) (ids : (before.agent number).id ≠ (before.agent stranger).id)
    (apart : ∀ goal, own goal → ¬ foreign goal) : after.Alike own number other where
  inside := beside.size ▸ alike.inside
  otherInside := alike.otherInside
  agent := (beside.agent number different).trans alike.agent
  flags := fun goal isOwn => (beside.flags goal (apart goal isOwn)).trans (alike.flags goal isOwn)
  entry := by
    rw [beside.agent number different, beside.entry _ ids]
    exact alike.entry
  gates := beside.gates.trans alike.gates
  handles := beside.handles.trans alike.handles

namespace Tandem

/-- Twins have changed in tandem if neither has changed. -/
theorem refl (twin : before.Twin own number other) : Tandem own number before before other :=
  ⟨twin, .refl own number before⟩

/-- Changes of twins follow one another. -/
theorem trans {later : World V} (first : Tandem own number before after other)
    (second : Tandem own number after later last) : Tandem own number before later last :=
  ⟨second.twin, first.beside.trans second.beside⟩

variable (twin : before.Twin own number other)

include twin

/-- The agent changes. -/
theorem modifyAgent (change : Agent V → Agent V)
    (id : ∀ agent, (change agent).id = agent.id) :
    Tandem own number before (before.modifyAgent number change)
      (other.modifyAgent number change) where
  twin :=
    { inside := by rw [size_modifyAgent]; exact twin.inside
      otherInside := by rw [size_modifyAgent]; exact twin.otherInside
      agent := by
        rw [agent_modifyAgent_self _ _ twin.inside, agent_modifyAgent_self _ _ twin.otherInside,
          twin.agent]
      flags := twin.flags
      entry := by
        rw [agent_modifyAgent_self _ _ twin.inside, id]
        exact twin.entry
      gates := twin.gates
      handles := twin.handles
      names := twin.names }
  beside :=
    { Beside.refl own number before with
      size := size_modifyAgent _ _ _
      id := by rw [agent_modifyAgent_self _ _ twin.inside, id]
      agent := fun _ different => agent_modifyAgent_of_ne _ _ different }

/-- Flags of the agent's own goals change. -/
theorem withPursuit {first second : Pursuit}
    (flags : Pursuit.Tandem own before.pursuit first second) :
    Tandem own number before { before with pursuit := first } { other with pursuit := second } where
  twin := { twin with flags := flags.agree }
  beside := { Beside.refl own number before with flags := flags.rest }

/-- Names are given to interceptors. -/
theorem withNames (names : NameBook) :
    Tandem own number before { before with names } { other with names } where
  twin := { twin with names := rfl }
  beside := { Beside.refl own number before with }

/-- Something is written down. -/
theorem log (entry : JournalEntry V) :
    Tandem own number before (before.log entry) (other.log entry) where
  twin := { twin with }
  beside := { Beside.refl own number before with }

/-- The agent is scheduled. -/
theorem schedule : Tandem own number before (before.schedule number) (other.schedule number) where
  twin :=
    { twin with
      entry := by
        change (AgentIndex.insert _ _ _).find? (before.agent number).id =
          (AgentIndex.insert _ _ _).find? (before.agent number).id
        rw [AgentIndex.find?_insert, AgentIndex.find?_insert, twin.agent, if_pos rfl, if_pos rfl] }
  beside :=
    { Beside.refl own number before with
      entry := fun id different =>
        (AgentIndex.find?_insert _ _ _ _).trans (if_neg different) }

/-- The agent is woken. -/
theorem wake : Tandem own number before (before.wake number) (other.wake number) := by
  simp only [World.wake, twin.agent]
  split
  · exact refl twin
  · cases (other.agent number).scheduler with
    | none => exact refl twin
    | some scheduler =>
      cases scheduler with
      | executor => exact schedule twin
      | recorder accepts => exact log twin _

/-- Something arrives at the agent. -/
theorem arrive (arrival : Arrival V) :
    Tandem own number before (before.arrive number arrival) (other.arrive number arrival) := by
  have received := modifyAgent twin
    (fun agent => { agent with inbox := agent.inbox.receive arrival }) fun _ => rfl
  exact received.trans (wake received.twin)

end Tandem

end World

end Deliberation
