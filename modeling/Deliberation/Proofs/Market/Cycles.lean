import Deliberation.Proofs.Market.Errands
import Deliberation.Proofs.Pursuit

/-!
# Cycles of traders

A cycle of a trader never fails and never waits. It takes the mail, turns it and the goals into
errands, and executes these one after the other; `Hosts.cycle` says so. What the cycle leaves to say
about the traders is in `Toil`, the effect of errands in their order.
-/

namespace Deliberation

variable {V : Vocabulary}

/-! ## Matching with one rule -/

/-- Hits are answers to triggers, in their order. Only goals that are pursued are ever passed
over. -/
structure Answers (answer : Trigger V → Option (Plan V)) (pursuit : Pursuit)
    (triggers : List (Trigger V)) (hits : List (Hit V)) : Prop where
  some : (hits.map Hit.plan).Sublist (triggers.filterMap answer)
  all : (∀ trigger ∈ triggers, trigger.goal? = none) →
    hits.map Hit.plan = triggers.filterMap answer
  heeded : ∀ trigger ∈ triggers, trigger.isPursuedGoal pursuit = false →
    (answer trigger).isSome = true → hits ≠ []

/-- Without triggers there is nothing to answer. -/
theorem Answers.nil {answer : Trigger V → Option (Plan V)} {pursuit : Pursuit} :
    Answers answer pursuit [] [] where
  some := .slnil
  all := fun _ => rfl
  heeded := fun _ member => (nomatch member)

/-- What one scheme, a rule that never panics, makes of triggers. -/
theorem matchFrom_rule {name : String} {view : View V}
    {attempt : Pursuit → View V → Trigger V → Except Panic (Option (Plan V))}
    {answer : Trigger V → Option (Plan V)}
    (calm : ∀ pursuit trigger, attempt pursuit view trigger = .ok (answer trigger))
    (triggers : List (Trigger V)) (hits : List (Hit V)) (pursuit : Pursuit) :
    ∃ found flags,
      matchFrom view hits pursuit [.rule name attempt] triggers =
        { hits := hits.reverse ++ found, schemes := [.rule name attempt], pursuit := flags,
          broken := none } ∧
      Answers answer pursuit triggers found := by
  have first : ∀ pursuit trigger, firstPlan pursuit view trigger [.rule name attempt] =
      .ok ((answer trigger).map fun plan => (name, plan), [.rule name attempt]) := by
    intro pursuit trigger
    cases answered : answer trigger <;>
      simp [firstPlan, Scheme.instantiate, calm, answered, Scheme.name, bind, Except.bind]
  induction triggers generalizing hits pursuit with
  | nil => exact ⟨[], pursuit, by simp [matchFrom], .nil⟩
  | cons trigger rest ih =>
    unfold matchFrom
    rw [first]
    split
    · rename_i pursued
      obtain ⟨found, flags, matched, answers⟩ := ih hits pursuit
      refine ⟨found, flags, matched, answers.some.trans ?_, fun noGoal => ?_, ?_⟩
      · exact (List.sublist_cons_self trigger rest).filterMap answer
      · have none := noGoal trigger List.mem_cons_self
        simp [Trigger.isPursuedGoal, none] at pursued
      · rintro other member free
        rcases List.mem_cons.mp member with rfl | inRest
        · rw [pursued] at free
          cases free
        · exact answers.heeded other inRest free
    · cases answered : answer trigger with
      | none =>
        obtain ⟨found, flags, matched, answers⟩ := ih hits pursuit
        refine ⟨found, flags, matched, ?_, fun noGoal => ?_, ?_⟩
        · rw [List.filterMap_cons_none answered]
          exact answers.some
        · rw [List.filterMap_cons_none answered]
          exact answers.all fun other member => noGoal other (List.mem_cons_of_mem _ member)
        · rintro other member free answers'
          rcases List.mem_cons.mp member with rfl | inRest
          · rw [answered] at answers'
            cases answers'
          · exact answers.heeded other inRest free answers'
      | some plan =>
        obtain ⟨found, flags, matched, answers⟩ :=
          ih ({ name, trigger, plan } :: hits) (trigger.markPursued pursuit)
        refine ⟨{ name, trigger, plan } :: found, flags, ?_, ?_, fun noGoal => ?_, ?_⟩
        · simpa using matched
        · rw [List.filterMap_cons_some answered]
          exact answers.some.cons_cons plan
        · rw [List.filterMap_cons_some answered, List.map_cons,
            answers.all fun other member => noGoal other (List.mem_cons_of_mem _ member)]
        · simp

/-- The plans that become active are those of the hits. -/
theorem plan_activated (hits : List (Hit V)) :
    (activated hits).map ActivePlan.plan = hits.map Hit.plan := by
  simp [activated, ActivePlan.instantiated, Function.comp_def]

namespace Market

open Population (traderId)

/-! ## The goals of a trader -/

/-- Whether a book shows that an aim is reached. -/
def Book.reaches (book : Book) : Aim → Bool
  | .sales target => decide (target ≤ book.sold.toNat)
  | .unrelated => false

/-- Put a goal behind those that are held, unless it is one of them. -/
def adopt (held : List (GoalHandle vocabulary)) (handle : GoalHandle vocabulary) :
    List (GoalHandle vocabulary) :=
  if held.any fun other => other.id == handle.id then held else held ++ [handle]

namespace Trader

/-- The goals of a trader after it has adopted those that wait. -/
def adopted (state : Trader) : List (GoalHandle vocabulary) := state.wishes.foldl adopt state.goals

/-- The goals that a trader plans for in its next cycle. -/
def targets (state : Trader) : List (GoalHandle vocabulary) :=
  state.adopted.filter fun handle => !state.book.reaches handle.goal

/-- A trader that adopts its wishes has them among its goals. -/
theorem agent_adoptAll (state : Trader) (id : AgentId) (wishes : List (GoalHandle vocabulary)) :
    wishes.foldl Agent.adopt (state.agent id) =
      { state with goals := wishes.foldl adopt state.goals }.agent id := by
  induction wishes generalizing state with
  | nil => rfl
  | cons handle rest ih =>
    have adopted : (state.agent id).adopt handle =
        { state with goals := adopt state.goals handle }.agent id := by
      by_cases held : (state.agent id).holds handle = true
      · have kept : adopt state.goals handle = state.goals := if_pos held
        rw [kept]
        exact if_pos held
      · have added : adopt state.goals handle = state.goals ++ [handle] := if_neg held
        rw [added]
        exact if_neg held
    rw [List.foldl_cons, adopted, ih, List.foldl_cons]

/-- No aim panics when it is looked at, and a trader drops those that it has reached. -/
theorem sweepGoals_agent (state : Trader) (id : AgentId) (pursuit : Pursuit)
    (goals : List (GoalHandle vocabulary)) :
    ∃ flags, sweepGoals (state.agent id).contexts pursuit goals =
      (goals.filter fun handle => !state.book.reaches handle.goal, flags, none) := by
  induction goals generalizing pursuit with
  | nil => exact ⟨pursuit, rfl⟩
  | cons handle rest ih =>
    have holds : vocabulary.holds handle.goal (state.agent id).contexts =
        .ok (state.book.reaches handle.goal) := by
      change Aim.holds handle.goal _ = _
      cases (handle.goal : Aim) <;> rfl
    cases reached : state.book.reaches handle.goal with
    | false =>
      obtain ⟨flags, swept⟩ := ih pursuit
      exact ⟨flags, by simp [sweepGoals, holds, reached, swept]⟩
    | true =>
      obtain ⟨flags, swept⟩ := ih (pursuit.set handle.id false)
      exact ⟨flags, by simp [sweepGoals, holds, reached, swept]⟩

end Trader

/-- One of some goals is a number of sales that no plan pursues. -/
def Wanted (pursuit : Pursuit) (goals : List (GoalHandle vocabulary)) : Prop :=
  ∃ handle ∈ goals, (∃ target, handle.goal = Aim.sales target) ∧
    pursuit.isPursued handle.id = false

/-- A goal is still wanted when flags go. -/
theorem Wanted.clear {before after : Pursuit} {goals : List (GoalHandle vocabulary)}
    (wanted : Wanted before goals)
    (flags : ∀ goal, after.isPursued goal = true → before.isPursued goal = true) :
    Wanted after goals := by
  obtain ⟨handle, member, isTarget, free⟩ := wanted
  refine ⟨handle, member, isTarget, ?_⟩
  rw [← Bool.not_eq_true] at free ⊢
  exact mt (flags handle.id) free

namespace Hosts

variable {world : World vocabulary} {count : Nat} {traders : Nat → Trader} {number : BirthNumber}

/-! ## The stages of a cycle -/

/-- A trader takes its mail. -/
theorem drain (hosts : Hosts world count traders) (inside : number < count) :
    (world.drain number).2 =
        { Inbox.empty with
          messages := (traders number).mail.map .message, goals := (traders number).wishes } ∧
      Hosts (world.drain number).1 count
        (Function.update traders number
          { traders number with mail := [], wishes := [], goals := (traders number).adopted }) := by
  have adopted := Trader.agent_adoptAll
    { traders number with mail := [], wishes := [] } (traderId number) (traders number).wishes
  refine ⟨?_, hosts.modify inside ?_⟩
  · simp only [World.drain, hosts.agent number inside]
    rfl
  · rw [hosts.agent number inside]
    exact congrArg
      (fun agent : Agent vocabulary => { agent with stopping := agent.stopping || false }) adopted

/-- Flags of goals do not matter. -/
theorem flag (hosts : Hosts world count traders) (pursuit : Pursuit) :
    Hosts { world with pursuit } count traders := hosts.congr rfl rfl rfl

/-- A trader drops the goals that it has achieved. -/
theorem sweep (hosts : Hosts world count traders) (inside : number < count) :
    (world.sweep number).2 = none ∧
      Hosts (world.sweep number).1 count
        (Function.update traders number
          { traders number with
            goals := (traders number).goals.filter fun handle =>
              !(traders number).book.reaches handle.goal }) := by
  obtain ⟨flags, swept⟩ := (traders number).sweepGoals_agent (traderId number) world.pursuit
    (traders number).goals
  have dropped : sweepGoals (world.agent number).contexts world.pursuit (world.agent number).goals =
      ((traders number).goals.filter fun handle => !(traders number).book.reaches handle.goal,
        flags, none) := by
    rw [hosts.agent number inside]
    exact swept
  simp only [World.sweep, dropped]
  exact ⟨trivial, (hosts.flag flags).modify inside rfl⟩

/-- A change that does nothing to a trader. -/
theorem refresh (hosts : Hosts world count traders) (inside : number < count)
    (change : Agent vocabulary → Agent vocabulary)
    (changes : change ((traders number).agent (traderId number)) =
      (traders number).agent (traderId number)) :
    Hosts (world.modifyAgent number change) count traders := by
  have modified := hosts.modify inside changes
  rwa [Function.update_eq_self] at modified

section Sense

variable {name : String}
  {attempt : Pursuit → View vocabulary → Trigger vocabulary →
    Except Panic (Option (Plan vocabulary))}
  {answer : View vocabulary → Trigger vocabulary → Option (Plan vocabulary)}

/-- Triggers of a category for which a trader has one scheme become plans. -/
theorem senseTriggers (hosts : Hosts world count traders) (inside : number < count)
    (category : Category)
    (schemes : ((traders number).agent (traderId number)).schemes.get category =
      [.rule name attempt])
    (calm : ∀ pursuit view trigger, attempt pursuit view trigger = .ok (answer view trigger))
    (triggers : List (Trigger vocabulary)) :
    ∃ found,
      (world.senseTriggers number category triggers).2 = none ∧
      Hosts (world.senseTriggers number category triggers).1 count
        (Function.update traders number
          { traders number with plans := (traders number).plans ++ activated found }) ∧
      Answers (answer ((traders number).agent (traderId number)).view) world.pursuit triggers
        found := by
  have agent := hosts.agent number inside
  have interceptors : ((traders number).agent (traderId number)).interceptors.get category = [] := by
    cases category <;> rfl
  obtain ⟨found, flags, matched, answers⟩ := @matchFrom_rule _ name _ _ _
    (calm · ((traders number).agent (traderId number)).view) triggers [] world.pursuit
  refine ⟨found, ?_⟩
  have scanned := (hosts.flag world.pursuit).refresh inside
    (fun agent => { agent with interceptors := agent.interceptors.set category [] })
    (by cases category <;> rfl)
  have settled := (scanned.flag flags).refresh inside
    (fun agent => { agent with schemes := agent.schemes.set category [.rule name attempt] })
    (by rw [← schemes]; cases category <;> rfl)
  simp only [World.senseTriggers, agent, interceptors, schemes, scanInterceptors, scanFrom,
    matchSchemes, World.pursuit_modifyAgent, matched]
  exact ⟨trivial, settled.modify inside rfl, answers⟩

/-- The sense step of such a category, whether or not there are triggers. -/
theorem senseStep (hosts : Hosts world count traders) (inside : number < count)
    (category : Category)
    (schemes : ((traders number).agent (traderId number)).schemes.get category =
      [.rule name attempt])
    (calm : ∀ pursuit view trigger, attempt pursuit view trigger = .ok (answer view trigger))
    (inbox : Inbox vocabulary) {triggers : List (Trigger vocabulary)}
    (offered : triggers =
      if category = .goal then (world.agent number).goals.map .goal else inbox.triggers category)
    (steps : List SenseStep) :
    ∃ next found,
      World.sense number world inbox (category :: steps) =
        World.sense number next (inbox.without category) steps ∧
      Hosts next count
        (Function.update traders number
          { traders number with plans := (traders number).plans ++ activated found }) ∧
      Answers (answer ((traders number).agent (traderId number)).view) world.pursuit triggers
        found := by
  simp only [World.sense, ← offered]
  cases triggers with
  | nil =>
    have unread : inbox.without category = inbox := by
      cases category with
      | goal => rfl
      | external | internal | message =>
        have empty := offered.symm
        simp only [reduceCtorEq, if_false, Inbox.triggers] at empty
        simp only [Inbox.without, ← empty]
    refine ⟨world, [], by rw [unread]; rfl, ?_, .nil⟩
    simpa [activated] using hosts
  | cons trigger rest =>
    obtain ⟨found, calmly, after, answers⟩ :=
      hosts.senseTriggers inside category schemes calm (trigger :: rest)
    refine ⟨_, found, ?_, after, answers⟩
    generalize world.senseTriggers number category (trigger :: rest) = sensed at calmly
    obtain ⟨next, panic⟩ := sensed
    cases calmly
    rfl

end Sense

/-- The sense stage of a trader turns goals into offers, and mail into answers. A goal that is wanted
makes for an offer. -/
theorem sense (hosts : Hosts world count traders) (inside : number < count)
    (idle : (traders number).plans = []) (mail : List Message)
    (wishes : List (GoalHandle vocabulary)) :
    ∃ next plans offers,
      World.sense number world { Inbox.empty with messages := mail.map .message, goals := wishes }
          SenseStep.standard = (next, none) ∧
      Hosts next count (Function.update traders number { traders number with plans }) ∧
      plans.map ActivePlan.plan =
        (List.replicate offers Errand.offer ++
          mail.filterMap (Errand.ofMessage? (traders number).book.reservation)).map Errand.plan ∧
      (Wanted world.pursuit (traders number).goals → 0 < offers) := by
  obtain ⟨aimed, targets, goalStep, hostsAimed, offered⟩ := hosts.senseStep inside .goal rfl
    (fun _ _ _ => rfl) { Inbox.empty with messages := mail.map .message, goals := wishes } rfl
    [.external, .internal, .message]
  obtain ⟨next, replies, messageStep, hostsNext, answered⟩ := hostsAimed.senseStep inside .message
    rfl (fun _ _ _ => rfl) { Inbox.empty with messages := mail.map .message, goals := wishes } rfl []
  refine ⟨next, activated targets ++ activated replies, targets.length, ?_, ?_, ?_, ?_⟩
  · exact goalStep.trans messageStep
  · simpa [idle] using hostsNext
  · have aims : targets.map Hit.plan = List.replicate targets.length offerPlan := by
      refine List.eq_replicate_iff.mpr ⟨List.length_map _, fun plan member => ?_⟩
      obtain ⟨trigger, -, made⟩ := List.mem_filterMap.mp (offered.some.subset member)
      split at made
      · exact (Option.some.inj made).symm
      · cases made
    have read : replies.map Hit.plan =
        (mail.filterMap (Errand.ofMessage? (traders number).book.reservation)).map Errand.plan := by
      have noGoal : ∀ trigger ∈ mail.map (Trigger.message (V := vocabulary)),
          trigger.goal? = none := by
        intro trigger member
        obtain ⟨message, -, rfl⟩ := List.mem_map.mp member
        rfl
      refine (answered.all noGoal).trans ?_
      rw [List.map_filterMap]
      refine (List.filterMap_map ..).trans (List.filterMap_congr fun message _ => ?_)
      exact planForMessage_eq (by rw [Function.update_self]; rfl) message
    rw [List.map_append, List.map_append, plan_activated, plan_activated, aims, read,
      List.map_replicate]
    rfl
  · rintro ⟨handle, member, ⟨target, isTarget⟩, free⟩
    have held : Trigger.goal handle ∈ (world.agent number).goals.map Trigger.goal := by
      rw [hosts.agent number inside]
      exact List.mem_map_of_mem member
    obtain ⟨id, goal⟩ := handle
    cases isTarget
    exact List.length_pos_iff.mpr (offered.heeded _ held free rfl)

/-- Plans that carry out errands are executed one after the other. -/
theorem executePlans (small : count ≤ largestWord) {errands : List Errand}
    (known : ∀ errand ∈ errands, errand.Known count) {plans : List (ActivePlan vocabulary)}
    (carried : plans.map ActivePlan.plan = errands.map Errand.plan)
    (hosts : Hosts world count traders) (inside : number < count) (steps : List ActStep)
    (effects : Effects vocabulary) (earlier : List vocabulary.Action) (executed : Nat) :
    ∃ next after, ∃ actions : List vocabulary.Action,
      Act.executePlans number none steps plans { world, effects, actions := earlier, executed } =
        .completed
          { world := next, effects, actions := earlier ++ actions
            executed := executed + errands.length } ∧
      Hosts next count after ∧ Toil count number traders errands after actions := by
  induction errands generalizing plans world traders earlier executed with
  | nil =>
    rw [List.map_nil, List.map_eq_nil_iff] at carried
    subst carried
    exact ⟨world, traders, [], by simp [Act.executePlans], hosts, .rest traders⟩
  | cons errand rest ih =>
    obtain ⟨active, pending, rfl, same, carriedRest⟩ := List.map_eq_cons_iff.mp carried
    obtain ⟨middle, between, action, ran, hostsBetween, done⟩ :=
      hosts.execute small inside (known errand List.mem_cons_self) effects
    obtain ⟨next, after, actions, completed, hostsAfter, toil⟩ :=
      ih (fun other member => known other (List.mem_cons_of_mem _ member)) carriedRest
        (hostsBetween.flag (active.release middle.pursuit)) _ _
    refine ⟨next, after, action :: actions, ?_, hostsAfter, .work done toil⟩
    simp only [Act.executePlans, same, Act.turn, ran]
    rw [List.append_assoc, Nat.add_right_comm] at completed
    exact completed

/-- An act stage of a trader without plans left has nothing to add. Whoever executed a plan asks for
another cycle. -/
theorem conclude (hosts : Hosts world count traders) (inside : number < count)
    (actions : List vocabulary.Action) (executed : Nat) :
    ∃ next again,
      World.conclude number
          (.completed { world, effects := Effects.none, actions, executed }) =
        .ended next (.acted actions again) ∧
      Hosts next count traders ∧ (0 < executed → again = true) := by
  refine ⟨_, _, rfl, hosts.refresh inside _ ?_, fun some => ?_⟩
  · simp [Effects.none, Trader.agent, Agent.ofBlueprint, Inbox.empty]
  · simp [some]

/-- The act stage of a trader does its errands. -/
theorem act (small : count ≤ largestWord) (hosts : Hosts world count traders)
    (inside : number < count) {errands : List Errand}
    (known : ∀ errand ∈ errands, errand.Known count)
    (carried : (traders number).plans.map ActivePlan.plan = errands.map Errand.plan) :
    ∃ next after actions again,
      World.conclude number
          (Act.run number none ActStep.standard
            { world, effects := Effects.none, actions := [], executed := 0 }) =
        .ended next (.acted actions again) ∧
      Hosts next count after ∧
      Toil count number (Function.update traders number { traders number with plans := [] })
        errands after actions ∧
      (errands ≠ [] → again = true) := by
  have ready : Hosts (world.modifyAgent number fun agent => { agent with plans := [] }) count
      (Function.update traders number { traders number with plans := [] }) :=
    hosts.modify inside rfl
  have plans : (world.agent number).plans = (traders number).plans :=
    congrArg Agent.plans (hosts.agent number inside)
  obtain ⟨worked, after, actions, completed, hostsAfter, toil⟩ :=
    executePlans small known carried ready inside [] Effects.none [] 0
  obtain ⟨next, again, concluded, hostsNext, asks⟩ :=
    hostsAfter.conclude inside actions (0 + errands.length)
  refine ⟨next, after, actions, again, ?_, hostsNext, toil, fun some => asks ?_⟩
  · simp only [ActStep.standard, Act.run, plans, completed]
    exact concluded
  · rw [Nat.zero_add]
    exact List.length_pos_iff.mpr some

/-- The stages after the drain: a trader does what its goals and its mail are about. -/
theorem deliberate (small : count ≤ largestWord) (hosts : Hosts world count traders)
    (inside : number < count) (idle : (traders number).plans = []) {mail : List Message}
    (known : ∀ message ∈ mail, ∃ index < count, traderId index = message.sender)
    (wishes : List (GoalHandle vocabulary)) :
    let goals := (traders number).goals.filter fun handle =>
      !(traders number).book.reaches handle.goal
    ∃ next after offers actions again,
      world.deliberate number none
          { Inbox.empty with messages := mail.map .message, goals := wishes } =
        .ended next (.acted actions again) ∧
      Hosts next count after ∧
      Toil count number
        (Function.update traders number { traders number with goals, plans := [] })
        (List.replicate offers Errand.offer ++
          mail.filterMap (Errand.ofMessage? (traders number).book.reservation))
        after actions ∧
      (Wanted world.pursuit goals → again = true) := by
  intro goals
  obtain ⟨calm, hostsSwept⟩ := hosts.sweep inside
  have flags : ∀ goal, (world.sweep number).1.pursuit.isPursued goal = true →
      world.pursuit.isPursued goal = true := fun goal => sweepGoals_flags _ _ _
  generalize swept : world.sweep number = sweeping at calm hostsSwept flags
  obtain ⟨clean, panic⟩ := sweeping
  cases calm
  obtain ⟨aware, plans, offers, sensed, hostsAware, carried, heeded⟩ :=
    hostsSwept.sense inside (by rw [Function.update_self]; exact idle) mail wishes
  rw [Function.update_self] at carried heeded
  rw [Function.update_self, Function.update_idem] at hostsAware
  have heard : ∀ errand ∈ List.replicate offers Errand.offer ++
      mail.filterMap (Errand.ofMessage? (traders number).book.reservation),
      errand.Known count := by
    intro errand member
    rcases List.mem_append.mp member with isOffer | isAnswer
    · rw [List.eq_of_mem_replicate isOffer]
      trivial
    · obtain ⟨message, listed, made⟩ := List.mem_filterMap.mp isAnswer
      exact Errand.known_of_message made (known message listed)
  obtain ⟨next, after, actions, again, concluded, hostsNext, toil, asks⟩ :=
    hostsAware.act small inside heard (by rw [Function.update_self]; exact carried)
  rw [Function.update_self, Function.update_idem] at toil
  refine ⟨next, after, offers, actions, again, ?_, hostsNext, toil, fun wanted => asks ?_⟩
  · have stages : (clean.agent number).senseSteps = SenseStep.standard ∧
        (clean.agent number).actSteps = ActStep.standard := by
      rw [hostsSwept.agent number inside]
      exact ⟨rfl, rfl⟩
    simp only [World.deliberate, swept, stages.1, sensed, stages.2]
    exact concluded
  · have some := heeded (wanted.clear flags)
    simp [some.ne']

/-- A trader runs a cycle: it turns its mail and its goals into errands and does them. As long as it
has a target that it has not reached, it asks for another cycle. -/
theorem cycle (small : count ≤ largestWord) (hosts : Hosts world count traders)
    (inside : number < count) (idle : (traders number).plans = [])
    (known : ∀ message ∈ (traders number).mail, ∃ index < count, traderId index = message.sender) :
    ∃ next after offers actions again,
      world.cycle number none = .ended next (.acted actions again) ∧
      Hosts next count after ∧
      Toil count number
        (Function.update traders number
          { book := (traders number).book, mail := [], wishes := []
            goals := (traders number).targets, plans := [] })
        (List.replicate offers Errand.offer ++
          (traders number).mail.filterMap (Errand.ofMessage? (traders number).book.reservation))
        after actions ∧
      (Wanted world.pursuit (traders number).targets → again = true) := by
  obtain ⟨taken, drained⟩ := hosts.drain inside
  obtain ⟨next, after, offers, actions, again, deliberated, hostsNext, toil, asks⟩ :=
    drained.deliberate small inside (by rw [Function.update_self]; exact idle) known
      (traders number).wishes
  rw [Function.update_self, Function.update_idem] at toil
  rw [Function.update_self] at asks
  refine ⟨next, after, offers, actions, again, ?_, hostsNext, toil, asks⟩
  have awake : (world.agent number).done = false := by
    rw [hosts.agent number inside]
    rfl
  have going : ((world.drain number).1.agent number).stopping = false := by
    rw [drained.agent number inside]
    rfl
  simp only [World.cycle, awake, going, taken]
  exact deliberated

end Hosts

end Market

end Deliberation
