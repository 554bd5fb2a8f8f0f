import Deliberation.Proofs.Milestones

/-!
# Agents that were asked to stop

`Standing.Asked` says that a request to stop is still to be served, wherever it lies.
`Standing.Retires` goes through the last cycle of the agent and what follows it, with what the
chronicle says of both. `Standing.Course` is all of this, from the request on: a `Rest` of what was
under way, and then the last cycle. Every step takes an agent further on its course
(`Standing.Course.change`).
-/

namespace Deliberation

variable {V : Vocabulary}

/-! ## Agents that were asked to stop -/

/-- An agent that has not turned to its shutdown plans yet. -/
structure Standing.Active (standing : Standing V) (plans : List (Plan V)) : Prop where
  notDone : standing.agent.done = false
  early : ∀ phase, standing.phase = some phase → phase.isLate = false
  plans : standing.agent.shutdownPlans = plans

/-- A request to stop lies somewhere. -/
def Standing.Asked (standing : Standing V) : Prop :=
  standing.agent.inbox.stopRequested = true ∨ standing.agent.stopping = true ∨
    ∃ phase, standing.phase = some phase ∧ phase.asksToStop = true

/-- Whether no cycle of an agent has begun. -/
def Standing.isIdle (standing : Standing V) : Bool :=
  match standing.phase with
  | none | some .waking => true
  | _ => false

variable {number : BirthNumber} {plans : List (Plan V)}

namespace Standing

variable {agent : Agent V} {phase : Option (Phase V)} {scheduled later : Bool}

/-- Arrivals leave an agent active, scheduled or not. -/
theorem Active.receiveAll (active : Active { agent, phase, scheduled } plans)
    (arrivals : List (Arrival V)) :
    Active { agent := agent.receiveAll arrivals, phase, scheduled := later } plans :=
  { notDone := active.notDone, early := active.early, plans := active.plans }

/-- A request to stop that was there stays, and one that arrives is there. -/
theorem Asked.receiveAll {arrivals : List (Arrival V)}
    (asked : Asked { agent, phase, scheduled } ∨ Arrival.stop ∈ arrivals) :
    Asked { agent := agent.receiveAll arrivals, phase, scheduled } := by
  rcases asked with (requested | asked) | arrived
  · exact .inl ((Inbox.stopRequested_receiveAll _ _).mpr (.inl requested))
  · exact .inr asked
  · exact .inl ((Inbox.stopRequested_receiveAll _ _).mpr (.inr arrived))

variable {world : World V} {stage : Phase V}

/-- A stride of a cycle that has begun leaves the agent active. -/
theorem Active.stride
    (active : Active { agent := world.agent number, phase := some stage, scheduled } plans)
    (begun : stage ≠ .waking) :
    Active
      { agent := (world.stride number stage).1.agent number
        phase := some (world.stride number stage).2
        scheduled := later } plans := by
  have early := active.early stage rfl
  have kept : ((world.stride number stage).1.agent number).done = (world.agent number).done ∧
      ((world.stride number stage).1.agent number).shutdownPlans =
        (world.agent number).shutdownPlans := by
    rcases world.stride_cases number stage with
      steady | ⟨isWaking, -⟩ | ⟨effects, actions, rfl⟩
    · exact Moves.steady steady number
    · exact absurd isWaking begun
    · cases early
  refine { notDone := kept.1.trans active.notDone, plans := kept.2.trans active.plans, early := ?_ }
  rintro _ ⟨⟩
  exact world.early_stride begun early

/-- A stride hands a request on, or adds one, until the agent turns to its shutdown plans. -/
theorem Asked.stride (inside : number < world.agents.size) (begun : stage ≠ .waking)
    (early : stage.isLate = false)
    (calm : ∀ cause, .breaks cause ∉ world.strideEvents number number stage)
    (asked : Asked { agent := world.agent number, phase := some stage, scheduled } ∨
      (world.strideEvents number number stage).any Event.isRequest = true) :
    Asked
      { agent := (world.stride number stage).1.agent number
        phase := some (world.stride number stage).2
        scheduled } := by
  have inbox := world.inbox_stride number stage begun inside
  have goesOn : ∀ urged : (world.agent number).stopping = true ∨ stage.asksToStop = true ∨
      .asksToStop ∈ world.deeds number stage, Asked
        { agent := (world.stride number stage).1.agent number
          phase := some (world.stride number stage).2
          scheduled } := by
    intro urged
    rcases world.stopping_stride inside begun early (World.calm_stride calm) urged with
      stopping | asks
    · exact .inr (.inl stopping)
    · exact .inr (.inr ⟨_, rfl, asks⟩)
  rcases asked with (requested | stopping | ⟨_, ⟨⟩, asks⟩) | request
  · refine .inl ?_
    simp only [inbox]
    exact (Inbox.stopRequested_receiveAll _ _).mpr (.inl requested)
  · exact goesOn (.inl stopping)
  · exact goesOn (.inr (.inl asks))
  · rcases World.request_of_stride request with asks | arrives
    · exact goesOn (.inr (.inr asks))
    · refine .inl ?_
      simp only [inbox]
      exact (Inbox.stopRequested_receiveAll _ _).mpr (.inr (World.mem_arrivalsAt.mpr arrives))

/-- A request comes while a cycle goes on or between cycles. -/
theorem Change.asked {before after : Standing V} {events : List (Event V)}
    (change : Change number before events after) (active : before.Active plans)
    (request : events.any Event.isRequest = true) (calm : ∀ cause, .breaks cause ∉ events) :
    after.Active plans ∧ after.Asked := by
  cases change with
  | around arrivals told reason =>
    refine ⟨active.receiveAll arrivals, Asked.receiveAll (.inr ?_)⟩
    obtain ⟨event, member, isRequest⟩ := List.any_eq_true.mp request
    rcases List.mem_append.mp member with arrived | entered
    · obtain ⟨arrival, listed, rfl⟩ := List.mem_map.mp arrived
      cases arrival with
      | stop => exact listed
      | _ => cases isRequest
    · cases told with
      | false => cases entered
      | true =>
        cases List.mem_singleton.mp entered
        cases isRequest
  | @stride world phase scheduled later inside reason =>
    have begun : phase ≠ .waking := by
      rintro rfl
      rcases World.request_of_stride request with asks | arrives
      · cases List.mem_singleton.mp asks
      · cases List.mem_singleton.mp arrives
    exact ⟨active.stride begun,
      Asked.stride inside begun (active.early phase rfl) calm (.inr request)⟩
  | report => cases request
  | rouse => cases request

end Standing

/-! ## The last cycle and what follows -/

/-- What comes of an agent that shuts down: how its shutdown plans turn out, and the goals that it
drops. -/
structure Exit (V : Vocabulary) where
  results : List (Plan V × Except PlanError (Option V.Action))
  dropped : List GoalId

namespace Exit

/-- The actions of shutdown plans. Those that fail have none. -/
def actions (results : List (Plan V × Except PlanError (Option V.Action))) : List V.Action :=
  results.flatMap fun (_, result) =>
    match result with
    | .ok action => action.toList
    | .error _ => []

/-- Shutdown plans are executed one after the other, whatever comes of each. -/
def partings (results : List (Plan V × Except PlanError (Option V.Action))) : List (Event V) :=
  results.flatMap fun (plan, result) => [.does (.parts plan), .does (.returns result)]

/-- The last cycle. It executes the shutdown plans, leaves no flag on what it drops, and succeeds
with the actions. -/
def cycle (exit : Exit V) : List (Event V) :=
  .does .wakes :: partings exit.results ++
    [.does (.retires exit.dropped []), .shows (.ok (actions exit.results))]

/-- Cycles that find their agent done. -/
def encores (count : Nat) : List (Event V) :=
  (List.replicate count [.does .wakes, .shows (.ok [])]).flatten

/-- Without another cycle there are no encores. -/
theorem encores_zero : (encores 0 : List (Event V)) = [] := rfl

/-- One more encore is one more cycle with nothing to show. -/
theorem encores_succ (count : Nat) :
    (encores (count + 1) : List (Event V)) = encores count ++ [.does .wakes, .shows (.ok [])] := by
  rw [encores, List.replicate_succ', List.flatten_append]
  rfl

/-- Fewer encores come first. -/
theorem encores_prefix {first second : Nat} (le : first ≤ second) :
    (encores first : List (Event V)) <+: encores second := by
  obtain ⟨more, rfl⟩ := Nat.exists_eq_add_of_le le
  rw [encores, encores, List.replicate_add, List.flatten_append]
  exact List.prefix_append _ _

/-- The events of shutdown plans in a row are those of the first and of the second ones. -/
theorem partings_append (first second : List (Plan V × Except PlanError (Option V.Action))) :
    partings (first ++ second) = partings first ++ partings second := List.flatMap_append

/-- The actions of shutdown plans in a row are those of the first and of the second ones. -/
theorem actions_append (first second : List (Plan V × Except PlanError (Option V.Action))) :
    actions (first ++ second) = actions first ++ actions second := List.flatMap_append

end Exit

/-- Where an agent with these shutdown plans stands in its last cycle or after it, what its
milestones have been since that cycle began, and how often it was put into the schedule. -/
inductive Standing.Retires (plans : List (Plan V)) : Standing V → List (Event V) → Nat → Prop where
  /-- Some shutdown plans have been executed. -/
  | closing {agent : Agent V} {scheduled : Bool} {effects : Effects V} {pending : List (Plan V)}
      {entries : Nat} (results : List (Plan V × Except PlanError (Option V.Action)))
      (listed : results.map Prod.fst ++ pending = plans) :
      Retires plans
        { agent, phase := some (.closing pending effects (Exit.actions results)), scheduled }
        (.does .wakes :: Exit.partings results) entries
  /-- A shutdown plan is being executed. -/
  | parting {agent : Agent V} {scheduled finished : Bool} {effects : Effects V} {script : Script V}
      {plan : Plan V} {pending : List (Plan V)} {entries : Nat}
      (results : List (Plan V × Except PlanError (Option V.Action)))
      (listed : results.map Prod.fst ++ plan :: pending = plans) :
      Retires plans
        { agent, phase := some (.parting script finished pending effects (Exit.actions results)),
          scheduled }
        (.does .wakes :: Exit.partings results ++ [.does (.parts plan)]) entries
  /-- The last cycle is over. -/
  | ended {agent : Agent V} {scheduled : Bool} {entries : Nat} (exit : Exit V)
      (listed : exit.results.map Prod.fst = plans) (isDone : agent.done = true) :
      Retires plans
        { agent, phase := some (.finished (.acted (Exit.actions exit.results) false)), scheduled }
        (.does .wakes :: Exit.partings exit.results ++ [.does (.retires exit.dropped [])]) entries
  /-- The agent is at rest. -/
  | rests {agent : Agent V} {scheduled : Bool} {entries : Nat} (exit : Exit V) (count : Nat)
      (listed : exit.results.map Prod.fst = plans) (isDone : agent.done = true)
      (few : count + scheduled.toNat ≤ 1 + entries) :
      Retires plans { agent, phase := none, scheduled } (exit.cycle ++ Exit.encores count) entries
  /-- The agent is roused once more. -/
  | roused {agent : Agent V} {scheduled : Bool} {entries : Nat} (exit : Exit V) (count : Nat)
      (listed : exit.results.map Prod.fst = plans) (isDone : agent.done = true)
      (few : count + 1 + scheduled.toNat ≤ 1 + entries) :
      Retires plans { agent, phase := some .waking, scheduled }
        (exit.cycle ++ Exit.encores count) entries
  /-- The agent was roused and had nothing to do. -/
  | passes {agent : Agent V} {scheduled : Bool} {entries : Nat} (exit : Exit V) (count : Nat)
      (listed : exit.results.map Prod.fst = plans) (isDone : agent.done = true)
      (few : count + 1 + scheduled.toNat ≤ 1 + entries) :
      Retires plans { agent, phase := some (.finished (.acted [] false)), scheduled }
        (exit.cycle ++ Exit.encores count ++ [.does .wakes]) entries

namespace Standing

/-- An agent that was asked to stop turns to its shutdown plans as soon as a cycle begins. -/
theorem Asked.retires {world : World V} {scheduled later : Bool} (entries : Nat)
    (inside : number < world.agents.size)
    (active : Active { agent := world.agent number, phase := some .waking, scheduled } plans)
    (asked : Asked { agent := world.agent number, phase := some .waking, scheduled }) :
    Retires plans
      { agent := (world.stride number .waking).1.agent number
        phase := some (world.stride number .waking).2
        scheduled := later } [.does .wakes] entries := by
  have stopping : ((world.drain number).1.agent number).stopping = true := by
    rw [world.stopping_drain inside, Bool.or_eq_true]
    rcases asked with requested | stopping | ⟨_, ⟨⟩, asks⟩
    · exact .inr requested
    · exact .inl stopping
    · cases asks
  have drained := Moves.steady (world.drain_moves number) number
  have notDone := active.notDone
  rw [World.stride_waking]
  simp only at notDone
  rw [notDone, if_neg Bool.false_ne_true, if_pos stopping, drained.2, active.plans]
  exact .closing [] rfl

variable {before after : Standing V} {events tail : List (Event V)} {entries : Nat}

/-- An agent that is done is scheduled only with a reason. -/
theorem toNat_le_of_reason {agent : Agent V} {scheduled later told : Bool}
    (reason : later = true → agent.done = true → scheduled = true ∨ told = true)
    (isDone : agent.done = true) : later.toNat ≤ scheduled.toNat + told.toNat := by
  cases later with
  | false => exact Nat.zero_le _
  | true => rcases reason rfl isDone with rfl | rfl <;> simp

/-- What arrives leaves an agent where it stands in its last cycle. -/
theorem Retires.around {agent : Agent V} {phase : Option (Phase V)} {scheduled later told : Bool}
    (retires : Retires plans { agent, phase, scheduled } tail entries) (arrivals : List (Arrival V))
    (reason : later = true → agent.done = true → scheduled = true ∨ told = true) :
    Retires plans { agent := agent.receiveAll arrivals, phase, scheduled := later } tail
      (entries + told.toNat) := by
  cases retires with
  | closing results listed => exact .closing results listed
  | parting results listed => exact .parting results listed
  | ended exit listed isDone => exact .ended exit listed isDone
  | rests exit count listed isDone few =>
    have grows := toNat_le_of_reason reason isDone
    exact .rests exit count listed isDone (by omega)
  | roused exit count listed isDone few =>
    have grows := toNat_le_of_reason reason isDone
    exact .roused exit count listed isDone (by omega)
  | passes exit count listed isDone few =>
    have grows := toNat_le_of_reason reason isDone
    exact .passes exit count listed isDone (by omega)

/-- A shutdown plan that returns is one more with a result. -/
theorem Retires.returns {agent : Agent V} {scheduled : Bool} {effects : Effects V} {plan : Plan V}
    {pending : List (Plan V)} {results : List (Plan V × Except PlanError (Option V.Action))}
    (listed : results.map Prod.fst ++ plan :: pending = plans)
    (result : Except PlanError (Option V.Action)) :
    Retires plans
      { agent
        phase := some (.closing pending effects (Exit.actions (results ++ [(plan, result)])))
        scheduled }
      ((.does .wakes :: Exit.partings results ++ [.does (.parts plan)]) ++ [.does (.returns result)])
      entries := by
  have told : (.does .wakes :: Exit.partings results ++ [.does (.parts plan)]) ++
      [.does (.returns result)] = .does .wakes :: Exit.partings (results ++ [(plan, result)]) := by
    simp [Exit.partings]
  rw [told]
  exact .closing _ (by simpa using listed)

/-- An operation of a shutdown plan leads to its next one, or to the end of the plan. -/
theorem Retires.parting_stride {world : World V} {scheduled finished : Bool} {effects : Effects V}
    {script : Script V} {plan : Plan V} {pending : List (Plan V)}
    {results : List (Plan V × Except PlanError (Option V.Action))}
    (listed : results.map Prod.fst ++ plan :: pending = plans)
    (calm : ∀ cause, (world.stride number
      (.parting script finished pending effects (Exit.actions results))).2 ≠
        .finished (.panicked cause)) :
    Retires plans
      { agent := (world.stride number
          (.parting script finished pending effects (Exit.actions results))).1.agent number
        phase := some (world.stride number
          (.parting script finished pending effects (Exit.actions results))).2
        scheduled }
      ((.does .wakes :: Exit.partings results ++ [.does (.parts plan)]) ++
        ((world.deeds number (.parting script finished pending effects
          (Exit.actions results))).filter Deed.isMilestone).map .does) entries := by
  cases advanced : script.advance number { world, effects, finished } with
  | returned turn result memory =>
    obtain ⟨rfl, rfl⟩ := World.eq_done_of_advance advanced
    have closing : Retires plans
        { agent := world.agent number
          phase := some (.closing pending effects (Exit.actions (results ++ [(plan, result)])))
          scheduled } _ entries := .returns listed result
    rw [Exit.actions_append] at closing
    cases result with
    | ok action =>
      simp only [Exit.actions, List.flatMap_singleton] at closing
      exact closing
    | error cause =>
      simp only [Exit.actions, List.flatMap_singleton, List.append_nil] at closing
      exact closing
  | panicked turn cause =>
    have broken : (world.stride number (.parting script finished pending effects
        (Exit.actions results))).2 = .finished (.panicked cause) := by
      simp only [World.stride]
      rw [advanced]
    exact absurd broken (calm cause)
  | blocked turn wait rest =>
    have goesOn : (world.stride number (.parting script finished pending effects
        (Exit.actions results))).2 =
          .parting rest turn.finished pending turn.effects (Exit.actions results) := by
      simp only [World.stride]
      rw [advanced]
    have silent : (world.deeds number (.parting script finished pending effects
        (Exit.actions results))).filter Deed.isMilestone = [] :=
      World.milestones_of_blocked advanced
    rw [goesOn, silent, List.map_nil, List.append_nil]
    exact .parting results listed

/-- A stride of the last cycle leads on to its end. -/
theorem Retires.stride {world : World V} {phase : Phase V} {scheduled later : Bool}
    (retires : Retires plans { agent := world.agent number, phase := some phase, scheduled } tail
      entries)
    (inside : number < world.agents.size)
    (reason : later = true → (world.agent number).done = true → scheduled = true)
    (calm : ∀ cause, (world.stride number phase).2 ≠ .finished (.panicked cause)) :
    Retires plans
      { agent := (world.stride number phase).1.agent number
        phase := some (world.stride number phase).2
        scheduled := later }
      (tail ++ ((world.deeds number phase).filter Deed.isMilestone).map .does) entries := by
  -- an agent that is done is not put into the schedule by its own cycle
  have grows : (world.agent number).done = true → later.toNat ≤ scheduled.toNat + false.toNat :=
    toNat_le_of_reason fun scheduled isDone => .inl (reason scheduled isDone)
  rw [Bool.toNat_false, Nat.add_zero] at grows
  cases retires with
  | @closing _ _ effects pending _ results listed =>
    cases pending with
    | nil =>
      simp only [World.deeds, world.retire_clears number]
      rw [List.append_nil] at listed
      exact .ended ⟨results, _⟩ listed (World.retire_done inside)
    | cons plan pending => exact .parting results listed
  | parting results listed => exact .parting_stride listed calm
  | ended exit listed isDone =>
    rw [show (world.deeds number (.finished _)).filter _ = [] from rfl, List.map_nil,
      List.append_nil]
    exact .ended exit listed isDone
  | roused exit count listed isDone few =>
    have asleep : world.stride number .waking = (world, .finished (.acted [] false)) := by
      rw [World.stride_waking, if_pos isDone]
    have fewer := grows isDone
    rw [asleep]
    exact .passes exit count listed isDone (by omega)
  | passes exit count listed isDone few =>
    have fewer := grows isDone
    rw [show (world.deeds number (.finished _)).filter _ = [] from rfl, List.map_nil,
      List.append_nil]
    exact .passes exit count listed isDone (by omega)

/-- When the outcome of a cycle is accounted for, an agent that was in its last one is at rest. -/
theorem Retires.report {agent : Agent V} {outcome : CycleOutcome V} {scheduled : Bool}
    (retires : Retires plans { agent, phase := some (.finished outcome), scheduled } tail entries) :
    Retires plans { agent, phase := none, scheduled := scheduled || outcome.asksAgain agent }
      (tail ++ [.shows (outcome.slot agent.id)]) entries := by
  cases retires with
  | ended exit listed isDone =>
    have rests : Retires plans { agent, phase := none, scheduled := scheduled || false }
        (exit.cycle ++ Exit.encores 0) entries :=
      .rests exit 0 listed isDone (by have := (scheduled || false).toNat_le; omega)
    rw [Exit.encores_zero, List.append_nil] at rests
    rw [List.append_assoc]
    exact rests
  | passes exit count listed isDone few =>
    have rests : Retires plans { agent, phase := none, scheduled := scheduled || false }
        (exit.cycle ++ Exit.encores (count + 1)) entries :=
      .rests exit (count + 1) listed isDone (by rw [Bool.or_false]; exact few)
    rw [Exit.encores_succ, ← List.append_assoc] at rests
    rw [List.append_assoc]
    exact rests

/-- The last cycle goes on to its end, and nothing but its end keeps the agent from resting. -/
theorem Retires.change (retires : before.Retires plans tail entries)
    (change : Change number before events after) (calm : ∀ cause, .breaks cause ∉ events) :
    after.Retires plans (tail ++ milestones events) (entries + events.countP Event.isEntry) := by
  cases change with
  | around arrivals told reason =>
    rw [milestones_around, List.append_nil, entries_around]
    exact retires.around arrivals reason
  | @stride world phase scheduled later inside reason =>
    rw [World.milestones_stride world (World.calm_stride calm), World.entries_stride, Nat.add_zero]
    exact retires.stride inside reason (World.calm_stride calm)
  | report => exact retires.report
  | rouse =>
    rw [milestones_nil, List.append_nil]
    cases retires with
    | rests exit count listed isDone few => exact .roused exit count listed isDone few

/-- The agent does not retire while it executes shutdown plans. -/
theorem Exit.retires_notMem {results : List (Plan V × Except PlanError (Option V.Action))}
    (dropped flagged : List GoalId) :
    Event.does (.retires dropped flagged) ∉ Exit.partings results := by
  intro member
  obtain ⟨⟨plan, result⟩, -, listed⟩ := List.mem_flatMap.mp member
  rcases List.mem_cons.mp listed with equal | listed
  · cases equal
  · cases List.mem_singleton.mp listed

/-- Whatever comes of the shutdown plans that have still to be executed, so far the milestones are
those of a last cycle and of some that follow it. -/
theorem Retires.exit (retires : before.Retires plans tail entries) :
    ∃ exit : Exit V, exit.results.map Prod.fst = plans ∧
      tail <+: exit.cycle ++ Exit.encores (1 + entries) ∧
      (.does (.retires exit.dropped []) ∈ tail → before.agent.done = true) := by
  -- Shutdown plans that are still to be executed may turn out in any way.
  have completed : ∀ (results : List (Plan V × Except PlanError (Option V.Action)))
      (pending : List (Plan V)), results.map Prod.fst ++ pending = plans →
        (results ++ pending.map fun plan => (plan, Except.ok none)).map Prod.fst = plans := by
    intro results pending listed
    simpa [Function.comp_def] using listed
  cases retires with
  | @closing _ _ _ pending _ results listed =>
    refine ⟨⟨_, []⟩, completed results pending listed, ?_, fun member => ?_⟩
    · simp [Exit.cycle, Exit.partings_append]
    · rcases List.mem_cons.mp member with equal | member
      · cases equal
      · exact absurd member (Exit.retires_notMem _ _)
  | @parting _ _ _ _ _ plan pending _ results listed =>
    refine ⟨⟨_, []⟩, completed results (plan :: pending) listed, ?_, fun member => ?_⟩
    · simp [Exit.cycle, Exit.partings]
    · rcases List.mem_append.mp member with member | member
      · rcases List.mem_cons.mp member with equal | member
        · cases equal
        · exact absurd member (Exit.retires_notMem _ _)
      · cases List.mem_singleton.mp member
  | ended exit listed isDone =>
    refine ⟨exit, listed, ?_, fun _ => isDone⟩
    simp [Exit.cycle]
  | rests exit count listed isDone few | roused exit count listed isDone few =>
    refine ⟨exit, listed, ?_, fun _ => isDone⟩
    exact (List.prefix_append_right_inj _).mpr (Exit.encores_prefix (by omega))
  | passes exit count listed isDone few =>
    refine ⟨exit, listed, ?_, fun _ => isDone⟩
    have most : (Exit.encores (count + 1) : List (Event V)) <+: Exit.encores (1 + entries) :=
      Exit.encores_prefix (by omega)
    rw [Exit.encores_succ] at most
    rw [List.append_assoc]
    refine (List.prefix_append_right_inj _).mpr (List.IsPrefix.trans ?_ most)
    exact (List.prefix_append_right_inj _).mpr ⟨[.shows (.ok [])], rfl⟩

end Standing

/-! ## From the request on -/

/-- What an agent still does in the cycle that was under way when it was asked to stop. -/
structure Rest (V : Vocabulary) where
  doings : List (Event V)
  shown : Option (Slot V)

namespace Rest

/-- The milestones, with the slot at the end if it has been shown. -/
def events (rest : Rest V) : List (Event V) := rest.doings ++ rest.shown.toList.map .shows

/-- Nothing is left of a cycle that had not begun. -/
structure Fits (rest : Rest V) (start : Standing V) : Prop where
  ordinary : ∀ event ∈ rest.doings, event.isOrdinary = true
  idle : start.isIdle = true → rest.events = []

end Rest

/-- A cycle that is there without having begun is about to begin. -/
theorem Standing.eq_waking_of_isIdle {agent : Agent V} {phase : Phase V} {scheduled : Bool}
    (idle : Standing.isIdle { agent, phase := some phase, scheduled } = true) :
    phase = .waking := by
  cases phase with
  | waking => rfl
  | _ => cases idle

/-- Where an agent stands that was asked to stop, and its milestones since. -/
inductive Standing.Course (plans : List (Plan V)) (start : Standing V) :
    Standing V → List (Event V) → Nat → Prop where
  /-- It has still to turn to its shutdown plans. -/
  | waits {now : Standing V} {entries : Nat} (rest : Rest V) (fits : rest.Fits start)
      (active : now.Active plans) (asked : now.Asked)
      (shown : rest.shown ≠ none → now.isIdle = true)
      (idle : start.isIdle = true → now.isIdle = true) :
      Course plans start now rest.events entries
  /-- It is in its last cycle or beyond. -/
  | leaves {now : Standing V} {entries : Nat} {tail : List (Event V)} (rest : Rest V)
      (fits : rest.Fits start) (retires : now.Retires plans tail entries) :
      Course plans start now (rest.events ++ tail) entries

namespace Standing

variable {start before after : Standing V} {events past : List (Event V)} {entries : Nat}

/-- A stride of the cycle that was under way adds to what is left of it. -/
theorem Course.waits_stride {world : World V} {phase : Phase V} {scheduled later : Bool}
    {rest : Rest V} (fits : rest.Fits start)
    (active : Active { agent := world.agent number, phase := some phase, scheduled } plans)
    (asked : Asked { agent := world.agent number, phase := some phase, scheduled })
    (unshown : rest.shown = none) (notIdle : start.isIdle = false) (begun : phase ≠ .waking)
    (inside : number < world.agents.size)
    (calm : ∀ cause, .breaks cause ∉ world.strideEvents number number phase) :
    Course plans start
      { agent := (world.stride number phase).1.agent number
        phase := some (world.stride number phase).2
        scheduled := later }
      (rest.events ++ milestones (world.strideEvents number number phase)) entries := by
  have early := active.early phase rfl
  have more : milestones (world.strideEvents number number phase) =
      ((world.deeds number phase).filter Deed.isMilestone).map .does :=
    World.milestones_stride world (World.calm_stride calm)
  have ordinary : ∀ event ∈ milestones (world.strideEvents number number phase),
      event.isOrdinary = true := by
    rw [more]
    intro event member
    obtain ⟨deed, listed, rfl⟩ := List.mem_map.mp member
    obtain ⟨done, milestone⟩ := List.mem_filter.mp listed
    exact world.ordinary_deeds begun early deed done milestone
  let further : Rest V :=
    { rest with doings := rest.doings ++ milestones (world.strideEvents number number phase) }
  have grown : rest.events ++ milestones (world.strideEvents number number phase) =
      further.events := by
    simp [Rest.events, further, unshown]
  rw [grown]
  refine .waits further ⟨fun event member => ?_, fun was => ?_⟩ (active.stride begun)
    (Asked.stride inside begun early calm (.inl asked))
    (fun isShown => absurd unshown isShown) (fun was => ?_)
  · exact (List.mem_append.mp member).elim (fits.ordinary event) (ordinary event)
  · rw [notIdle] at was
    cases was
  · rw [notIdle] at was
    cases was

/-- When the outcome of the cycle that was under way is accounted for, all of it has been told. -/
theorem Course.waits_report {agent : Agent V} {outcome : CycleOutcome V} {scheduled : Bool}
    {rest : Rest V} (fits : rest.Fits start)
    (active : Active { agent, phase := some (.finished outcome), scheduled } plans)
    (asked : Asked { agent, phase := some (.finished outcome), scheduled })
    (unshown : rest.shown = none) (notIdle : start.isIdle = false) :
    Course plans start
      { agent, phase := none, scheduled := scheduled || outcome.asksAgain agent }
      (rest.events ++ milestones [.shows (outcome.slot agent.id)]) entries := by
  have grown : rest.events ++ milestones [.shows (outcome.slot agent.id)] =
      Rest.events { rest with shown := some (outcome.slot agent.id) } := by
    simp [Rest.events, unshown, milestones, Event.isMilestone]
  rw [grown]
  refine .waits _ ⟨fits.ordinary, fun was => ?_⟩
    { notDone := active.notDone
      early := fun _ none => by cases none
      plans := active.plans } ?_ (fun _ => rfl) (fun _ => rfl)
  · rw [notIdle] at was
    cases was
  · rcases asked with requested | stopping | ⟨_, ⟨⟩, asks⟩
    · exact .inl requested
    · exact .inr (.inl stopping)
    · cases asks

/-- A step takes the agent further. -/
theorem Course.change (course : Course plans start before past entries)
    (change : Change number before events after) (calm : ∀ cause, .breaks cause ∉ events) :
    Course plans start after (past ++ milestones events)
      (entries + events.countP Event.isEntry) := by
  cases course with
  | leaves rest fits retires =>
    rw [List.append_assoc]
    exact .leaves rest fits (retires.change change calm)
  | waits rest fits active asked shown idle =>
    cases change with
    | around arrivals told reason =>
      rw [milestones_around, List.append_nil]
      exact .waits rest fits (active.receiveAll arrivals) (Asked.receiveAll (.inl asked)) shown idle
    | @stride world phase scheduled later inside reason =>
      by_cases begun : phase = .waking
      · subst begun
        have awakes : milestones (world.strideEvents number number .waking) =
            [.does .wakes] := World.milestones_stride world (World.calm_stride calm)
        rw [awakes]
        exact .leaves rest fits (asked.retires _ inside active)
      · -- a cycle that has begun is not idle, so nothing of it was shown
        have busy : ¬ Standing.isIdle { agent := world.agent number, phase := some phase, scheduled } :=
          fun isIdle => begun (eq_waking_of_isIdle isIdle)
        exact .waits_stride fits active asked (by_contra fun isShown => busy (shown isShown))
          (Bool.eq_false_iff.mpr fun was => busy (idle was)) begun inside calm
    | @report agent outcome scheduled =>
      have busy : ¬ Standing.isIdle { agent, phase := some (.finished outcome), scheduled } :=
        Bool.false_ne_true
      exact .waits_report fits active asked (by_contra fun isShown => busy (shown isShown))
        (Bool.eq_false_iff.mpr fun was => busy (idle was))
    | rouse =>
      rw [milestones_nil, List.append_nil]
      refine .waits rest fits
        { notDone := active.notDone, early := ?_, plans := active.plans } ?_ (fun _ => rfl)
        (fun _ => rfl)
      · rintro _ ⟨⟩
        rfl
      · rcases asked with requested | stopping | ⟨_, ⟨⟩, -⟩
        · exact .inl requested
        · exact .inr (.inl stopping)

end Standing

end Deliberation
