import Deliberation.Proofs.Stopping

/-!
# How agents stop

An agent that was asked to stop finishes the cycle that is under way, if there is one. In its next
cycle it executes its shutdown plans and nothing else, drops what it has and is done. After that it
can appear in one more tick, because something may have woken it while it was shutting down, with
nothing to show (`Moment.Run.stopped_agent_retires`).

The cycle that executes the shutdown plans ends: each of them takes finitely many strides.
-/

namespace Deliberation

variable {V : Vocabulary}

variable {number : BirthNumber} {plans : List (Plan V)}

/-! ## Shutdown plans come to an end -/

namespace World

/-- Strides lead from the execution of a shutdown plan to the next one or to the end of the
cycle. -/
def PartingEnds (number : BirthNumber) (pending : List (Plan V)) (actions : List V.Action)
    (script : Script V) : Prop :=
  ∀ finished effects (world : World V), ∃ stop,
    Strides number (world, .parting script finished pending effects actions) stop ∧
      ((∃ outcome, stop.2 = .finished outcome) ∨
        ∃ effects actions, stop.2 = .closing pending effects actions)

variable {pending : List (Plan V)} {actions : List V.Action}

/-- A script comes to its end if what is left behind one operation does. -/
theorem PartingEnds.of_advance {script : Script V}
    (goesOn : ∀ turn : Turn V, ∃ after wait rest,
      script.advance number turn = .blocked after wait rest ∧
        PartingEnds number pending actions rest) : PartingEnds number pending actions script := by
  intro finished effects world
  obtain ⟨after, wait, rest, advanced, ends⟩ := goesOn { world, effects, finished }
  obtain ⟨stop, strides, ended⟩ := ends after.finished after.effects after.world
  have once : Stride number _ _ := .stride world (.parting script finished pending effects actions)
  simp only [stride] at once
  rw [advanced] at once
  exact ⟨stop, .head once strides, ended⟩

/-- A script leads to its end, operation by operation. -/
theorem partingEnds (number : BirthNumber) (pending : List (Plan V)) (actions : List V.Action)
    (script : Script V) : PartingEnds number pending actions script := by
  cases script with
  | done result memory =>
    intro finished effects world
    refine ⟨_, .single (.stride _ _), .inr ?_⟩
    cases result <;> exact ⟨_, _, rfl⟩
  | panic cause => exact fun finished effects world => ⟨_, .single (.stride _ _), .inl ⟨_, rfl⟩⟩
  | reach agent arrival next =>
    refine .of_advance fun turn => ?_
    simp only [Script.advance]
    cases turn.world.handles.find? agent with
    | none => exact ⟨_, _, _, rfl, partingEnds number pending actions (next false)⟩
    | some reached => exact ⟨_, _, _, rfl, partingEnds number pending actions (next true)⟩
  | finish next | change _ _ next | raise _ next | adoptGoal _ next | adoptPlan _ next
  | requestStop next | addInterceptor _ _ next | note _ next | await _ next | sleep _ next =>
    exact .of_advance fun turn => ⟨_, _, _, rfl, partingEnds number pending actions next⟩
  | isFinished next | observe next | nameInterceptor _ next | interceptorNamed _ next
  | removeInterceptor _ _ next | send _ next =>
    exact .of_advance fun turn => ⟨_, _, _, rfl, partingEnds number pending actions (next _)⟩

/-- Strides lead from the shutdown plans to the end of the cycle. -/
theorem closing_strides (number : BirthNumber) (pending : List (Plan V)) (effects : Effects V)
    (actions : List V.Action) (world : World V) :
    ∃ stop outcome, Strides number (world, .closing pending effects actions) stop ∧
      stop.2 = .finished outcome := by
  induction pending generalizing effects actions world with
  | nil => exact ⟨_, _, .single (.stride _ _), rfl⟩
  | cons plan pending ih =>
    obtain ⟨⟨middle, phase⟩, strides, ended⟩ :=
      partingEnds number pending actions plan.start false effects world
    have begun : Strides number (world, .closing (plan :: pending) effects actions)
        (middle, phase) := .head (.stride _ _) strides
    rcases ended with ⟨outcome, rfl⟩ | ⟨effects, actions, rfl⟩
    · exact ⟨_, outcome, begun, rfl⟩
    · obtain ⟨stop, outcome, later, finished⟩ := ih effects actions middle
      exact ⟨stop, outcome, begun.trans later, finished⟩

/-- A cycle that executes shutdown plans can be brought to its end. -/
theorem late_strides (world : World V) {phase : Phase V} (late : phase.isLate = true) :
    ∃ stop outcome, Strides number (world, phase) stop ∧ stop.2 = .finished outcome := by
  cases phase with
  | closing pending effects actions => exact closing_strides number pending effects actions world
  | parting script finished pending effects actions =>
    obtain ⟨⟨middle, phase⟩, strides, ended⟩ :=
      partingEnds number pending actions script finished effects world
    rcases ended with ⟨outcome, rfl⟩ | ⟨effects, actions, rfl⟩
    · exact ⟨_, outcome, strides, rfl⟩
    · obtain ⟨stop, outcome, later, finished⟩ :=
        closing_strides number pending effects actions middle
      exact ⟨stop, outcome, strides.trans later, finished⟩
  | _ => cases late

end World

/-! ## Whole runs -/

namespace Standing

variable {standing : Standing V} {tail : List (Event V)} {entries : Nat}

/-- An agent in its last cycle is done or executes its shutdown plans. -/
theorem Retires.late_or_done (retires : standing.Retires plans tail entries) :
    (∃ phase, standing.phase = some phase ∧ phase.isLate = true) ∨ standing.agent.done = true := by
  cases retires with
  | closing | parting => exact .inl ⟨_, rfl, rfl⟩
  | ended _ _ isDone | rests _ _ _ isDone | roused _ _ _ isDone | passes _ _ _ isDone =>
    exact .inr isDone

/-- An agent in its last cycle has a milestone to show for it. -/
theorem Retires.tail_ne_nil (retires : standing.Retires plans tail entries) : tail ≠ [] := by
  cases retires <;> simp [Exit.cycle]

end Standing

namespace Moment

variable {moment final : Moment V} {events : List (Event V)}

/-- A request to stop that lies somewhere while there is no cycle keeps its agent scheduled. -/
theorem Sound.scheduled_of_asked (sound : moment.Sound)
    (active : (moment.standing number).Active plans) (asked : (moment.standing number).Asked)
    (noCycle : moment.cycles.lookup number = none) :
    moment.world.executor.schedule.find? (moment.world.agent number).id = some number := by
  have pending : (moment.world.agent number).hasPendingWork = true := by
    have notDone : (moment.world.agent number).done = false := active.notDone
    rcases asked with requested | stopping | ⟨phase, present, -⟩
    · have requested : (moment.world.agent number).inbox.stopRequested = true := requested
      simp [Agent.hasPendingWork, notDone, Inbox.isEmpty, requested]
    · have stopping : (moment.world.agent number).stopping = true := stopping
      simp [Agent.hasPendingWork, notDone, stopping]
    · rw [show moment.cycles.lookup number = some phase from present] at noCycle
      cases noCycle
  rcases sound.flight.awake number with ⟨phase, member, -⟩ | awake
  · exact absurd rfl (bne_iff_ne.mp (List.lookup_eq_none_iff.mp noCycle _ member))
  · exact awake pending

/-- While one cycle makes its strides, everything else may stand still. -/
theorem Run.of_strides {phase : Phase V} (present : moment.cycles.lookup number = some phase)
    {stop : World V × Phase V}
    (strides : World.Strides number (moment.world, phase) stop) :
    ∃ events next, Run number moment events next ∧ next.standing number =
      { agent := stop.1.agent number, phase := some stop.2
        scheduled := stop.1.isScheduled number } := by
  obtain ⟨before, behind, split, others⟩ := List.lookup_eq_some_iff.mp present
  obtain ⟨⟨world, cycles⟩, airborne⟩ := moment
  simp only at split
  subst split
  obtain ⟨events, run⟩ := Run.of_flights (Flight.of_strides strides before behind) number airborne
  have follows : (before ++ (number, stop.2) :: behind).lookup number = some stop.2 :=
    List.lookup_eq_some_iff.mpr ⟨before, behind, rfl, others⟩
  refine ⟨events, _, run, ?_⟩
  unfold standing
  rw [follows]

/-- What every change of an agent's standing keeps is kept by a run. -/
theorem Run.keeps {Invariant : Standing V → List (Event V) → Nat → Prop}
    (kept : ∀ {before after events past entries}, Invariant before past entries →
      Standing.Change number before events after → (∀ cause, .breaks cause ∉ events) →
        Invariant after (past ++ milestones events) (entries + events.countP Event.isEntry))
    {start : Moment V} (run : Run number start events final) (sound : start.Sound)
    (inside : number < start.world.agents.size) {past : List (Event V)} {entries : Nat}
    (holds : Invariant (start.standing number) past entries)
    (calm : ∀ cause, .breaks cause ∉ events) :
    Invariant (final.standing number) (past ++ milestones events)
      (entries + events.countP Event.isEntry) := by
  induction run with
  | refl => simpa using holds
  | @step middle final earlier later run step ih =>
    have change := step.change (run.sound sound) (Nat.lt_of_lt_of_le inside (run.size_le sound))
    have before := ih fun cause broken => calm cause (List.mem_append_left _ broken)
    have after := kept before change fun cause broken => calm cause (List.mem_append_right _ broken)
    rw [milestones_append, List.countP_append, ← List.append_assoc, ← Nat.add_assoc]
    exact after

/-- What a run has been to an agent with these shutdown plans since it was asked to stop at its
start. -/
structure Retirement (number : BirthNumber) (plans : List (Plan V)) (start : Moment V)
    (events : List (Event V)) (final : Moment V) (rest : Rest V) (exit : Exit V)
    (tail : List (Event V)) : Prop where
  /-- The cycle that was under way comes to its end; and there is nothing left of it if it was not
  under way. What follows is the tail. -/
  milestones : Deliberation.milestones events = rest.events ++ tail
  remains : rest.Fits (start.standing number)
  /-- The tail is the last cycle, in which the shutdown plans are executed in their order and
  nothing else is, and then one more cycle without anything to do. Only who puts the agent into the
  schedule from outside can make it more than one. -/
  listed : exit.results.map Prod.fst = plans
  follows : tail <+: exit.cycle ++ Exit.encores (1 + events.countP Event.isEntry)
  /-- In the last cycle the agent becomes done, for good. -/
  done : .does (.retires exit.dropped []) ∈ tail → (final.world.agent number).done = true
  /-- The last cycle is due as long as it has not begun. -/
  due : tail = [] → final.cycles.lookup number = none →
    final.world.executor.schedule.find? (final.world.agent number).id = some number
  /-- When it has begun it can be brought to its end. -/
  ends : tail ≠ [] → ∃ later next, Run number final later next ∧
    ((∀ cause, .breaks cause ∉ later) → (next.world.agent number).done = true)

/-- A course that has come this far is a retirement. -/
theorem Retirement.of_course {start : Moment V} (sound : final.Sound)
    (inside : number < final.world.agents.size)
    (course : Standing.Course plans (start.standing number) (final.standing number)
      (Deliberation.milestones events) (events.countP Event.isEntry)) :
    ∃ rest exit tail, Retirement number plans start events final rest exit tail := by
  generalize past : Deliberation.milestones events = told at course
  generalize standing : final.standing number = now at course
  cases course with
  | waits rest fits active asked shown idle =>
    subst standing
    refine ⟨rest, ⟨plans.map fun plan => (plan, .ok none), []⟩, [],
      { milestones := by rw [past, List.append_nil], remains := fits
        listed := by simp [Function.comp_def], follows := List.nil_prefix, done := nofun
        due := fun _ => sound.scheduled_of_asked active asked
        ends := fun some => absurd rfl some }⟩
  | @leaves _ tail rest fits retires =>
    subst standing
    obtain ⟨exit, listed, follows, done⟩ := retires.exit
    refine ⟨rest, exit, tail,
      { milestones := past, remains := fits, listed, follows, done
        due := fun none => absurd none retires.tail_ne_nil, ends := fun _ => ?_ }⟩
    rcases retires.late_or_done with ⟨phase, present, late⟩ | isDone
    · obtain ⟨stop, outcome, strides, finished⟩ := final.world.late_strides late
      obtain ⟨later, next, run, stands⟩ := Run.of_strides present strides
      refine ⟨later, next, run, fun calm => ?_⟩
      have further := run.keeps Standing.Retires.change sound inside retires calm
      refine further.late_or_done.resolve_left ?_
      rintro ⟨phase, present, late⟩
      rw [stands, finished] at present
      cases present
      cases late
    · exact ⟨[], final, .refl, fun _ => isDone⟩

/-- An agent that was asked to stop retires, in every run without panics of its own. Whatever
arrives at it and whatever becomes of the plan that asked for it: in its next cycle it executes its
shutdown plans and nothing else, and then it is done. -/
theorem Run.stopped_agent_retires {settings : ExecutorSettings} {messenger : Messenger}
    (noDeadline : settings.unitTimeout = none) {before after : Moment V}
    {past request future : List (Event V)}
    (earlier : Run number (.new settings messenger) past before)
    (inside : number < before.world.agents.size)
    (notDone : (before.world.agent number).done = false)
    (early : ∀ phase, before.cycles.lookup number = some phase → phase.isLate = false)
    (step : Step number before request after) (asked : request.any Event.isRequest = true)
    (later : Run number after future final)
    (calm : ∀ cause, .breaks cause ∉ request ++ future) :
    ∃ rest exit tail, Retirement number (before.world.agent number).shutdownPlans after future final
      rest exit tail := by
  have sound := earlier.sound (.new settings messenger noDeadline)
  have afterSound := step.sound sound
  have afterInside := Nat.lt_of_lt_of_le inside (step.size_le sound)
  have change := step.change sound inside
  have active : (before.standing number).Active (before.world.agent number).shutdownPlans :=
    { notDone, early, plans := rfl }
  obtain ⟨stillActive, lies⟩ := Standing.Change.asked change active asked
    fun cause broken => calm cause (List.mem_append_left _ broken)
  have waits : Standing.Course (before.world.agent number).shutdownPlans (after.standing number)
      (after.standing number) (Rest.events ⟨[], none⟩) 0 :=
    .waits ⟨[], none⟩ ⟨nofun, fun _ => rfl⟩ stillActive lies (fun shown => absurd rfl shown)
      (fun idle => idle)
  have course := later.keeps Standing.Course.change afterSound afterInside waits
    fun cause broken => calm cause (List.mem_append_right _ broken)
  refine Retirement.of_course (later.sound afterSound)
    (Nat.lt_of_lt_of_le afterInside (later.size_le afterSound)) ?_
  rw [Nat.zero_add] at course
  exact course

/-! ### Runs stride by stride -/

/-- Let the first cycle make a number of strides. -/
def walk (number : BirthNumber) : Nat → Moment V → List (Event V) × Moment V
  | 0, moment => ([], moment)
  | strides + 1, moment =>
    match moment.cycles with
    | [] => ([], moment)
    | (self, phase) :: behind =>
      let (world, next) := moment.world.stride self phase
      let (events, final) :=
        walk number strides { moment with world, cycles := (self, next) :: behind }
      (moment.world.strideEvents number self phase ++ events, final)

/-- Strides in a row are a run. -/
theorem Run.walk (number : BirthNumber) (strides : Nat) (moment : Moment V) :
    Run number moment (walk number strides moment).1 (walk number strides moment).2 := by
  induction strides generalizing moment with
  | zero => exact .refl
  | succ strides ih =>
    unfold Moment.walk
    split
    · exact .refl
    · rename_i self phase behind underway
      have first : Step number moment _ _ := @Step.stride _ _ moment [] behind self phase underway
      have begun := Run.step .refl first
      rw [List.nil_append] at begun
      exact begun.trans (ih _)

end Moment

/-! ## A clerk that is killed -/

namespace Market

/-- The clerk has come. -/
def engaged : Moment vocabulary := { Moment.new office (.new none) with world := staffed }

/-- The clerk is killed. -/
def discharged : Moment vocabulary :=
  { engaged with world := (Operation.kill (AgentId.ofNat 1)).perform staffed }

/-- A tick begins. -/
def parting : Moment vocabulary :=
  { toFlight := .depart discharged.world none [0], airborne := true }

/-- What the clerk does in its last cycle. -/
def lastDeeds : List (Event vocabulary) := (parting.walk 0 5).1

/-- The last cycle of the clerk is over. -/
def parted : Moment vocabulary := (parting.walk 0 5).2

end Market

namespace Moment

/-- The clerk that is killed makes its last offer and is done. -/
theorem Run.stopped_agent_retires_discharged :
    Market.office.unitTimeout = none ∧
      (∃ past, Run 0 (.new Market.office (.new none)) past Market.engaged) ∧
      Step 0 Market.engaged [.receives .stop] Market.discharged ∧
      Run 0 Market.discharged Market.lastDeeds Market.parted ∧
      (Market.parted.world.agent 0).done = true ∧
      ∃ rest exit tail, Retirement 0 (Market.staffed.agent 0).shutdownPlans Market.discharged
        Market.lastDeeds Market.parted rest exit tail := by
  have past : Run 0 (.new Market.office (.new none)) _ Market.engaged :=
    .step .refl (.operate _ (.spawn (AgentId.ofNat 1) Market.clerk) (.inr nofun))
  have step : Step 0 Market.engaged [.receives .stop] Market.discharged :=
    .operate Market.engaged (.kill (AgentId.ofNat 1)) trivial
  have off : Run 0 Market.discharged [] Market.parting :=
    .step .refl (.depart Market.discharged.world none (by decide +kernel))
  have future : Run 0 Market.discharged Market.lastDeeds Market.parted :=
    off.trans (Run.walk 0 5 Market.parting)
  have unbroken : ([Event.receives .stop] ++ Market.lastDeeds).all (fun event =>
      match event with
      | .breaks _ => false
      | _ => true) = true := by decide +kernel
  refine ⟨rfl, ⟨_, past⟩, step, future, by decide +kernel, ?_⟩
  exact Run.stopped_agent_retires rfl past (by decide +kernel) (by decide +kernel) nofun step rfl
    future fun cause broken => nomatch List.all_eq_true.mp unbroken _ broken

end Moment

end Deliberation
