import Deliberation.Proofs.Twins

/-!
# Cycles that keep to their own agent

A cycle is confined at some moment (`World.Confined`) when what it does next concerns its own agent
and its own goals only: it sends no message, reaches no other agent, and neither its goals nor its
schemes have to do with a flag that is not its own. A confined stride does the same in twins and
leaves alone what is not its own (`World.stride_tandem`).
-/

namespace Deliberation

open Relation

variable {V : Vocabulary}

variable {own : GoalId → Prop}

/-! ## Scripts -/

/-- The next operation of a script concerns its own agent only. -/
def Script.Confined (world : World V) (number : BirthNumber) : Script V → Prop
  | .send .. => False
  | .reach agent .. => ∀ reached, world.handles.find? agent = some reached → reached = number
  | _ => True

/-- The same halt in another world, and perhaps waiting for another moment. -/
def Halt.within (halt : Halt V) (world : World V) (wait : Wait) : Halt V :=
  match halt with
  | returned turn result memory => .returned (turn.withWorld world) result memory
  | panicked turn cause => .panicked (turn.withWorld world) cause
  | blocked turn _ rest => .blocked (turn.withWorld world) wait rest

variable {number : BirthNumber} {world other : World V}

/-- One operation of a script does the same in twins. -/
theorem Script.advance_tandem (twin : world.Twin own number other) {script : Script V}
    (confined : script.Confined world number) (effects : Effects V) (finished : Bool) :
    ∃ after, script.advance number { world, effects, finished } =
        (script.advance number { world := other, effects, finished }).within after
          (.time world.clock) ∧
      World.Tandem own number world after
        (script.advance number { world := other, effects, finished }).turn.world := by
  cases script with
  | done | panic | finish | isFinished | raise | adoptGoal | adoptPlan | requestStop | await
  | sleep => exact ⟨world, rfl, .refl twin⟩
  | observe next =>
    refine ⟨world, ?_, .refl twin⟩
    simp only [advance, twin.agent]
    rfl
  | change capability update next => exact ⟨_, rfl, .modifyAgent twin _ fun _ => rfl⟩
  | nameInterceptor name next =>
    refine ⟨{ world with names := (other.names.create name).2 }, ?_, .withNames twin _⟩
    simp only [advance, twin.names]
    rfl
  | interceptorNamed name next =>
    refine ⟨world, ?_, .refl twin⟩
    simp only [advance, twin.names]
    rfl
  | addInterceptor category interceptor next => exact ⟨_, rfl, .modifyAgent twin _ fun _ => rfl⟩
  | removeInterceptor category id next =>
    refine ⟨_, ?_, .modifyAgent twin _ fun _ => rfl⟩
    simp only [advance, twin.agent]
    rfl
  | send message next => exact confined.elim
  | reach agent arrival next =>
    simp only [advance, twin.handles]
    cases found : other.handles.find? agent with
    | none => exact ⟨world, rfl, .refl twin⟩
    | some reached =>
      have self : reached = number := confined reached (twin.handles ▸ found)
      subst self
      exact ⟨_, rfl, .arrive twin arrival⟩
  | note entry next => exact ⟨_, rfl, .log twin _⟩

/-! ## Stages of a cycle -/

namespace World

/-- Twins drain the same inbox. -/
theorem drain_tandem (twin : world.Twin own number other) :
    Lockstep own number world (world.drain number) (other.drain number) := by
  simp only [drain, twin.agent]
  refine ⟨rfl, .modifyAgent twin _ fun agent => ?_⟩
  exact (Agent.adoptAll_steady _ { agent with inbox := Inbox.empty }).id

/-- Twins drop the same goals when the agent has these to itself. -/
theorem sweep_tandem (twin : world.Twin own number other)
    (owned : ∀ handle ∈ (world.agent number).goals, own handle.id) :
    Lockstep own number world (world.sweep number) (other.sweep number) := by
  obtain ⟨same, flags⟩ := sweepGoals_tandem twin.flags (world.agent number).contexts owned
  have flagged := Tandem.withPursuit twin flags
  simp only [sweep, ← twin.agent]
  rw [same]
  exact ⟨rfl, flagged.trans (.modifyAgent flagged.twin _ fun _ => rfl)⟩

/-- Twins sense own triggers alike, if schemes and interceptors look at own flags only. -/
theorem senseTriggers_tandem (twin : world.Twin own number other) (category : Category)
    {triggers : List (Trigger V)} (aims : ∀ trigger ∈ triggers, trigger.Within own)
    (schemes : ∀ scheme ∈ (world.agent number).schemes.get category, scheme.Within own)
    (interceptors : ∀ interceptor ∈ (world.agent number).interceptors.get category,
      interceptor.scheme.Within own) :
    Lockstep own number world (world.senseTriggers number category triggers)
      (other.senseTriggers number category triggers) := by
  obtain ⟨scans, flags⟩ := scanFrom_tandem twin.flags (world.agent number).view [] [] aims
    interceptors
  have left := (scanFrom_within (other.agent number).view [] [] triggers other.pursuit
    ((other.agent number).interceptors.get category)).2
  simp only [senseTriggers, scanInterceptors, matchSchemes, ← twin.agent] at left ⊢
  rw [scans]
  generalize scanFrom (world.agent number).view [] [] triggers other.pursuit
    ((world.agent number).interceptors.get category) = scan at flags left ⊢
  generalize (scanFrom (world.agent number).view [] [] triggers world.pursuit
    ((world.agent number).interceptors.get category)).pursuit = scanned at flags ⊢
  have flagged := Tandem.withPursuit twin flags
  have first := flagged.trans (.modifyAgent flagged.twin
    (fun agent =>
      { agent with interceptors := agent.interceptors.set category scan.interceptors })
    fun _ => rfl)
  cases scan.broken with
  | some panic => exact ⟨rfl, first⟩
  | none =>
    obtain ⟨finds, marks⟩ := matchFrom_tandem flags.agree (world.agent number).view [] schemes
      fun trigger member => aims trigger (left trigger member)
    simp only [pursuit_modifyAgent]
    rw [finds]
    generalize matchFrom (world.agent number).view [] scan.pursuit
      ((world.agent number).schemes.get category) scan.triggers = found at marks ⊢
    generalize (matchFrom (world.agent number).view [] scanned
      ((world.agent number).schemes.get category) scan.triggers).pursuit = matched at marks ⊢
    have marked := first.trans (.withPursuit first.twin marks)
    have second := marked.trans (.modifyAgent marked.twin
      (fun agent => { agent with schemes := agent.schemes.set category found.schemes })
      fun _ => rfl)
    cases found.broken with
    | some panic => exact ⟨rfl, second⟩
    | none => exact ⟨rfl, second.trans (.modifyAgent second.twin _ fun _ => rfl)⟩

/-- To release plans clears their flags. -/
theorem releaseAll_tandem {first second : Pursuit} (agree : first.Agree own second)
    {plans : List (ActivePlan V)} (within : ∀ active ∈ plans, active.Within own) :
    Pursuit.Tandem own first (plans.foldl (fun pursuit active => active.release pursuit) first)
      (plans.foldl (fun pursuit active => active.release pursuit) second) := by
  induction plans generalizing first second with
  | nil => exact agree.tandem
  | cons active rest ih =>
    have released := active.release_tandem agree (within active List.mem_cons_self)
    exact released.trans (ih released.agree fun other member =>
      within other (List.mem_cons_of_mem _ member))

/-- Clearing the flags of own goals is a change in tandem. -/
theorem clearAll_tandem {first second : Pursuit} (agree : first.Agree own second)
    {goals : List (GoalHandle V)} (owned : ∀ handle ∈ goals, own handle.id) :
    Pursuit.Tandem own first
      (goals.foldl (fun pursuit handle => pursuit.set handle.id false) first)
      (goals.foldl (fun pursuit handle => pursuit.set handle.id false) second) := by
  induction goals generalizing first second with
  | nil => exact agree.tandem
  | cons handle rest ih =>
    have cleared := agree.set (owned handle List.mem_cons_self) false
    exact cleared.trans (ih cleared.agree fun other member =>
      owned other (List.mem_cons_of_mem _ member))

/-- Twins retire alike when the agent has its plans and goals to itself. -/
theorem retire_tandem (twin : world.Twin own number other)
    (within : ∀ active ∈ (world.agent number).plans, active.Within own)
    (owned : ∀ handle ∈ (world.agent number).goals, own handle.id) :
    Tandem own number world (world.retire number) (other.retire number) := by
  have released := releaseAll_tandem twin.flags within
  have cleared := released.trans (clearAll_tandem released.agree owned)
  have flagged := Tandem.withPursuit twin cleared
  simp only [retire, ← twin.agent]
  exact flagged.trans (.modifyAgent flagged.twin _ fun _ => rfl)

/-- Twins apply the same effects. -/
theorem applyEffects_tandem (twin : world.Twin own number other) (effects : Effects V) :
    Tandem own number world (world.applyEffects number effects)
      (other.applyEffects number effects) := by
  refine .modifyAgent twin _ fun agent => ?_
  exact (Agent.adoptAll_steady effects.goals _).id

end World

/-! ## Strides -/

/-- What a cycle has in hand concerns its own agent only. -/
def Phase.Confined (own : GoalId → Prop) (world : World V) (number : BirthNumber) : Phase V → Prop
  | .sensing inbox .. => ∀ category, ∀ trigger ∈ inbox.triggers category, trigger.Within own
  | .acting script _ active .. => active.Within own ∧ script.Confined world number
  | .parting script .. => script.Confined world number
  | _ => True

namespace World

/-- What a cycle does next concerns its own agent and its own goals only. -/
structure Confined (own : GoalId → Prop) (world : World V) (number : BirthNumber)
    (phase : Phase V) : Prop where
  goals : ∀ handle ∈ (world.agent number).goals, own handle.id
  plans : ∀ active ∈ (world.agent number).plans, active.Within own
  schemes : ∀ category, ∀ scheme ∈ (world.agent number).schemes.get category, scheme.Within own
  interceptors : ∀ category, ∀ interceptor ∈ (world.agent number).interceptors.get category,
    interceptor.scheme.Within own
  phase : phase.Confined own world number

/-- The cycle of an agent is confined all along. -/
def Keeps (own : GoalId → Prop) (world : World V) (number : BirthNumber) : Prop :=
  ∀ state, Hops number (world, .waking) state → state.1.Confined own number state.2

/-- Whether a cycle is confined shows in the agent and its phase alone. -/
theorem Confined.alike {phase : Phase V} (confined : other.Confined own number phase)
    (alike : world.Alike own number other) : world.Confined own number phase where
  goals := alike.agent ▸ confined.goals
  plans := alike.agent ▸ confined.plans
  schemes := alike.agent ▸ confined.schemes
  interceptors := alike.agent ▸ confined.interceptors
  phase := by
    have inHand := confined.phase
    have scripts : ∀ script : Script V, script.Confined other number →
        script.Confined world number := by
      intro script
      cases script with
      | reach => exact fun reaches reached found => reaches reached (alike.handles ▸ found)
      | _ => exact id
    cases phase with
    | acting script => exact ⟨inHand.1, scripts script inHand.2⟩
    | parting script => exact scripts script inHand
    | _ => exact inHand

/-- Twins begin a cycle alike. -/
theorem waking_tandem (twin : world.Twin own number other) :
    Lockstep own number world (world.stride number .waking) (other.stride number .waking) := by
  obtain ⟨inbox, drained⟩ := drain_tandem twin
  simp only [stride, twin.agent, drained.twin.agent, inbox]
  split
  · exact ⟨rfl, .refl twin⟩
  · split
    · exact ⟨rfl, drained.trans (.modifyAgent drained.twin _ fun _ => rfl)⟩
    · exact ⟨rfl, drained⟩

/-- Twins achieve their goals alike. -/
theorem sweeping_tandem (twin : world.Twin own number other) {inbox : Inbox V}
    (confined : world.Confined own number (.sweeping inbox)) :
    Lockstep own number world (world.stride number (.sweeping inbox))
      (other.stride number (.sweeping inbox)) := by
  obtain ⟨panic, swept⟩ := sweep_tandem twin confined.goals
  simp only [stride]
  rcases first : world.sweep number with ⟨after, left⟩
  rcases second : other.sweep number with ⟨afterOther, right⟩
  rw [first, second] at panic swept
  cases panic
  cases left with
  | some panic => exact ⟨rfl, swept⟩
  | none =>
    refine ⟨?_, swept⟩
    simp only [swept.twin.agent]

/-- Twins make a sense step alike. -/
theorem sensing_tandem (twin : world.Twin own number other) {inbox : Inbox V}
    {category : Category} {steps : List SenseStep} {acts : List ActStep}
    (confined : world.Confined own number (.sensing inbox (category :: steps) acts)) :
    Lockstep own number world (world.stride number (.sensing inbox (category :: steps) acts))
      (other.stride number (.sensing inbox (category :: steps) acts)) := by
  have aims := within_offered confined.goals (confined.phase category)
  unfold offered at aims
  simp only [stride, ← twin.agent]
  generalize (if category = .goal then (world.agent number).goals.map Trigger.goal
    else inbox.triggers category) = triggers at aims ⊢
  split
  · exact ⟨rfl, .refl twin⟩
  · obtain ⟨panic, sensed⟩ := senseTriggers_tandem twin category aims
      (confined.schemes category) (confined.interceptors category)
    rcases first : world.senseTriggers number category triggers with ⟨after, left⟩
    rcases second : other.senseTriggers number category triggers with ⟨afterOther, right⟩
    rw [first, second] at panic sensed
    cases panic
    cases left with
    | some panic => exact ⟨rfl, sensed⟩
    | none => exact ⟨rfl, sensed⟩

/-- Twins turn to the same plan. -/
theorem planning_tandem (twin : world.Twin own number other) (pending : List (ActivePlan V))
    (steps : List ActStep) (progress : Progress V) :
    Lockstep own number world (world.stride number (.planning pending steps progress))
      (other.stride number (.planning pending steps progress)) := by
  cases pending with
  | cons active pending => exact ⟨rfl, .refl twin⟩
  | nil =>
    cases steps with
    | nil =>
      have applied := applyEffects_tandem twin progress.effects
      refine ⟨?_, applied⟩
      simp only [stride, conclude, Progress.act, applied.twin.agent]
      rfl
    | cons step steps =>
      cases step
      refine ⟨?_, .modifyAgent twin _ fun _ => rfl⟩
      simp only [stride, twin.agent]

/-- Twins execute an operation of an active plan alike. -/
theorem acting_tandem (twin : world.Twin own number other) {script : Script V} {finished : Bool}
    {active : ActivePlan V} {pending : List (ActivePlan V)} {steps : List ActStep}
    {progress : Progress V}
    (confined : world.Confined own number
      (.acting script finished active pending steps progress)) :
    Lockstep own number world
      (world.stride number (.acting script finished active pending steps progress))
      (other.stride number (.acting script finished active pending steps progress)) := by
  obtain ⟨after, advanced, tandem⟩ :=
    Script.advance_tandem twin confined.phase.2 progress.effects finished
  have releases := active.release_tandem tandem.twin.flags confined.phase.1
  have released := tandem.trans (.withPursuit tandem.twin releases)
  simp only [stride, advanced]
  cases halted : script.advance number { world := other, effects := progress.effects, finished }
    with
  | returned turn result memory =>
    rw [halted] at tandem released
    cases result with
    | ok action =>
      refine ⟨rfl, ?_⟩
      simp only [Halt.within, Turn.withWorld, Act.kept]
      cases turn.finished with
      | true => exact released
      | false => exact tandem.trans (.modifyAgent tandem.twin _ fun _ => rfl)
    | error cause =>
      have dropped := released.trans (.modifyAgent released.twin
        (fun agent => { agent with plans := agent.plans ++ pending }) fun _ => rfl)
      exact ⟨rfl, dropped.trans (applyEffects_tandem dropped.twin turn.effects)⟩
  | panicked turn cause =>
    rw [halted] at tandem
    exact ⟨rfl, tandem⟩
  | blocked turn wait rest =>
    rw [halted] at tandem
    exact ⟨rfl, tandem⟩

/-- Twins execute an operation of a shutdown plan alike. -/
theorem parting_tandem (twin : world.Twin own number other) {script : Script V} {finished : Bool}
    {pending : List (Plan V)} {effects : Effects V} {actions : List V.Action}
    (confined : world.Confined own number (.parting script finished pending effects actions)) :
    Lockstep own number world
      (world.stride number (.parting script finished pending effects actions))
      (other.stride number (.parting script finished pending effects actions)) := by
  obtain ⟨after, advanced, tandem⟩ := Script.advance_tandem twin confined.phase effects finished
  simp only [stride, advanced]
  cases halted : script.advance number { world := other, effects, finished } with
  | returned turn result memory =>
    rw [halted] at tandem
    cases result <;> exact ⟨rfl, tandem⟩
  | panicked turn cause =>
    rw [halted] at tandem
    exact ⟨rfl, tandem⟩
  | blocked turn wait rest =>
    rw [halted] at tandem
    exact ⟨rfl, tandem⟩

/-- One stride of a confined cycle does the same in twins. -/
theorem stride_tandem (twin : world.Twin own number other) {phase : Phase V}
    (confined : world.Confined own number phase) :
    Lockstep own number world (world.stride number phase) (other.stride number phase) := by
  cases phase with
  | waking => exact waking_tandem twin
  | sweeping inbox => exact sweeping_tandem twin confined
  | sensing inbox steps acts =>
    cases steps with
    | nil => exact ⟨rfl, .refl twin⟩
    | cons category steps => exact sensing_tandem twin confined
  | planning pending steps progress => exact planning_tandem twin pending steps progress
  | acting script finished active pending steps progress => exact acting_tandem twin confined
  | closing pending effects actions =>
    cases pending with
    | cons plan pending => exact ⟨rfl, .refl twin⟩
    | nil => exact ⟨rfl, retire_tandem twin confined.plans confined.goals⟩
  | parting script finished pending effects actions => exact parting_tandem twin confined
  | finished outcome => exact ⟨rfl, .refl twin⟩

end World

end Deliberation
