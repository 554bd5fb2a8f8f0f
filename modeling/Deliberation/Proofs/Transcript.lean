import Deliberation.Proofs.Breakage
import Deliberation.Proofs.Deeds
import Mathlib.Data.List.ModifyLast

/-!
# The transcript of a cycle

A `Transcript` records what a deliberating cycle does to the plans of its agent: the plans that it
found, what each sense step made active, which plans each act step executed and how these came out,
and which plans were adopted. A `Performance` is a cycle that makes its strides while other things
happen in between, with its transcript. Every cycle that `World.cycle` runs is one, also when it
waits and goes on later.

`Transcript.Tells` says how the transcript of a cycle that is over accounts for the plans that are
left and for the outcome. No plan is lost, executed twice or out of turn (`Performance.plans_in_order`).
-/

namespace Deliberation

open Relation

variable {V : Vocabulary}

/-! ## Transcripts -/

/-- What a sense step found. -/
structure Sensing (V : Vocabulary) where
  category : Category
  intercepted : List (Hit V)
  matched : List (Hit V)

/-- The plans that a sense step made active, those of interceptors first. -/
def Sensing.plans (sensing : Sensing V) : List (ActivePlan V) :=
  activated sensing.intercepted ++ activated sensing.matched

/-- What a sense step finds. It finds nothing where it has nothing to start from. -/
def World.sensing (world : World V) (number : BirthNumber) (inbox : Inbox V)
    (category : Category) : Sensing V :=
  let triggers := world.offered number inbox category
  if triggers.isEmpty then { category, intercepted := [], matched := [] }
  else
    { category
      intercepted := (world.intercepted number category triggers).hits
      matched := (world.matched number category triggers).hits }

/-- The execution of a plan that returned. -/
structure Execution (V : Vocabulary) where
  active : ActivePlan V
  result : Except PlanError (Option V.Action)
  /-- Whether the plan was marked finished. -/
  finished : Bool
  /-- What the plan keeps in mind for its next execution. -/
  memory : Nat

namespace Execution

/-- Whether the execution returned no error. -/
def succeeds (execution : Execution V) : Prop := ∃ action, execution.result = .ok action

/-- The plan as it stays active, unless it finished or failed. -/
def left? (execution : Execution V) : Option (ActivePlan V) :=
  match execution.result with
  | .ok _ =>
    if execution.finished then none
    else some { execution.active with plan := execution.active.plan.remember execution.memory }
  | .error _ => none

/-- The action that the plan emitted. -/
def action? (execution : Execution V) : Option V.Action :=
  match execution.result with
  | .ok action => action
  | .error _ => none

end Execution

/-- What a cycle did to the plans of its agent. -/
structure Transcript (V : Vocabulary) where
  /-- The plans that were active when the cycle began. -/
  held : List (ActivePlan V)
  /-- What the sense steps found, in their order. -/
  sensed : List (Sensing V)
  /-- What each act step executed. -/
  rounds : List (List (Execution V))
  /-- The plans that were adopted. -/
  adopted : List (Plan V)

namespace Transcript

/-- Nothing has happened yet. -/
def opening (held : List (ActivePlan V)) : Transcript V :=
  { held, sensed := [], rounds := [], adopted := [] }

/-- The plans that the act stage starts with. -/
def staged (transcript : Transcript V) : List (ActivePlan V) :=
  transcript.held ++ transcript.sensed.flatMap Sensing.plans

/-- Take down the stride that a cycle makes from a phase in a world. -/
def note (transcript : Transcript V) (world : World V) (number : BirthNumber) :
    Phase V → Transcript V
  | .sensing inbox (category :: _) _ =>
    { transcript with sensed := transcript.sensed ++ [world.sensing number inbox category] }
  | .planning [] (.executePlans :: _) _ => { transcript with rounds := transcript.rounds ++ [[]] }
  | .acting (.done result memory) finished active _ _ _ =>
    { transcript with
      rounds := transcript.rounds.modifyLast (· ++ [{ active, result, finished, memory }]) }
  | .acting (.adoptPlan plan _) _ _ _ _ _ =>
    { transcript with adopted := transcript.adopted ++ [plan] }
  | _ => transcript

/-! ### Rounds -/

/-- Rounds in each of which all plans that are still active are executed, one after the other, and
none of them fails. `left` are the plans that are active after the last round. -/
inductive Executed : List (ActivePlan V) → List (List (Execution V)) → List (ActivePlan V) → Prop where
  | start (plans : List (ActivePlan V)) : Executed plans [] plans
  | round {plans : List (ActivePlan V)} {rounds : List (List (Execution V))}
      {round : List (Execution V)}
      (before : Executed plans rounds (round.map Execution.active))
      (succeed : ∀ execution ∈ round, execution.succeeds) :
      Executed plans (rounds ++ [round]) (round.filterMap Execution.left?)

/-- Where an act stage stands: `pending` plans are still to be executed in the present round, and
`plans` are active. -/
inductive Stands (transcript : Transcript V) :
    (pending plans : List (ActivePlan V)) → Prop where
  /-- There was no round yet. -/
  | fresh (none : transcript.rounds = []) : Stands transcript [] transcript.staged
  | midst {earlier : List (List (Execution V))} {round : List (Execution V)}
      {pending : List (ActivePlan V)} (rounds : transcript.rounds = earlier ++ [round])
      (before : Executed transcript.staged earlier (round.map Execution.active ++ pending))
      (succeed : ∀ execution ∈ round, execution.succeeds) :
      Stands transcript pending (round.filterMap Execution.left?)

/-- What a transcript tells of a cycle that is over. `agent` is the agent as the cycle began, and
`plans` are the plans that it is left with. -/
structure Tells (transcript : Transcript V) (agent : Agent V) (plans : List (ActivePlan V))
    (outcome : CycleOutcome V) : Prop where
  held : transcript.held = agent.plans
  /-- The sense steps came in the order of the agent. -/
  sensed : transcript.sensed.map Sensing.category = agent.senseSteps
  /-- Every act step executed all plans that were still active. The agent is left with those that
  did not finish, and with the adopted ones; the outcome lists the actions as they were emitted. -/
  acted : ∀ actions again, outcome = .acted actions again → ∃ left,
    Executed transcript.staged transcript.rounds left ∧
      transcript.rounds.length = agent.actSteps.length ∧
      plans = left ++ transcript.adopted.map ActivePlan.detached ∧
      actions = transcript.rounds.flatten.filterMap Execution.action?
  /-- In the last round the last execution failed, with the error of the outcome. The agent is left
  with the plans that were executed before it and did not finish, with those that were still to be
  executed, and with the adopted ones. -/
  failed : ∀ cause, outcome = .failed cause → ∃ earlier round last behind,
    transcript.rounds = earlier ++ [round ++ [last]] ∧
      Executed transcript.staged earlier (round.map Execution.active ++ last.active :: behind) ∧
      (∀ execution ∈ round, execution.succeeds) ∧ last.result = .error cause ∧
      transcript.rounds.length ≤ agent.actSteps.length ∧
      plans = round.filterMap Execution.left? ++ behind ++
        transcript.adopted.map ActivePlan.detached

/-! ## Transcripts of cycles under way -/

/-- What the transcript of an act stage has to do with what the stage has gathered. -/
structure Acts (transcript : Transcript V) (agent : Agent V) (plans pending : List (ActivePlan V))
    (steps : List ActStep) (progress : Progress V) : Prop where
  held : transcript.held = agent.plans
  sensed : transcript.sensed.map Sensing.category = agent.senseSteps
  stands : transcript.Stands pending plans
  steps : transcript.rounds.length + steps.length = agent.actSteps.length
  adopted : progress.effects.plans = transcript.adopted
  actions : progress.actions = transcript.rounds.flatten.filterMap Execution.action?

/-- How a transcript fits to the phase of its cycle and to the plans that are active. -/
def Fits (transcript : Transcript V) (agent : Agent V) (plans : List (ActivePlan V)) :
    Phase V → Prop
  | .sweeping _ => transcript = opening agent.plans ∧ plans = agent.plans
  | .sensing _ steps acts =>
    transcript.held = agent.plans ∧ transcript.rounds = [] ∧ transcript.adopted = [] ∧
      transcript.sensed.map Sensing.category ++ steps = agent.senseSteps ∧
      acts = agent.actSteps ∧ plans = transcript.staged
  | .planning pending steps progress => transcript.Acts agent plans pending steps progress
  | .acting _ _ active pending steps progress =>
    transcript.Acts agent plans (active :: pending) steps progress
  | .finished outcome =>
    (∃ cause, outcome = .panicked cause) ∨ transcript.Tells agent plans outcome
  | .waking | .closing .. | .parting .. => False

variable {transcript : Transcript V} {agent : Agent V} {plans pending : List (ActivePlan V)}
  {steps : List ActStep} {progress : Progress V} {active : ActivePlan V}

/-- When nothing is pending, the rounds are complete. -/
theorem Stands.executed (stands : transcript.Stands [] plans) :
    Executed transcript.staged transcript.rounds plans := by
  cases stands with
  | fresh none =>
    rw [none]
    exact .start _
  | midst rounds before succeed =>
    rw [rounds]
    rw [List.append_nil] at before
    exact .round before succeed

/-- The next act step takes all active plans. -/
theorem Acts.takes (acts : transcript.Acts agent plans [] (.executePlans :: steps) progress) :
    Acts { transcript with rounds := transcript.rounds ++ [[]] } agent [] plans steps progress where
  held := acts.held
  sensed := acts.sensed
  stands := .midst rfl acts.stands.executed (List.forall_mem_nil _)
  steps := by
    have total := acts.steps
    simp at total ⊢
    omega
  adopted := acts.adopted
  actions := by simp [acts.actions]

/-- A round with a plan that is pending has begun. -/
theorem Stands.begun (stands : transcript.Stands (active :: pending) plans) :
    ∃ earlier round, transcript.rounds = earlier ++ [round] ∧
      Executed transcript.staged earlier (round.map Execution.active ++ active :: pending) ∧
      (∀ execution ∈ round, execution.succeeds) ∧ plans = round.filterMap Execution.left? := by
  cases stands with
  | midst rounds before succeed => exact ⟨_, _, rounds, before, succeed, rfl⟩

/-- The next plan returned an action, or none. -/
theorem Acts.returns (acts : transcript.Acts agent plans (active :: pending) steps progress)
    (execution : Execution V) (executes : execution.active = active)
    {action : Option V.Action} (result : execution.result = .ok action) :
    Acts { transcript with rounds := transcript.rounds.modifyLast (· ++ [execution]) } agent
      (plans ++ execution.left?.toList) pending steps
      { effects := progress.effects
        actions := progress.actions ++ action.toList
        executed := progress.executed + 1 } := by
  obtain ⟨earlier, round, rounds, before, succeed, rfl⟩ := acts.stands.begun
  have noted : transcript.rounds.modifyLast (· ++ [execution]) =
      earlier ++ [round ++ [execution]] := by rw [rounds, List.modifyLast_concat]
  have emitted : execution.action? = action := by simp [Execution.action?, result]
  rw [noted]
  refine { held := acts.held, sensed := acts.sensed, stands := ?_, steps := ?_
           adopted := acts.adopted, actions := ?_ }
  · have left : round.filterMap Execution.left? ++ execution.left?.toList =
        (round ++ [execution]).filterMap Execution.left? := by
      cases stays : execution.left? <;> simp [stays]
    rw [left]
    refine .midst rfl ?_ ?_
    · have order : (round ++ [execution]).map Execution.active ++ pending =
          round.map Execution.active ++ active :: pending := by simp [executes]
      exact order ▸ before
    · intro other member
      rcases List.mem_append.mp member with earlier | last
      · exact succeed other earlier
      · cases List.mem_singleton.mp last
        exact ⟨action, result⟩
  · have total := acts.steps
    rw [rounds] at total
    simpa using total
  · have sofar := acts.actions
    rw [rounds] at sofar
    rw [sofar]
    cases action <;> simp [emitted]

/-- The next plan returned an error: the cycle is over. -/
theorem Acts.fails (acts : transcript.Acts agent plans (active :: pending) steps progress)
    (execution : Execution V) (executes : execution.active = active) {cause : PlanError}
    (result : execution.result = .error cause) :
    Tells { transcript with rounds := transcript.rounds.modifyLast (· ++ [execution]) } agent
      (plans ++ pending ++ progress.effects.plans.map ActivePlan.detached) (.failed cause) := by
  obtain ⟨earlier, round, rounds, before, succeed, rfl⟩ := acts.stands.begun
  have noted : transcript.rounds.modifyLast (· ++ [execution]) =
      earlier ++ [round ++ [execution]] := by rw [rounds, List.modifyLast_concat]
  rw [noted]
  refine { held := acts.held, sensed := acts.sensed, acted := nofun, failed := ?_ }
  rintro _ ⟨rfl⟩
  have total := acts.steps
  rw [rounds] at total
  refine ⟨earlier, round, execution, pending, rfl, executes ▸ before, succeed, result, ?_, ?_⟩
  · simp at total ⊢
    omega
  · rw [acts.adopted]

/-- All act steps are done: the cycle is over. -/
theorem Acts.completes (acts : transcript.Acts agent plans [] [] progress) (again : Bool) :
    transcript.Tells agent (plans ++ progress.effects.plans.map ActivePlan.detached)
      (.acted progress.actions again) where
  held := acts.held
  sensed := acts.sensed
  acted := by
    rintro _ _ ⟨rfl⟩
    have total := acts.steps
    exact ⟨plans, acts.stands.executed, by simpa using total, by rw [acts.adopted], acts.actions⟩
  failed := nofun

/-- An operation of a script that does not return notes the plan that it adopts, if it adopts one. -/
theorem note_blocked (transcript : Transcript V) (world : World V) {number : BirthNumber}
    {script rest : Script V} {turn next : Turn V} {wait : Wait}
    (blocked : script.advance number turn = .blocked next wait rest) (finished : Bool)
    (active : ActivePlan V) (pending : List (ActivePlan V)) (steps : List ActStep)
    (progress : Progress V) :
    ∃ adopted, next.effects.plans = turn.effects.plans ++ adopted ∧
      transcript.note world number (.acting script finished active pending steps progress) =
        { transcript with adopted := transcript.adopted ++ adopted } := by
  cases script with
  | done | panic => cases blocked
  | adoptPlan plan rest =>
    cases blocked
    exact ⟨[plan], rfl, rfl⟩
  | reach agent arrival rest =>
    refine ⟨[], ?_, by simp [note]⟩
    simp only [Script.advance] at blocked
    split at blocked <;> cases blocked <;> simp [Turn.withWorld]
  | _ =>
    cases blocked
    exact ⟨[], by simp [Turn.withWorld, Turn.request], by simp [note]⟩

end Transcript

/-! ## What strides do to the active plans -/

namespace World

variable {world : World V} {number : BirthNumber}

/-- The effects of a cycle add the plans that were adopted. -/
theorem plans_applyEffects (effects : Effects V) (inside : number < world.agents.size) :
    ((world.applyEffects number effects).agent number).plans =
      (world.agent number).plans ++ effects.plans.map ActivePlan.detached := by
  unfold applyEffects
  rw [agent_modifyAgent_self world _ inside]
  simp only [Agent.plans_adoptAll]

/-- A plan that fails leaves those that were kept and those that were pending. -/
theorem plans_dropped (act : Act V) (active : ActivePlan V) (pending : List (ActivePlan V))
    {turn : Turn V} (inside : number < turn.world.agents.size) :
    ((act.dropped number active pending turn).world.agent number).plans =
      (turn.world.agent number).plans ++ pending := by
  unfold Act.dropped
  rw [agent_modifyAgent_self _ _ (by simpa using inside)]
  rfl

/-- What a sense step finds becomes active. -/
theorem plans_senseTriggers {after : World V} {inbox : Inbox V} {category : Category}
    (inside : number < world.agents.size)
    (waiting : (world.offered number inbox category).isEmpty = false)
    (senses : world.senseTriggers number category (world.offered number inbox category) =
      (after, none)) :
    (after.agent number).plans =
      (world.agent number).plans ++ (world.sensing number inbox category).plans := by
  have complete : (world.senseTriggers number category
      (world.offered number inbox category)).2 = none := by rw [senses]
  have plans := (senseTriggers_complete category _ inside complete).2.2
  rw [senses] at plans
  rw [plans]
  unfold sensing Sensing.plans sensedHits activated
  simp [waiting]

end World

/-! ## Performances -/

/-- What other cycles and operations do to an agent whose cycle is under way: its plans and its steps
are left to the cycle. -/
structure World.Spares (number : BirthNumber) (world next : World V) : Prop where
  size : world.agents.size ≤ next.agents.size
  plans : (next.agent number).plans = (world.agent number).plans
  senseSteps : (next.agent number).senseSteps = (world.agent number).senseSteps
  actSteps : (next.agent number).actSteps = (world.agent number).actSteps

/-- A deliberating cycle of an agent under way, with its transcript. It began in the world `start`. -/
inductive Performance (number : BirthNumber) (start : World V) :
    World V → Phase V → Transcript V → Prop where
  /-- The cycle finds the agent neither done nor stopping. -/
  | wakes {world : World V} {inbox : Inbox V}
      (woken : start.stride number .waking = (world, .sweeping inbox)) :
      Performance number start world (.sweeping inbox) (.opening (start.agent number).plans)
  /-- The cycle makes a stride. -/
  | stride {world : World V} {phase : Phase V} {transcript : Transcript V}
      (before : Performance number start world phase transcript) :
      Performance number start (world.stride number phase).1 (world.stride number phase).2
        (transcript.note world number phase)
  /-- Something else happens. -/
  | aside {world next : World V} {phase : Phase V} {transcript : Transcript V}
      (before : Performance number start world phase transcript)
      (spares : world.Spares number next) : Performance number start next phase transcript

namespace Performance

variable {number : BirthNumber} {start world next : World V} {phase : Phase V}
  {transcript : Transcript V}

/-- What holds of a performance at any moment. -/
structure Sound (number : BirthNumber) (agent : Agent V) (world : World V) (phase : Phase V)
    (transcript : Transcript V) : Prop where
  inside : number < world.agents.size
  senseSteps : (world.agent number).senseSteps = agent.senseSteps
  actSteps : (world.agent number).actSteps = agent.actSteps
  fits : transcript.Fits agent (world.agent number).plans phase

/-- How the transcript fits after a stride. -/
theorem Sound.fits_stride {agent : Agent V} (sound : Sound number agent world phase transcript) :
    (transcript.note world number phase).Fits agent
      ((world.stride number phase).1.agent number).plans (world.stride number phase).2 := by
  have fits := sound.fits
  have sizes := (world.stride_moves number phase).frame.size
  have inside := sound.inside
  have senseSteps := (World.field_stride Agent.senseSteps (fun _ _ _ _ _ _ _ _ _ _ => rfl) world
    number number phase).trans sound.senseSteps
  have actSteps := (World.field_stride Agent.actSteps (fun _ _ _ _ _ _ _ _ _ _ => rfl) world
    number number phase).trans sound.actSteps
  have strode := world.strode number phase
  generalize world.stride number phase = strided at strode sizes senseSteps actSteps ⊢
  cases strode with
  | idles | turns | wakes | retires | parts | partingReturns | partingFails | partingPanics
  | partingGoesOn => exact fits.elim
  | sweepPanics | sensePanics | actingPanics => exact .inl ⟨_, rfl⟩
  | sweeps inbox after swept =>
    have plans := World.field_sweep Agent.plans (fun _ _ => rfl) world number number
    rw [swept] at plans
    obtain ⟨rfl, held⟩ := fits
    exact ⟨rfl, rfl, rfl, senseSteps, actSteps, by rw [plans, held]; simp [Transcript.staged,
      Transcript.opening, Transcript.note]⟩
  | sensed inbox acts =>
    obtain ⟨held, rounds, adopted, sensed, rfl, plans⟩ := fits
    rw [List.append_nil] at sensed
    refine { held, sensed, stands := ?_, steps := ?_, adopted := adopted.symm, actions := ?_ }
    · exact plans ▸ .fresh rounds
    · simp [Transcript.note, rounds]
    · simp [Transcript.note, rounds]
  | passes inbox category steps acts empty =>
    obtain ⟨held, rounds, adopted, sensed, rfl, plans⟩ := fits
    refine ⟨held, rounds, adopted, ?_, rfl, ?_⟩
    · simpa [Transcript.note, World.sensing, empty] using sensed
    · simpa [Transcript.note, World.sensing, empty, Transcript.staged, Sensing.plans, activated]
        using plans
  | senses inbox category steps acts after waiting senses =>
    obtain ⟨held, rounds, adopted, sensed, rfl, plans⟩ := fits
    refine ⟨held, rounds, adopted, ?_, rfl, ?_⟩
    · simpa [Transcript.note, World.sensing, waiting] using sensed
    · rw [World.plans_senseTriggers inside waiting senses, plans]
      simp [Transcript.note, Transcript.staged]
  | concludes progress =>
    have plans := World.plans_applyEffects progress.effects inside
    exact .inr (plans ▸ Transcript.Acts.completes fits _)
  | takes steps progress =>
    rw [World.agent_modifyAgent_self world _ inside]
    exact Transcript.Acts.takes fits
  | begins active pending steps progress => exact fits
  | actingReturns script finished active pending steps progress turn action memory returned =>
    obtain ⟨rfl, rfl⟩ := World.eq_done_of_advance returned
    have inTurn : number < (Turn.mk world progress.effects finished).world.agents.size := inside
    rw [Act.plans_kept (progress.act world) active action memory inTurn]
    have returns := Transcript.Acts.returns fits { active, result := .ok action, finished, memory }
      rfl rfl
    cases finished <;> exact returns
  | actingFails script finished active pending steps progress turn cause memory returned =>
    obtain ⟨rfl, rfl⟩ := World.eq_done_of_advance returned
    have inTurn : number < (Turn.mk world progress.effects finished).world.agents.size := inside
    have dropped := World.plans_dropped (progress.act world) active pending inTurn
    have size := ((progress.act world).dropped_moves number active pending
      (Turn.mk world progress.effects finished)).lasting.frame.size
    have applied := World.plans_applyEffects progress.effects (size ▸ inside)
    rw [dropped] at applied
    exact .inr (applied ▸ Transcript.Acts.fails fits
      { active, result := .error cause, finished, memory } rfl rfl)
  | actingGoesOn script finished active pending steps progress turn wait rest blocked =>
    have kept := ((Script.stirs_of_advance blocked).holdings number).2.2
    obtain ⟨adopted, effects, noted⟩ :=
      transcript.note_blocked world blocked finished active pending steps progress
    rw [noted, show (turn.world.agent number).plans = (world.agent number).plans from kept]
    exact
      { held := fits.held, sensed := fits.sensed, stands := by
          obtain ⟨earlier, round, rounds, before, succeed, plans⟩ := fits.stands.begun
          exact plans ▸ .midst rounds before succeed
        steps := fits.steps, adopted := by rw [effects, fits.adopted], actions := fits.actions }
  | rests outcome => exact fits

/-- A stride keeps a transcript sound, with what it notes. -/
theorem Sound.stride {agent : Agent V} (sound : Sound number agent world phase transcript) :
    Sound number agent (world.stride number phase).1 (world.stride number phase).2
      (transcript.note world number phase) where
  inside := (world.stride_moves number phase).frame.size ▸ sound.inside
  senseSteps := (World.field_stride Agent.senseSteps (fun _ _ _ _ _ _ _ _ _ _ => rfl) world
    number number phase).trans sound.senseSteps
  actSteps := (World.field_stride Agent.actSteps (fun _ _ _ _ _ _ _ _ _ _ => rfl) world
    number number phase).trans sound.actSteps
  fits := sound.fits_stride

/-- What happens elsewhere keeps a transcript sound. -/
theorem Sound.aside {agent : Agent V} (sound : Sound number agent world phase transcript)
    (spares : world.Spares number next) : Sound number agent next phase transcript where
  inside := Nat.lt_of_lt_of_le sound.inside spares.size
  senseSteps := spares.senseSteps.trans sound.senseSteps
  actSteps := spares.actSteps.trans sound.actSteps
  fits := spares.plans.symm ▸ sound.fits

/-- A cycle that begins finds the plans and the steps of its agent as they were. -/
theorem Sound.wakes {inbox : Inbox V} (inside : number < start.agents.size)
    (woken : start.stride number .waking = (world, .sweeping inbox)) :
    Sound number (start.agent number) world (.sweeping inbox)
      (.opening (start.agent number).plans) := by
  have size := (start.stride_moves number .waking).frame.size
  have senseSteps := World.field_stride Agent.senseSteps (fun _ _ _ _ _ _ _ _ _ _ => rfl) start
    number number .waking
  have actSteps := World.field_stride Agent.actSteps (fun _ _ _ _ _ _ _ _ _ _ => rfl) start
    number number .waking
  have strode := start.strode number .waking
  rw [woken] at size senseSteps actSteps strode
  have kept : ((start.drain number).1.agent number).plans = (start.agent number).plans :=
    World.field_modifyAgent Agent.plans start number number _ (Agent.plans_adoptAll _ _)
  have plans : (world.agent number).plans = (start.agent number).plans := by
    cases strode with
    | wakes after inbox notDone drained notStopping =>
      rw [drained] at kept
      exact kept
  exact { inside := size ▸ inside, senseSteps, actSteps, fits := ⟨rfl, plans⟩ }

/-- The transcript of a performance is sound. -/
theorem sound (performance : Performance number start world phase transcript)
    (inside : number < start.agents.size) :
    Sound number (start.agent number) world phase transcript := by
  induction performance with
  | wakes woken => exact .wakes inside woken
  | stride _ ih => exact ih.stride
  | aside _ spares ih => exact ih.aside spares

/-! ### Cycles are performances -/

/-- A performance goes on for as long as its cycle makes strides. -/
theorem strides {after : World V × Phase V}
    (performance : Performance number start world phase transcript)
    (strides : World.Strides number (world, phase) after) :
    ∃ later, Performance number start after.1 after.2 later := by
  refine strides.keeps (fun state => ∃ later, Performance number start state.1 state.2 later)
    ?_ ?_ ⟨transcript, performance⟩
  · rintro world phase ⟨later, reached⟩
    exact ⟨_, reached.stride⟩
  · rintro world phase clock ⟨later, reached⟩
    exact ⟨later, reached.aside
      { size := Nat.le_refl _, plans := rfl, senseSteps := rfl, actSteps := rfl }⟩

/-- A cycle of an agent that is neither done nor stopping is a performance, as far as it comes. -/
theorem of_cycle (notDone : (start.agent number).done = false)
    (notStopping : ((start.drain number).1.agent number).stopping = false)
    (deadline : Option Nat) :
    ∃ transcript, Performance number start (start.cycle number deadline).world
      (start.cycle number deadline).phase transcript :=
  (Performance.wakes (World.waking_of_ready notDone notStopping)).strides
    (World.strides_of_ready notDone notStopping deadline)

/-- What becomes of the plans in a cycle of an agent that is neither done nor stopping, for whatever
plans, steps and inbox it has and whatever happens between two strides. A cycle is a performance up to
where it ends or waits, and so it is when it goes on. When it is over without a panic, its transcript
accounts for every plan and every action, in their order. -/
theorem plans_in_order (start : World V) (number : BirthNumber)
    (inside : number < start.agents.size) :
    ((start.agent number).done = false →
      ((start.drain number).1.agent number).stopping = false →
      ∀ deadline, ∃ transcript, Performance number start (start.cycle number deadline).world
        (start.cycle number deadline).phase transcript) ∧
    (∀ world suspended transcript, suspended.agent = number →
      Performance number start world suspended.phase transcript →
      ∀ deadline, ∃ later, Performance number start (world.resume suspended deadline).world
        (world.resume suspended deadline).phase later) ∧
    ∀ world outcome transcript, Performance number start world (.finished outcome) transcript →
      (∀ cause, outcome ≠ .panicked cause) →
      transcript.Tells (start.agent number) (world.agent number).plans outcome := by
  refine ⟨of_cycle, ?_, ?_⟩
  · rintro world suspended transcript rfl performance deadline
    have resumed := world.resume_strides suspended deadline
    exact performance.strides resumed
  · intro world outcome transcript performance calm
    rcases (performance.sound inside).fits with ⟨cause, panicked⟩ | tells
    · exact absurd panicked (calm cause)
    · exact tells

end Performance

/-! ## A cycle in which a plan fails -/

/-- The error that a cycle ended with, if it did. -/
def CycleHalt.failure? : CycleHalt V → Option PlanError
  | .ended _ (.failed cause) => some cause
  | _ => none

/-- A cycle that fails is over with its error. -/
theorem CycleHalt.phase_of_failure? {halt : CycleHalt V} {cause : PlanError}
    (fails : halt.failure? = some cause) : halt.phase = .finished (.failed cause) := by
  unfold failure? at fails
  split at fails
  · cases fails
    rfl
  · cases fails

namespace Market

/-- What the second of three plans fails with. -/
def stumble : PlanError := .failed "stumble"

/-- An agent with three plans, the second of which fails. -/
def stumbling : World vocabulary :=
  let world := World.new { poolSize := 1, seed := none, unitTimeout := none } (.new none)
  let design := { seeker with initialPlans := [idling, resultPlan (.error stumble), idling] }
  (world.create (AgentId.ofNat 1) design none false).1

end Market

/-- The plan that failed is gone, and the other two are left. -/
theorem Performance.plans_in_order_stumbling :
    ∃ transcript,
      Performance 0 Market.stumbling (Market.stumbling.cycle 0 none).world
        (.finished (.failed Market.stumble)) transcript ∧
      transcript.Tells (Market.stumbling.agent 0)
        ((Market.stumbling.cycle 0 none).world.agent 0).plans (.failed Market.stumble) ∧
      ((Market.stumbling.cycle 0 none).world.agent 0).plans.length = 2 := by
  have inside : 0 < Market.stumbling.agents.size := by decide +kernel
  obtain ⟨cycles, -, tells⟩ := Performance.plans_in_order Market.stumbling 0 inside
  obtain ⟨transcript, performance⟩ := cycles (by decide +kernel) (by decide +kernel) none
  have fails : (Market.stumbling.cycle 0 none).failure? = some Market.stumble := by decide +kernel
  rw [CycleHalt.phase_of_failure? fails] at performance
  exact ⟨transcript, performance, tells _ _ _ performance (by simp), by decide +kernel⟩

end Deliberation
