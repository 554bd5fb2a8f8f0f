import Deliberation.Market.Trading
import Deliberation.Proofs.Minutes

/-!
# What plans request

A `Session` is a deliberating cycle with its minutes, while other things happen in between.
`Session.requests_wait` says that a request is nothing to the cycle in which it is made: a muted
agent, whose plans request nothing, goes through the same session. When the cycle is over, with
actions or with the error of a plan, everything requested is there, once and in order. A change of
the interceptors, on the other hand, is there for the next operation of a plan.
-/

namespace Deliberation

variable {V : Vocabulary}

/-! ## Sessions -/

/-- What else can happen while a cycle of an agent is under way: things arrive at the agent, and the
objects change that it has as contexts. -/
structure World.Reaches (number : BirthNumber) (arrivals : List (Arrival V))
    (world next : World V) : Prop where
  size : world.agents.size ≤ next.agents.size
  agent : ∃ contexts,
    next.agent number = { (world.agent number).receiveAll arrivals with contexts }

/-- A deliberating cycle of an agent, with its minutes. It began in the world `start`, and is over
when its phase is finished. It is alone as long as nothing else happens. -/
inductive Session (number : BirthNumber) (start : World V) :
    (alone : Bool) → World V → Phase V → Minutes V → Prop where
  /-- The cycle finds the agent neither done nor stopping. -/
  | wakes {world : World V} {inbox : Inbox V}
      (woken : start.stride number .waking = (world, .sweeping inbox)) :
      Session number start true world (.sweeping inbox) .opening
  /-- The cycle makes a stride. -/
  | stride {alone : Bool} {world : World V} {phase : Phase V} {minutes : Minutes V}
      (before : Session number start alone world phase minutes) :
      Session number start alone (world.stride number phase).1 (world.stride number phase).2
        (minutes.note world number phase)
  /-- Time passes. -/
  | elapse {alone : Bool} {world : World V} {phase : Phase V} {minutes : Minutes V}
      (before : Session number start alone world phase minutes) (clock : Nat) :
      Session number start alone { world with clock } phase minutes
  /-- Something else happens before the cycle is over. -/
  | aside {alone : Bool} {world next : World V} {phase : Phase V} {minutes : Minutes V}
      (before : Session number start alone world phase minutes)
      (underWay : ∀ outcome, phase ≠ .finished outcome) {arrivals : List (Arrival V)}
      (reaches : world.Reaches number arrivals next) :
      Session number start false next phase
        { minutes with arrived := minutes.arrived ++ arrivals }

/-- Whether a cycle is between its beginning and its end, and runs no shutdown plans. -/
def Phase.deliberates : Phase V → Bool
  | .sweeping .. | .sensing .. | .planning .. | .acting .. => true
  | _ => false

/-- Muting a phase leaves whether it deliberates. -/
theorem Phase.deliberates_muted (phase : Phase V) :
    phase.muted.deliberates = phase.deliberates := by
  cases phase <;> rfl

/-- A cycle that deliberates is not finished. -/
theorem Phase.ne_finished {phase : Phase V} (deliberates : phase.deliberates = true)
    (outcome : CycleOutcome V) : phase ≠ .finished outcome := by
  rintro rfl
  cases deliberates

/-- Whether a cycle is in its act stage. -/
def Phase.acts : Phase V → Bool
  | .planning .. | .acting .. => true
  | _ => false

/-- How the minutes of a cycle that is under way fit to its agent. -/
structure Minutes.Fits (minutes : Minutes V) (agent : Agent V) (phase : Phase V) : Prop where
  notStopping : agent.stopping = false
  requests : phase.requests = minutes.requests
  counts : phase.Counts
  tuned : phase.acts = true → agent.interceptors = minutes.interceptors
  untuned : phase.acts = false → minutes.tweaks = []

namespace Session

/-- What holds while a cycle is under way. -/
structure UnderWay (number : BirthNumber) (start : World V) (alone : Bool) (world : World V)
    (phase : Phase V) (minutes : Minutes V) : Prop where
  inside : number < world.agents.size
  deliberates : phase.deliberates = true
  inbox : (world.agent number).inbox = Inbox.empty.receiveAll minutes.arrived
  fits : minutes.Fits (world.agent number) phase
  /-- The muted agent goes through the same session. -/
  twin : Session number (start.mute number) alone (world.mute number) phase.muted minutes.muted

/-- What holds when a cycle is over without a panic. `stage` is the world at the end of its act
stage, before the requests were applied. -/
structure Ends (number : BirthNumber) (start : World V) (alone : Bool) (stage world : World V)
    (outcome : CycleOutcome V) (minutes : Minutes V) : Prop where
  /-- The muted agent went through the same session, with the same outcome. -/
  twin : Session number (start.mute number) alone (stage.mute number) (.finished outcome)
    minutes.muted
  applied : world = stage.applyEffects number minutes.requests
  /-- Nothing but the requests changes the agent, and these are put behind what is there. -/
  agent : world.agent number =
    { stage.agent number with
      inbox := Inbox.empty.receiveAll <|
        minutes.arrived ++ minutes.requests.raised.map fun payload => .internal (.internal payload)
      goals := (stage.agent number).goals ++
        newGoals (stage.agent number).goals minutes.requests.goals
      plans := (stage.agent number).plans ++ minutes.requests.plans.map ActivePlan.detached
      stopping := minutes.requests.stop
      interceptors := minutes.interceptors }
  internal : (world.agent number).inbox.internal =
    minutes.arrived.filterMap (Arrival.trigger? .internal) ++
      minutes.requests.raised.map Trigger.internal
  /-- Goals are adopted in the order of the requests. -/
  ordered : (newGoals (stage.agent number).goals minutes.requests.goals).Sublist
    minutes.requests.goals
  /-- A goal that is requested is adopted once, unless it is held. -/
  once : ∀ goal,
    ((newGoals (stage.agent number).goals minutes.requests.goals).map (·.id)).count goal =
      if goal ∈ minutes.requests.goals.map (·.id) ∧ goal ∉ (stage.agent number).goals.map (·.id)
        then 1 else 0

end Session

/-! ### Strides of a session -/

section

variable {number : BirthNumber} {world : World V} {phase : Phase V} {minutes : Minutes V}

/-- Every operation of a script leaves the interceptors as its change says. -/
theorem Script.interceptors_of_advance {script rest : Script V} {turn next : Turn V} {wait : Wait}
    (blocked : script.advance number turn = .blocked next wait rest)
    (inside : number < turn.world.agents.size) :
    (next.world.agent number).interceptors =
      script.tweak?.toList.foldl Tweak.apply (turn.world.agent number).interceptors := by
  cases script with
  | done | panic => cases blocked
  | change capability update rest =>
    cases blocked
    exact World.field_modifyAgent Agent.interceptors turn.world number number _ rfl
  | addInterceptor category interceptor rest =>
    cases blocked
    exact congrArg Agent.interceptors (World.agent_modifyAgent_self turn.world _ inside)
  | removeInterceptor category id rest =>
    cases blocked
    exact congrArg Agent.interceptors (World.agent_modifyAgent_self turn.world _ inside)
  | send message rest =>
    cases blocked
    have sent := World.agent_send turn.world number message inside
    exact (congrArg Agent.interceptors sent :)
  | reach agent arrival rest =>
    simp only [advance] at blocked
    split at blocked
    · cases blocked
      rfl
    · rename_i reached _
      cases blocked
      have arrived := World.agent_arrive turn.world reached arrival inside
      exact (congrArg Agent.interceptors arrived :)
  | _ =>
    cases blocked
    rfl

/-- What arrives in a stride is taken down, up to the end of the act stage. -/
theorem Minutes.arrived_note (minutes : Minutes V) (deliberates : phase.deliberates = true)
    (goesOn : phase.concludes = false) :
    (minutes.note world number phase).arrived =
      minutes.arrived ++ arrivalsAt number (world.deeds number phase) := by
  match phase with
  | .sweeping _ | .sensing _ [] _ | .sensing _ (_ :: _) _ | .planning [] (.executePlans :: _) _
  | .planning (_ :: _) _ _ => exact (List.append_nil _).symm
  | .acting script isFinished active pending steps progress =>
    have noAftermath : script.aftermath number progress.effects = [] := by
      unfold Script.aftermath
      split
      · cases goesOn
      · rfl
    simp only [note, World.deeds, noAftermath, List.append_nil]

/-- A cycle that is under way goes on, or its act stage ends, or it panics. -/
theorem World.stride_deliberates (world : World V) (number : BirthNumber)
    (deliberates : phase.deliberates = true) (goesOn : phase.concludes = false) :
    (world.stride number phase).2.deliberates = true ∨
      ∃ cause, (world.stride number phase).2 = .finished (.panicked cause) := by
  have strode := world.strode number phase
  generalize world.stride number phase = strided at strode ⊢
  cases strode with
  | sweeps | sensed | passes | senses | takes | begins | actingReturns | actingGoesOn =>
    exact .inl rfl
  | sweepPanics | sensePanics | actingPanics => exact .inr ⟨_, rfl⟩
  | concludes => cases goesOn
  | actingFails script isFinished active pending steps progress turn cause memory returned =>
    obtain ⟨rfl, rfl⟩ := eq_done_of_advance returned
    cases goesOn
  | idles | turns | wakes | retires | parts | partingReturns | partingFails | partingPanics
  | partingGoesOn | rests => cases deliberates

/-- How the minutes fit after a stride. -/
theorem Minutes.Fits.stride (fits : minutes.Fits (world.agent number) phase)
    (inside : number < world.agents.size) (deliberates : phase.deliberates = true)
    (goesOn : (world.stride number phase).2.deliberates = true) :
    (minutes.note world number phase).Fits ((world.stride number phase).1.agent number)
      (world.stride number phase).2 := by
  have strode := world.strode number phase
  generalize world.stride number phase = strided at strode goesOn ⊢
  cases strode with
  | idles | turns | wakes | retires | parts | partingReturns | partingFails | partingPanics
  | partingGoesOn | rests => cases deliberates
  | sweepPanics | sensePanics | actingPanics | concludes | actingFails => cases goesOn
  | sweeps inbox after swept =>
    have kept := World.field_sweep Agent.stopping (fun _ _ => rfl) world number number
    rw [swept] at kept
    exact { notStopping := kept.trans fits.notStopping, requests := fits.requests
            counts := trivial
            tuned := fun acts => by cases acts
            untuned := fits.untuned }
  | sensed inbox acts =>
    have tweaks := fits.untuned rfl
    exact { notStopping := fits.notStopping, requests := fits.requests
            counts := fun _ => rfl
            tuned := fun _ => by simp [Minutes.interceptors, Minutes.note, tweaks]
            untuned := fun acts => by cases acts }
  | passes inbox category steps acts empty =>
    exact { notStopping := fits.notStopping, requests := fits.requests
            counts := trivial
            tuned := fun acts => by cases acts
            untuned := fits.untuned }
  | senses inbox category steps acts after waiting senses =>
    have kept := World.field_senseTriggers Agent.stopping (fun _ _ _ _ => rfl) world number number
      category (world.offered number inbox category)
    rw [senses] at kept
    exact { notStopping := kept.trans fits.notStopping, requests := fits.requests
            counts := trivial
            tuned := fun acts => by cases acts
            untuned := fits.untuned }
  | takes steps progress =>
    rw [World.agent_modifyAgent_self world _ inside]
    exact { notStopping := fits.notStopping, requests := fits.requests
            counts := fits.counts, tuned := fits.tuned, untuned := fun acts => by cases acts }
  | begins active pending steps progress =>
    exact { notStopping := fits.notStopping, requests := fits.requests
            counts := trivial, tuned := fits.tuned, untuned := fun acts => by cases acts }
  | actingReturns script isFinished active pending steps progress turn action memory returned =>
    obtain ⟨rfl, rfl⟩ := World.eq_done_of_advance returned
    have notStopping := World.field_kept Agent.stopping (fun _ _ => rfl) (progress.act world) number
      number active (Turn.mk world progress.effects isFinished) action memory
    have interceptors := World.field_kept Agent.interceptors (fun _ _ => rfl) (progress.act world)
      number number active (Turn.mk world progress.effects isFinished) action memory
    exact { notStopping := notStopping.trans fits.notStopping
            requests := fits.requests
            counts := fun none => absurd none (Nat.succ_ne_zero _)
            tuned := fun acts => (interceptors.trans (fits.tuned acts)).trans <| by
              simp [Minutes.interceptors, Minutes.note, Script.tweak?]
            untuned := fun acts => by cases acts }
  | actingGoesOn script isFinished active pending steps progress turn wait rest blocked =>
    have notStopping := (Script.stirs_of_advance blocked).field Agent.stopping
      (fun _ _ _ _ => rfl) number
    have interceptors := Script.interceptors_of_advance blocked inside
    have effects := Script.effects_of_advance blocked
    exact { notStopping := notStopping.trans fits.notStopping
            requests := effects.trans (congrArg (Effects.heed · script) fits.requests)
            counts := trivial
            tuned := fun acts => interceptors.trans <| by
              rw [show (world.agent number).interceptors = _ from fits.tuned acts]
              exact List.foldl_append.symm
            untuned := fun acts => by cases acts }

end

/-! ### The end of an act stage -/

/-- A cycle concludes at the end of its act stage. -/
theorem Phase.acts_of_concludes (phase : Phase V) (concludes : phase.concludes = true) :
    phase.acts = true ∧ phase.isRequest = false := by
  match phase with
  | .planning [] [] _ | .acting (.done (.error _) _) .. => exact ⟨rfl, rfl⟩

/-- Where an act stage ends, there is nothing more to take down. -/
theorem Minutes.note_of_concludes (minutes : Minutes V) (world : World V) (number : BirthNumber)
    {phase : Phase V} (concludes : phase.concludes = true) :
    minutes.note world number phase = minutes := by
  match phase with
  | .planning [] [] _ => rfl
  | .acting (.done (.error cause) _) .. =>
    have nothing : arrivalsAt number [Deed.returns (V := V) (.error cause)] = [] := rfl
    simp only [note, Script.deeds, nothing, Script.tweak?, Option.toList_none, List.append_nil]
    rfl

namespace World

variable {world : World V} {number : BirthNumber} {phase : Phase V}

/-- Where an act stage ends, an agent is as it was, but for its plans. -/
theorem field_stage {α : Type} (field : Agent V → α)
    (keeps : ∀ (agent : Agent V) plans, field { agent with plans } = field agent)
    (world : World V) (number : BirthNumber) (phase : Phase V) :
    field ((world.stage number phase).agent number) = field (world.agent number) := by
  unfold stage
  split
  · exact field_dropped field keeps _ number number _ _ _
  · rfl

/-- The end of the act stage leaves the number of agents. -/
theorem size_stage (world : World V) (number : BirthNumber) (phase : Phase V) :
    (world.stage number phase).agents.size = world.agents.size := by
  unfold stage
  split
  · exact size_modifyAgent _ _ _
  · rfl

/-- An agent with the effects that were requested for it. -/
theorem agent_applyEffects (effects : Effects V) (inside : number < world.agents.size) :
    (world.applyEffects number effects).agent number =
      { world.agent number with
        inbox := (world.agent number).inbox.receiveAll <|
          effects.raised.map fun payload => .internal (.internal payload)
        goals := (world.agent number).goals ++ newGoals (world.agent number).goals effects.goals
        plans := (world.agent number).plans ++ effects.plans.map ActivePlan.detached
        stopping := (world.agent number).stopping || effects.stop } := by
  have raised : (effects.raised.map fun payload => Arrival.internal (V := V) (.internal payload)) =
      (effects.raised.map Trigger.internal).map Arrival.internal := by simp
  rw [raised, Inbox.receiveAll_internal]
  unfold applyEffects
  rw [agent_modifyAgent_self world _ inside]
  let reached : Agent V :=
    { world.agent number with
      inbox :=
        { (world.agent number).inbox with
          internal := (world.agent number).inbox.internal ++ effects.raised.map .internal } }
  obtain ⟨goals, adopted⟩ := Agent.adoptAll_eq effects.goals reached
  have new := Agent.goals_adoptAll effects.goals reached
  rw [adopted] at new
  have goalsEq : goals = (world.agent number).goals ++
      newGoals (world.agent number).goals effects.goals := new
  simp only [reached] at adopted
  simp only [adopted, goalsEq]

end World

namespace Session

variable {number : BirthNumber} {start stage world next : World V} {alone : Bool}
  {phase : Phase V} {outcome : CycleOutcome V} {minutes : Minutes V}

/-- The muted agent keeps up, whether a plan requests something or does anything else. -/
theorem UnderWay.twin_stride (underWay : UnderWay number start alone world phase minutes)
    (goesOn : phase.concludes = false) :
    Session number (start.mute number) alone ((world.stride number phase).1.mute number)
      (world.stride number phase).2.muted (minutes.note world number phase).muted := by
  have twin := underWay.twin
  cases request : phase.isRequest with
  | true =>
    obtain ⟨same, later⟩ := world.stride_of_isRequest number request
    rw [same, later, minutes.note_muted_of_isRequest request]
    exact twin
  | false =>
    have early : phase.isLate = false := by
      have deliberates := underWay.deliberates
      cases phase <;> first | rfl | cases deliberates
    have strode := twin.stride
    rw [world.stride_mute number early request goesOn, ← minutes.note_muted request] at strode
    exact strode

/-- A stride that does not conclude leaves a cycle under way. -/
theorem UnderWay.stride (underWay : UnderWay number start alone world phase minutes)
    (goesOn : phase.concludes = false)
    (deliberates : (world.stride number phase).2.deliberates = true) :
    UnderWay number start alone (world.stride number phase).1 (world.stride number phase).2
      (minutes.note world number phase) where
  inside := (world.stride_moves number phase).frame.size ▸ underWay.inside
  deliberates := deliberates
  inbox := by
    have awake : phase ≠ .waking := by
      rintro rfl
      cases underWay.deliberates
    rw [world.inbox_stride number phase awake underWay.inside, underWay.inbox,
      minutes.arrived_note underWay.deliberates goesOn, Inbox.receiveAll_append]
  fits := underWay.fits.stride underWay.inside underWay.deliberates deliberates
  twin := underWay.twin_stride goesOn

/-- What the requests come to, applied to an agent that is not stopping. -/
theorem Ends.of_stage (inside : number < stage.agents.size)
    (inbox : (stage.agent number).inbox = Inbox.empty.receiveAll minutes.arrived)
    (notStopping : (stage.agent number).stopping = false)
    (interceptors : (stage.agent number).interceptors = minutes.interceptors)
    (twin : Session number (start.mute number) alone (stage.mute number) (.finished outcome)
      minutes.muted) :
    Ends number start alone stage (stage.applyEffects number minutes.requests) outcome minutes := by
  have agent := World.agent_applyEffects minutes.requests inside
  rw [inbox, ← Inbox.receiveAll_append, notStopping, Bool.false_or] at agent
  refine { twin, applied := rfl, agent := interceptors ▸ agent, internal := ?_
           ordered := newGoals_sublist _ _, once := count_newGoals _ _ }
  have queue := Inbox.triggers_receiveAll Inbox.empty
    (minutes.arrived ++ minutes.requests.raised.map fun payload => .internal (.internal payload))
    .internal
  rw [agent]
  refine queue.trans ?_
  simp [Arrival.trigger?, List.filterMap_map, Function.comp_def]

/-- At the end of its act stage a cycle is over, and the requests are applied. -/
theorem UnderWay.ends (underWay : UnderWay number start alone world phase minutes)
    (concludes : phase.concludes = true) :
    ∃ outcome, (world.stride number phase).2 = .finished outcome ∧
      Ends number start alone (world.stage number phase) (world.stride number phase).1 outcome
        (minutes.note world number phase) := by
  obtain ⟨acts, noRequest⟩ := phase.acts_of_concludes concludes
  have noted := minutes.note_of_concludes world number concludes
  obtain ⟨outcome, calm, strode, echo⟩ :=
    world.stride_of_concludes number concludes underWay.fits.counts
  have twin := underWay.twin.stride
  rw [echo, ← minutes.note_muted noRequest, noted] at twin
  refine ⟨outcome, by rw [strode], ?_⟩
  rw [strode, noted, underWay.fits.requests]
  exact .of_stage ((world.size_stage number phase).symm ▸ underWay.inside)
    ((World.field_stage Agent.inbox (fun _ _ => rfl) world number phase).trans underWay.inbox)
    ((World.field_stage Agent.stopping (fun _ _ => rfl) world number phase).trans
      underWay.fits.notStopping)
    ((World.field_stage Agent.interceptors (fun _ _ => rfl) world number phase).trans
      (underWay.fits.tuned acts)) twin

/-! ### Sessions from their beginning -/

/-- What holds of a session at any moment. -/
inductive Sound (number : BirthNumber) (start : World V) (alone : Bool) (world : World V) :
    Phase V → Minutes V → Prop where
  | underWay {phase : Phase V} {minutes : Minutes V}
      (underWay : UnderWay number start alone world phase minutes) :
      Sound number start alone world phase minutes
  | panicked (cause : Panic) (minutes : Minutes V) :
      Sound number start alone world (.finished (.panicked cause)) minutes
  | ended {stage : World V} {outcome : CycleOutcome V} {minutes : Minutes V}
      (ends : Ends number start alone stage world outcome minutes) :
      Sound number start alone world (.finished outcome) minutes

/-- A cycle is under way once it has drained the inbox. -/
theorem UnderWay.wakes {inbox : Inbox V} (inside : number < start.agents.size)
    (woken : start.stride number .waking = (world, .sweeping inbox)) :
    UnderWay number start true world (.sweeping inbox) .opening := by
  have size := (start.stride_moves number .waking).frame.size
  have early : (.waking : Phase V).isLate = false := rfl
  have echo := start.stride_mute number early rfl rfl
  have strode := start.strode number .waking
  rw [woken] at size echo strode
  cases strode with
  | wakes after inbox notDone drained notStopping =>
    have empty := start.inbox_drain inside
    rw [drained] at empty
    exact
      { inside := size ▸ inside, deliberates := rfl, inbox := empty
        fits :=
          { notStopping, requests := rfl, counts := trivial
            tuned := nofun, untuned := fun _ => rfl }
        twin := .wakes echo }

/-- A cycle stays under way while time passes. -/
theorem UnderWay.elapse (underWay : UnderWay number start alone world phase minutes) (clock : Nat) :
    UnderWay number start alone { world with clock } phase minutes where
  inside := underWay.inside
  deliberates := underWay.deliberates
  inbox := underWay.inbox
  fits := underWay.fits
  twin := underWay.twin.elapse clock

/-- A cycle stays under way while other things happen. -/
theorem UnderWay.aside (underWay : UnderWay number start alone world phase minutes)
    {arrivals : List (Arrival V)} (reaches : world.Reaches number arrivals next) :
    UnderWay number start false next phase
      { minutes with arrived := minutes.arrived ++ arrivals } := by
  obtain ⟨contexts, changed⟩ := reaches.agent
  have running := Phase.ne_finished (phase.deliberates_muted.trans underWay.deliberates)
  have echo : (world.mute number).Reaches number arrivals (next.mute number) :=
    { size := by simpa using reaches.size
      agent := ⟨contexts, by rw [World.agent_mute, World.agent_mute, changed]; rfl⟩ }
  refine
    { inside := Nat.lt_of_lt_of_le underWay.inside reaches.size
      deliberates := underWay.deliberates, inbox := ?_, fits := ?_
      twin := underWay.twin.aside running echo }
  · rw [changed, Inbox.receiveAll_append, ← underWay.inbox]
    rfl
  · rw [changed]
    have fits := underWay.fits
    exact { notStopping := fits.notStopping, requests := fits.requests, counts := fits.counts
            tuned := fits.tuned, untuned := fits.untuned }

/-- How a cycle that is under way stands after a stride. -/
theorem UnderWay.sound_stride (underWay : UnderWay number start alone world phase minutes) :
    Sound number start alone (world.stride number phase).1 (world.stride number phase).2
      (minutes.note world number phase) := by
  cases concludes : phase.concludes with
  | true =>
    obtain ⟨outcome, finished, ends⟩ := underWay.ends concludes
    exact finished ▸ .ended ends
  | false =>
    rcases world.stride_deliberates number underWay.deliberates concludes with
      deliberates | ⟨cause, broken⟩
    · exact .underWay (underWay.stride concludes deliberates)
    · exact broken ▸ .panicked cause _

/-- A cycle that is over stays so while time passes. -/
theorem Ends.elapse (ends : Ends number start alone stage world outcome minutes) (clock : Nat) :
    Ends number start alone { stage with clock } { world with clock } outcome minutes where
  twin := ends.twin.elapse clock
  applied := by
    rw [ends.applied]
    rfl
  agent := ends.agent
  internal := ends.internal
  ordered := ends.ordered
  once := ends.once

/-- A session is under way, it broke off with a panic, or it is over with its requests applied. -/
theorem sound (session : Session number start alone world phase minutes)
    (inside : number < start.agents.size) : Sound number start alone world phase minutes := by
  induction session with
  | wakes woken => exact .underWay (.wakes inside woken)
  | stride before ih =>
    cases ih with
    | panicked cause => exact .panicked cause _
    | ended ends => exact .ended ends
    | underWay underWay => exact underWay.sound_stride
  | elapse before clock ih =>
    cases ih with
    | panicked cause => exact .panicked cause _
    | ended ends => exact .ended (ends.elapse clock)
    | underWay underWay => exact .underWay (underWay.elapse clock)
  | aside before underWay reaches ih =>
    cases ih with
    | panicked | ended => exact absurd rfl (underWay _)
    | underWay underWay => exact .underWay (underWay.aside reaches)

/-! ### Cycles are sessions -/

/-- A session goes on for as long as its cycle makes strides. -/
theorem strides {after : World V × Phase V}
    (session : Session number start alone world phase minutes)
    (strides : World.Strides number (world, phase) after) :
    ∃ later, Session number start alone after.1 after.2 later := by
  refine strides.keeps (fun state => ∃ later, Session number start alone state.1 state.2 later)
    ?_ ?_ ⟨minutes, session⟩
  · rintro world phase ⟨later, reached⟩
    exact ⟨_, reached.stride⟩
  · rintro world phase clock ⟨later, reached⟩
    exact ⟨later, reached.elapse clock⟩

/-- A cycle of an agent that is neither done nor stopping is a session, as far as it comes. -/
theorem of_cycle (notDone : (start.agent number).done = false)
    (notStopping : ((start.drain number).1.agent number).stopping = false)
    (deadline : Option Nat) :
    ∃ minutes, Session number start true (start.cycle number deadline).world
      (start.cycle number deadline).phase minutes :=
  (Session.wakes (World.waking_of_ready notDone notStopping)).strides
    (World.strides_of_ready notDone notStopping deadline)

/-- The minutes know which interceptors are registered, and a plan is answered accordingly. -/
theorem UnderWay.visible {script : Script V} {finished : Bool} {active : ActivePlan V}
    {pending : List (ActivePlan V)} {steps : List ActStep} {progress : Progress V}
    (underWay : UnderWay number start alone world
      (.acting script finished active pending steps progress) minutes) :
    (world.agent number).interceptors = minutes.interceptors ∧
      ∀ category id next, script = .removeInterceptor category id next →
        (world.stride number (.acting script finished active pending steps progress)).2 =
          .acting (next (minutes.registers category id)) finished active pending steps
            progress := by
  have interceptors := underWay.fits.tuned rfl
  refine ⟨interceptors, ?_⟩
  rintro category id next rfl
  have registered : (world.agent number).interceptors.contains category id =
      minutes.registers category id := by
    rw [interceptors]
    exact Tweak.contains_foldl _ _ _ _
  rw [← registered]
  rfl

/-- What plans request has no part in the cycle in which they request it, and is there when the
cycle is over, whatever the agent is like and whatever happens between two strides. A cycle of an
agent that is neither done nor stopping is a session up to where it ends or waits, and so it is when
it goes on. At every moment of it the muted agent has come to the same world and to the same phase,
but for what plans would request. When the cycle is over without a panic, the muted agent has ended
with the same outcome, and the requests are applied, each of them once, to the world that it ended
in. In the act stage the interceptors are those with every change so far, and a plan that removes
one is told whether it is among them. -/
theorem requests_wait (start : World V) (number : BirthNumber)
    (inside : number < start.agents.size) :
    ((start.agent number).done = false →
      ((start.drain number).1.agent number).stopping = false →
      ∀ deadline, ∃ minutes, Session number start true (start.cycle number deadline).world
        (start.cycle number deadline).phase minutes) ∧
    (∀ alone world suspended minutes, suspended.agent = number →
      Session number start alone world suspended.phase minutes →
      ∀ deadline, ∃ later, Session number start alone (world.resume suspended deadline).world
        (world.resume suspended deadline).phase later) ∧
    (∀ alone world phase minutes, Session number start alone world phase minutes →
      (∀ outcome, phase ≠ .finished outcome) →
      Session number (start.mute number) alone (world.mute number) phase.muted minutes.muted) ∧
    (∀ alone world outcome minutes, Session number start alone world (.finished outcome) minutes →
      (∀ cause, outcome ≠ .panicked cause) →
      ∃ stage, Ends number start alone stage world outcome minutes) ∧
    ∀ alone world script finished active pending steps progress minutes,
      Session number start alone world (.acting script finished active pending steps progress)
        minutes →
      (world.agent number).interceptors = minutes.interceptors ∧
        ∀ category id next, script = .removeInterceptor category id next →
          (world.stride number (.acting script finished active pending steps progress)).2 =
            .acting (next (minutes.registers category id)) finished active pending steps
              progress := by
  refine ⟨of_cycle, ?resume, ?underWay, ?ended, ?visible⟩
  case resume =>
    rintro alone world suspended minutes rfl session deadline
    exact session.strides (world.resume_strides suspended deadline)
  case underWay =>
    intro alone world phase minutes session running
    cases session.sound inside with
    | underWay underWay => exact underWay.twin
    | panicked | ended => exact absurd rfl (running _)
  case ended =>
    intro alone world outcome minutes session calm
    cases session.sound inside with
    | underWay underWay => cases underWay.deliberates
    | panicked cause => exact absurd rfl (calm cause)
    | ended ends => exact ⟨_, ends⟩
  case visible =>
    intro alone world script finished active pending steps progress minutes session
    cases session.sound inside with
    | underWay underWay => exact underWay.visible

end Session

/-! ## A cycle with requests that fails -/

namespace Market

/-- A plan that requests everything but a stop, and registers an interceptor. -/
def zealot : Plan vocabulary :=
  let guard : Interceptor vocabulary := .mk ⟨0⟩ false (.rule "guard" fun _ _ _ => .ok none)
  Plan.once <| .raise (.word 1) <| .adoptGoal utopia <| .adoptPlan idling <|
    .addInterceptor .external guard <| .done (.ok none) 0

/-- A plan that removes this interceptor, requests a stop and the same goal again, and fails. -/
def quitter : Plan vocabulary :=
  Plan.once <| .removeInterceptor .external ⟨0⟩ fun registered =>
    .raise (.word (if registered then 2 else 3)) <| .adoptGoal utopia <| .requestStop <|
      .done (.error stumble) 0

/-- An agent with both plans. -/
def quitting : World vocabulary :=
  let world := World.new { poolSize := 1, seed := none, unitTimeout := none } (.new none)
  let design := { Design.empty with initialPlans := [zealot, quitter] }
  (world.create (AgentId.ofNat 1) design none false).1

end Market

/-- Both triggers are there, the goal once, the plan and the stop. The second plan found the
interceptor of the first. -/
theorem Session.requests_wait_quitting :
    ∃ stage minutes,
      Session 0 Market.quitting true (Market.quitting.cycle 0 none).world
        (.finished (.failed Market.stumble)) minutes ∧
      Ends 0 Market.quitting true stage (Market.quitting.cycle 0 none).world
        (.failed Market.stumble) minutes ∧
      ((Market.quitting.cycle 0 none).world.agent 0).inbox.internal.map Trigger.payload? =
        [some (.word 1), some (.word 2)] ∧
      ((Market.quitting.cycle 0 none).world.agent 0).goals.map (·.id) = [⟨0⟩] ∧
      ((Market.quitting.cycle 0 none).world.agent 0).plans.length = 1 ∧
      ((Market.quitting.cycle 0 none).world.agent 0).stopping = true := by
  have inside : 0 < Market.quitting.agents.size := by decide +kernel
  obtain ⟨cycles, -, -, ended, -⟩ := Session.requests_wait Market.quitting 0 inside
  obtain ⟨minutes, session⟩ := cycles (by decide +kernel) (by decide +kernel) none
  have fails : (Market.quitting.cycle 0 none).failure? = some Market.stumble := by decide +kernel
  rw [CycleHalt.phase_of_failure? fails] at session
  obtain ⟨stage, ends⟩ := ended _ _ _ _ session (by simp)
  exact ⟨stage, minutes, session, ends, by decide +kernel, by decide +kernel, by decide +kernel,
    by decide +kernel⟩

end Deliberation
