import Deliberation.Proofs.Muting

/-!
# Strides without requests

Of a request a muted agent knows nothing (`World.stride_of_isRequest`), and it makes every other
stride just as the agent does (`World.stride_mute`). Only where the cycle ends do the two come apart,
by the effects that are applied there (`World.stride_of_concludes`).
-/

namespace Deliberation

variable {V : Vocabulary}

/-! ## The act stage -/

/-- Whether a script is about to request something. -/
def Script.isRequest : Script V → Bool
  | raise .. | adoptGoal .. | adoptPlan .. | requestStop .. => true
  | _ => false

/-- Requested effects, with what a script is about to request. -/
def Effects.heed (effects : Effects V) : Script V → Effects V
  | .raise payload _ => { effects with raised := effects.raised ++ [payload] }
  | .adoptGoal handle _ => { effects with goals := effects.goals ++ [handle] }
  | .adoptPlan plan _ => { effects with plans := effects.plans ++ [plan] }
  | .requestStop _ => { effects with stop := true }
  | _ => effects

/-- The turn of a muted agent. -/
def Turn.muted (number : BirthNumber) (turn : Turn V) : Turn V :=
  { turn with world := turn.world.mute number, effects := Effects.none }

/-- The halt of a muted script, in a muted turn. -/
def Halt.muted (number : BirthNumber) : Halt V → Halt V
  | returned turn result memory => .returned (turn.muted number) result memory
  | panicked turn cause => .panicked (turn.muted number) cause
  | blocked turn wait rest => .blocked (turn.muted number) wait rest.muted

section

variable {number : BirthNumber} {script rest : Script V} {turn next : Turn V} {wait : Wait}

/-- What an operation of a script buffers is told by the script. -/
theorem Script.effects_of_advance (blocked : script.advance number turn = .blocked next wait rest) :
    next.effects = turn.effects.heed script := by
  cases script with
  | done | panic => cases blocked
  | reach agent arrival rest =>
    simp only [advance] at blocked
    split at blocked <;> cases blocked <;> rfl
  | _ =>
    cases blocked
    rfl

/-- A request changes nothing but the requested effects. -/
theorem Script.advance_of_isRequest (request : script.isRequest = true) (number : BirthNumber)
    (turn : Turn V) : ∃ rest, rest.muted = script.muted ∧
      script.advance number turn =
        .blocked { turn with effects := turn.effects.heed script } (.time turn.world.clock)
          rest := by
  cases script with
  | raise _ rest | adoptGoal _ rest | adoptPlan _ rest | requestStop rest => exact ⟨rest, rfl, rfl⟩
  | _ => cases request

/-- What is no request is done by the muted script too. -/
theorem Script.advance_muted (noRequest : script.isRequest = false) (turn : Turn V) :
    script.muted.advance number (turn.muted number) =
      (script.advance number turn).muted number := by
  have agent : (turn.muted number).world.agent number = (turn.world.agent number).muted :=
    turn.world.agent_mute number
  have goesOn : ∀ {world other : World V} (rest : Script V), world = other →
      Halt.blocked { turn.muted number with world } (.time turn.world.clock) rest =
        .blocked { turn.muted number with world := other } (.time turn.world.clock) rest :=
    fun rest same => same ▸ rfl
  cases script with
  | raise | adoptGoal | adoptPlan | requestStop => cases noRequest
  | done | panic | finish | isFinished | nameInterceptor | interceptorNamed | note | await
  | sleep => rfl
  | observe rest =>
    simp only [muted, advance, agent]
    rfl
  | change capability update rest =>
    exact goesOn rest.muted (turn.world.modifyAgent_mute number rfl)
  | addInterceptor category interceptor rest =>
    refine goesOn rest.muted (turn.world.modifyAgent_mute number ?_)
    exact congrArg (fun interceptors => { (turn.world.agent number).muted with interceptors })
      (Interceptors.add_muted _ category interceptor)
  | removeInterceptor category id rest =>
    have registered := (turn.world.agent number).interceptors.contains_muted category id
    simp only [muted, advance, agent]
    refine (congrArg (fun answer => Halt.blocked _ _ (rest answer).muted) registered).trans ?_
    refine goesOn _ (turn.world.modifyAgent_mute number ?_)
    exact congrArg (fun interceptors => { (turn.world.agent number).muted with interceptors })
      (Interceptors.remove_muted _ category id)
  | send message rest =>
    have sent := turn.world.send_mute number message
    have sentMuted : (turn.muted number).world.send number message = _ := sent
    simp only [muted, advance, sentMuted]
    rfl
  | reach agent arrival rest =>
    have handles : (turn.muted number).world.handles = turn.world.handles := rfl
    simp only [muted, advance, handles]
    split
    · rfl
    · exact goesOn _ (turn.world.arrive_mute number _ arrival)

end

/-! ## Strides -/

/-- What an act stage has gathered, without the requests. -/
def Progress.muted (progress : Progress V) : Progress V :=
  { progress with effects := Effects.none }

namespace Phase

/-- Where the cycle of a muted agent stands. Shutdown plans are left as they are. -/
def muted : Phase V → Phase V
  | planning pending steps progress => planning (pending.map ActivePlan.muted) steps progress.muted
  | acting script isFinished active pending steps progress =>
    acting script.muted isFinished active.muted (pending.map ActivePlan.muted) steps progress.muted
  | phase => phase

/-- What the plans of a cycle have requested so far. -/
def requests : Phase V → Effects V
  | planning _ _ progress | acting _ _ _ _ _ progress => progress.effects
  | _ => Effects.none

/-- Whether a plan is about to request something. -/
def isRequest : Phase V → Bool
  | acting script .. => script.isRequest
  | _ => false

/-- Whether an act stage is at its end. -/
def concludes : Phase V → Bool
  | planning [] [] _ | acting (.done (.error _) _) .. => true
  | _ => false

/-- Who has executed no plan has requested nothing. -/
def Counts : Phase V → Prop
  | planning _ _ progress => progress.executed = 0 → progress.effects = Effects.none
  | _ => True

end Phase

namespace World

/-- The world at the end of an act stage, before the requested effects are applied. -/
def stage (world : World V) (number : BirthNumber) : Phase V → World V
  | .acting (.done (.error _) _) isFinished active pending _ progress =>
    ((progress.act world).dropped number active pending
      { world, effects := progress.effects, finished := isFinished }).world
  | _ => world

variable (world : World V) (number : BirthNumber) {phase : Phase V}

/-- Of a request the muted agent knows nothing. -/
theorem stride_of_isRequest (request : phase.isRequest = true) :
    (world.stride number phase).1 = world ∧ (world.stride number phase).2.muted = phase.muted := by
  cases phase with
  | acting script finished active pending steps progress =>
    obtain ⟨rest, same, advanced⟩ := Script.advance_of_isRequest request number
      (Turn.mk world progress.effects finished)
    have strode : world.stride number (.acting script finished active pending steps progress) =
        (world, .acting rest finished active pending steps
          { progress with effects := progress.effects.heed script }) := by
      simp only [stride, advanced]
    rw [strode]
    simp [Phase.muted, same, Progress.muted]
  | _ => cases request

/-- Plans that stay active do so in a muted agent. -/
theorem kept_mute (progress : Progress V) (active : ActivePlan V) (turn : Turn V)
    (action : Option V.Action) (memory : Nat) :
    ((progress.muted.act (turn.world.mute number)).kept number active.muted (turn.muted number)
        action memory).world =
      ((progress.act turn.world).kept number active turn action memory).world.mute number := by
  simp only [Act.kept]
  split <;> rename_i finished
  · rw [if_pos (show turn.finished = true from finished)]
    rfl
  · rw [if_neg (show ¬turn.finished = true from finished)]
    refine modifyAgent_mute turn.world number ?_
    simp [Agent.muted, ActivePlan.muted]

/-- So do plans that are left when a plan failed. -/
theorem dropped_mute (progress : Progress V) (active : ActivePlan V)
    (pending : List (ActivePlan V)) (turn : Turn V) :
    ((progress.muted.act (turn.world.mute number)).dropped number active.muted
        (pending.map ActivePlan.muted) (turn.muted number)).world =
      ((progress.act turn.world).dropped number active pending turn).world.mute number := by
  refine modifyAgent_mute { turn.world with pursuit := active.release turn.world.pursuit } number ?_
  simp [Agent.muted]

/-- A sense step starts from the same triggers and finds the same. -/
theorem sensing_mute (inbox : Inbox V) (category : Category) (steps : List SenseStep)
    (acts : List ActStep) :
    (world.mute number).stride number (.sensing inbox (category :: steps) acts) =
      Prod.map (·.mute number) Phase.muted
        (world.stride number (.sensing inbox (category :: steps) acts)) := by
  have goals : (world.agent number).muted.goals = (world.agent number).goals := rfl
  simp only [stride, agent_mute, goals, senseTriggers_mute]
  generalize (if category = .goal then (world.agent number).goals.map Trigger.goal
    else inbox.triggers category) = triggers
  cases triggers.isEmpty with
  | true => rfl
  | false => rcases world.senseTriggers number category triggers with ⟨after, _ | panic⟩ <;> rfl

/-- An operation that is no request, and does not end the act stage, is made by the muted plan. -/
theorem acting_mute {script : Script V} (isFinished : Bool) (active : ActivePlan V)
    (pending : List (ActivePlan V)) (steps : List ActStep) (progress : Progress V)
    (noRequest : script.isRequest = false)
    (goesOn : (Phase.acting script isFinished active pending steps progress).concludes = false) :
    (world.mute number).stride number
        (Phase.acting script isFinished active pending steps progress).muted =
      Prod.map (·.mute number) Phase.muted
        (world.stride number (.acting script isFinished active pending steps progress)) := by
  have advanced : script.muted.advance number
      { world := world.mute number, effects := progress.muted.effects, finished := isFinished } =
        _ :=
    Script.advance_muted noRequest (Turn.mk world progress.effects isFinished)
  simp only [Phase.muted, stride]
  rw [advanced]
  cases halted : script.advance number
      { world, effects := progress.effects, finished := isFinished } with
  | returned turn result memory =>
    obtain ⟨rfl, rfl⟩ := eq_done_of_advance halted
    cases result with
    | error cause => cases goesOn
    | ok action =>
      have kept := kept_mute number progress active (Turn.mk world progress.effects isFinished)
        action memory
      exact Prod.ext kept rfl
  | panicked turn cause => rfl
  | blocked turn wait rest => rfl

/-- The muted agent makes every stride that is no request, up to the end of the act stage. -/
theorem stride_mute (early : phase.isLate = false) (noRequest : phase.isRequest = false)
    (goesOn : phase.concludes = false) :
    (world.mute number).stride number phase.muted =
      Prod.map (·.mute number) Phase.muted (world.stride number phase) := by
  cases phase with
  | waking =>
    simp only [Phase.muted, stride, agent_mute, drain_mute, Prod.map_fst, Prod.map_snd, id]
    split <;> rename_i done
    · rw [if_pos (show (world.agent number).done = true from done)]
      rfl
    · rw [if_neg (show ¬(world.agent number).done = true from done)]
      split <;> rename_i stopping
      · rw [if_pos (show ((world.drain number).1.agent number).stopping = true from stopping)]
        exact Prod.ext (modifyAgent_mute _ number rfl) rfl
      · rw [if_neg (show ¬((world.drain number).1.agent number).stopping = true from stopping)]
        rfl
  | sweeping inbox =>
    simp only [Phase.muted, stride, sweep_mute]
    rcases world.sweep number with ⟨after, _ | panic⟩
    · simp only [Prod.map, id, agent_mute]
      rfl
    · rfl
  | sensing inbox steps acts =>
    cases steps with
    | nil => rfl
    | cons category steps => exact sensing_mute world number inbox category steps acts
  | planning pending steps progress =>
    cases pending with
    | nil =>
      cases steps with
      | nil => cases goesOn
      | cons step steps =>
        cases step with
        | executePlans =>
          simp only [Phase.muted, List.map_nil, stride, agent_mute]
          exact Prod.ext (modifyAgent_mute world number rfl) rfl
    | cons active pending =>
      simp only [Phase.muted, List.map_cons, stride, Prod.map, ActivePlan.muted, Plan.start_muted]
  | acting script isFinished active pending steps progress =>
    exact acting_mute world number isFinished active pending steps progress noRequest goesOn
  | closing | parting => cases early
  | finished outcome => rfl

/-! ### The end of an act stage -/

/-- What a cycle comes to where its act stage ends: the requested effects are applied to `stage`,
and the muted agent ends there with the same outcome. -/
def EndsApart (stage : World V) (phase : Phase V) : Prop :=
  ∃ outcome, (∀ cause, outcome ≠ .panicked cause) ∧
    world.stride number phase = (stage.applyEffects number phase.requests, .finished outcome) ∧
    (world.mute number).stride number phase.muted = (stage.mute number, .finished outcome)

/-- All act steps are done. Whether another cycle is asked for does not depend on the requests,
since a cycle with requests has executed a plan. -/
theorem completed_apart (progress : Progress V)
    (counts : progress.executed = 0 → progress.effects = Effects.none) :
    world.EndsApart number world (.planning [] [] progress) := by
  let applied := (world.applyEffects number progress.effects).agent number
  refine ⟨.acted progress.actions (0 < progress.executed || !applied.plans.isEmpty ||
    applied.stopping || !applied.inbox.isEmpty), nofun, rfl, ?_⟩
  simp only [stride, conclude, Phase.muted, List.map_nil, Progress.muted, Progress.act,
    applyEffects_none, agent_mute, CycleHalt.world, CycleHalt.phase]
  congr 3
  rcases Nat.eq_zero_or_pos progress.executed with idle | executed
  · have same : applied = world.agent number := by
      simp only [applied, counts idle, applyEffects_none]
    have plans : (world.agent number).muted.plans.isEmpty = (world.agent number).plans.isEmpty :=
      List.isEmpty_map
    rw [same, plans]
    rfl
  · simp [executed]

/-- Where an act stage ends, what the plans requested is applied to the world that the muted agent
is left with. The outcome is the same. -/
theorem stride_of_concludes (concludes : phase.concludes = true) (counts : phase.Counts) :
    world.EndsApart number (world.stage number phase) phase := by
  cases phase with
  | planning pending steps progress =>
    cases pending with
    | nil =>
      cases steps with
      | nil => exact completed_apart world number progress counts
      | cons => cases concludes
    | cons => cases concludes
  | acting script isFinished active pending steps progress =>
    cases script with
    | done result memory =>
      cases result with
      | error cause =>
        have dropped := dropped_mute number progress active pending
          (Turn.mk world progress.effects isFinished)
        refine ⟨.failed cause, nofun, rfl, ?_⟩
        exact Prod.ext ((applyEffects_none _ number).trans dropped) rfl
      | ok => cases concludes
    | _ => cases concludes
  | _ => cases concludes

end World

end Deliberation
