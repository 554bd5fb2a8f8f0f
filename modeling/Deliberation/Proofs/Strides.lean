import Deliberation.Proofs.Moving
import Mathlib.Logic.Relation

/-!
# Cycles in strides

`World.cycle` runs a cycle from its beginning until it ends or waits. `World.stride` takes a cycle
apart: one stride drains the inbox, or handles one sense step, or runs one operation of a script, or
applies the effects. Cycles of several agents interleave stride by stride, and between two strides
anything else may happen. `Strode` names the cases of a stride: a proof about strides splits into
these, whatever `stride` looks like.

A stride does not look at gates and moments. That a cycle waits for one means that its next stride
comes later.
-/

namespace Deliberation

open Relation

variable {V : Vocabulary}

/-! ## Strides of a script -/

/-- The turn in which a script halted. -/
def Halt.turn : Halt V → Turn V
  | returned turn _ _ | panicked turn _ | blocked turn _ _ => turn

/-- What a script that waits was about to do. -/
def Wait.before : Wait → Script V → Script V
  | gate name, rest => .await name rest
  | time _, rest => rest

/-- Where a script stands that halted. -/
def Halt.reached : Halt V → Script V
  | returned _ result memory => .done result memory
  | panicked _ cause => .panic cause
  | blocked _ wait rest => wait.before rest

/-- Whether no closed gate holds a script up. -/
def Script.isOpen (gates : List String) : Script V → Bool
  | .await gate _ => gates.contains gate
  | _ => true

/-- Run one operation of a script. The rest is ready to go on. -/
def Script.advance (self : BirthNumber) (script : Script V) (turn : Turn V) : Halt V :=
  let ready := Wait.time turn.world.clock
  match script with
  | .done result memory => .returned turn result memory
  | .panic cause => .panicked turn cause
  | .finish next => .blocked { turn with finished := true } ready next
  | .isFinished next => .blocked turn ready (next turn.finished)
  | .observe next => .blocked turn ready (next (turn.world.agent self).view)
  | .change capability update next =>
    .blocked
      (turn.withWorld <| turn.world.modifyAgent self fun agent =>
        { agent with contexts := agent.contexts.modify capability update })
      ready next
  | .raise payload next =>
    .blocked (turn.request fun effects => { effects with raised := effects.raised ++ [payload] })
      ready next
  | .adoptGoal handle next =>
    .blocked (turn.request fun effects => { effects with goals := effects.goals ++ [handle] })
      ready next
  | .adoptPlan plan next =>
    .blocked (turn.request fun effects => { effects with plans := effects.plans ++ [plan] })
      ready next
  | .requestStop next =>
    .blocked (turn.request fun effects => { effects with stop := true }) ready next
  | .nameInterceptor name next =>
    let (id, names) := turn.world.names.create name
    .blocked (turn.withWorld { turn.world with names }) ready (next id)
  | .interceptorNamed name next => .blocked turn ready (next (turn.world.names.find? name))
  | .addInterceptor category interceptor next =>
    .blocked
      (turn.withWorld <| turn.world.modifyAgent self fun agent =>
        { agent with interceptors := agent.interceptors.add category interceptor })
      ready next
  | .removeInterceptor category id next =>
    .blocked
      (turn.withWorld <| turn.world.modifyAgent self fun agent =>
        { agent with interceptors := agent.interceptors.remove category id })
      ready (next ((turn.world.agent self).interceptors.contains category id))
  | .send message next =>
    let (world, outcome) := turn.world.send self message
    .blocked (turn.withWorld world) ready (next outcome)
  | .reach agent arrival next =>
    match turn.world.handles.find? agent with
    | none => .blocked turn ready (next false)
    | some number => .blocked (turn.withWorld (turn.world.arrive number arrival)) ready (next true)
  | .note entry next => .blocked (turn.withWorld (turn.world.log (.note entry))) ready next
  | .await _ next => .blocked turn ready next
  | .sleep _ next => .blocked turn ready next

/-- One operation of a script stirs the world and does nothing else to it. -/
theorem Script.advance_stirs (self : BirthNumber) (script : Script V) (turn : Turn V) :
    Stirs self turn.world (script.advance self turn).turn.world := by
  cases script with
  | done | panic | finish | isFinished | observe | raise | adoptGoal | adoptPlan | requestStop
  | interceptorNamed | await | sleep => exact .refl
  | change capability update next =>
    exact .single (.tune _ _ fun agent => ⟨_, agent.interceptors, rfl⟩)
  | nameInterceptor name next =>
    exact .single (.aside turn.world turn.world.messenger _ turn.world.journal turn.world.clock)
  | addInterceptor category interceptor next =>
    exact .single (.tune _ _ fun agent => ⟨agent.contexts, _, rfl⟩)
  | removeInterceptor category id next =>
    exact .single (.tune _ _ fun agent => ⟨agent.contexts, _, rfl⟩)
  | send message next => exact turn.world.send_stirs self self message
  | reach agent arrival next =>
    simp only [advance]
    split
    · exact .refl
    · exact .single (.arrive _ _ _)
  | note entry next => exact .single (World.log_stirs self _ _)

/-- An operation of a script stirs the world, however the script halts. -/
theorem Script.stirs_of_advance {self : BirthNumber} {script : Script V} {turn : Turn V}
    {halt : Halt V} (advanced : script.advance self turn = halt) :
    Stirs self turn.world halt.turn.world :=
  advanced ▸ script.advance_stirs self turn

/-- A script stirs the world until it halts. -/
theorem Script.run_stirs (self : BirthNumber) (deadline : Option Nat) (script : Script V)
    (turn : Turn V) : Stirs self turn.world (script.run self deadline turn).turn.world := by
  fun_induction Script.run self deadline script turn with
  | case1 | case2 | case20 | case22 => exact .refl
  | case3 _ _ ih | case4 _ _ ih | case5 _ _ ih | case7 _ _ _ ih | case8 _ _ _ ih | case9 _ _ _ ih
  | case10 _ _ ih | case12 _ _ _ ih | case16 _ _ _ _ _ ih | case19 _ _ _ _ ih => exact ih
  | case6 turn capability update next ih =>
    exact .head (.tune _ _ fun agent => ⟨_, agent.interceptors, rfl⟩) ih
  | case11 turn name next id names created ih =>
    exact .head
      (.aside turn.world turn.world.messenger names turn.world.journal turn.world.clock) ih
  | case13 turn category interceptor next ih =>
    exact .head (.tune _ _ fun agent => ⟨agent.contexts, _, rfl⟩) ih
  | case14 turn category id next registered ih =>
    exact .head (.tune _ _ fun agent => ⟨agent.contexts, _, rfl⟩) ih
  | case15 turn message next world outcome sent ih =>
    have stirs := turn.world.send_stirs self self message
    rw [sent] at stirs
    exact stirs.trans ih
  | case17 turn agent arrival next number found ih => exact .head (.arrive _ _ _) ih
  | case18 turn entry next ih => exact .head (World.log_stirs self _ _) ih
  | case21 turn milliseconds next moment _ ih =>
    exact .head
      (.aside turn.world turn.world.messenger turn.world.names turn.world.journal moment) ih

/-! ## Strides of a cycle -/

/-- What an act stage has gathered so far, apart from the world. -/
structure Progress (V : Vocabulary) where
  effects : Effects V
  actions : List V.Action
  executed : Nat

/-- The act stage in a world. -/
def Progress.act (progress : Progress V) (world : World V) : Act V :=
  { world, effects := progress.effects, actions := progress.actions, executed := progress.executed }

/-- What an act stage has gathered. -/
def Act.progress (act : Act V) : Progress V :=
  { effects := act.effects, actions := act.actions, executed := act.executed }

/-- Where a cycle stands between two strides. -/
inductive Phase (V : Vocabulary) where
  /-- It is about to look whether there is anything to do. -/
  | waking
  /-- The inbox is drained; achieved goals are about to be dropped. -/
  | sweeping (inbox : Inbox V)
  /-- Sense steps follow, and then act steps. -/
  | sensing (inbox : Inbox V) (steps : List SenseStep) (acts : List ActStep)
  /-- The next of the pending plans is about to be executed, or the next act step is. -/
  | planning (pending : List (ActivePlan V)) (steps : List ActStep) (progress : Progress V)
  /-- A plan is being executed. -/
  | acting (script : Script V) (finished : Bool) (active : ActivePlan V)
      (pending : List (ActivePlan V)) (steps : List ActStep) (progress : Progress V)
  /-- The next shutdown plan is about to be executed. -/
  | closing (pending : List (Plan V)) (effects : Effects V) (actions : List V.Action)
  /-- A shutdown plan is being executed. -/
  | parting (script : Script V) (finished : Bool) (pending : List (Plan V)) (effects : Effects V)
      (actions : List V.Action)
  | finished (outcome : CycleOutcome V)

/-- Where a cycle stands that waits. -/
def Suspended.phase (suspended : Suspended V) : Phase V :=
  match suspended.stage with
  | .acting active pending steps executed =>
    .acting suspended.script suspended.finished active pending steps
      { effects := suspended.effects, actions := suspended.actions, executed }
  | .closing pending =>
    .parting suspended.script suspended.finished pending suspended.effects suspended.actions

/-- Where a cycle stands that came to a halt. -/
def CycleHalt.phase : CycleHalt V → Phase V
  | ended _ outcome => .finished outcome
  | blocked _ suspended => suspended.phase

/-- Where a cycle stands that waits, before what it waits for. -/
def Suspended.reached (suspended : Suspended V) : Phase V :=
  { suspended with script := suspended.wait.before suspended.script }.phase

/-- How far a cycle has come until its halt. -/
def CycleHalt.reached : CycleHalt V → Phase V
  | ended _ outcome => .finished outcome
  | blocked _ suspended => suspended.reached

/-- Whether no closed gate holds a cycle up. -/
def Phase.isOpen (gates : List String) : Phase V → Bool
  | acting script .. | parting script .. => script.isOpen gates
  | _ => true

namespace World

/-- The triggers that a sense step starts from. -/
def offered (world : World V) (number : BirthNumber) (inbox : Inbox V) (category : Category) :
    List (Trigger V) :=
  if category = .goal then (world.agent number).goals.map .goal else inbox.triggers category

/-- Make one stride of a cycle of an agent. -/
def stride (world : World V) (number : BirthNumber) : Phase V → World V × Phase V
  | .waking =>
    if (world.agent number).done then (world, .finished (.acted [] false))
    else
      let (world, inbox) := world.drain number
      let agent := world.agent number
      if agent.stopping then
        (world.modifyAgent number fun agent => { agent with shutdownPlans := [] },
          .closing agent.shutdownPlans Effects.none [])
      else (world, .sweeping inbox)
  | .sweeping inbox =>
    match world.sweep number with
    | (world, some panic) => (world, .finished (.panicked panic))
    | (world, none) =>
      let agent := world.agent number
      (world, .sensing inbox agent.senseSteps agent.actSteps)
  | .sensing _ [] acts =>
    (world, .planning [] acts { effects := Effects.none, actions := [], executed := 0 })
  | .sensing inbox (category :: steps) acts =>
    let triggers :=
      if category = .goal then (world.agent number).goals.map .goal else inbox.triggers category
    if triggers.isEmpty then (world, .sensing inbox steps acts)
    else
      match world.senseTriggers number category triggers with
      | (world, some panic) => (world, .finished (.panicked panic))
      | (world, none) => (world, .sensing (inbox.without category) steps acts)
  | .planning [] [] progress =>
    let halt := conclude number (.completed (progress.act world))
    (halt.world, halt.phase)
  | .planning [] (.executePlans :: steps) progress =>
    (world.modifyAgent number fun agent => { agent with plans := [] },
      .planning (world.agent number).plans steps progress)
  | .planning (active :: pending) steps progress =>
    (world, .acting active.plan.start false active pending steps progress)
  | .acting script finished active pending steps progress =>
    match script.advance number { world, effects := progress.effects, finished } with
    | .returned turn (.ok action) memory =>
      let act := (progress.act world).kept number active turn action memory
      (act.world, .planning pending steps act.progress)
    | .returned turn (.error cause) _ =>
      let act := (progress.act world).dropped number active pending turn
      let halt := conclude number (.failed act cause)
      (halt.world, halt.phase)
    | .panicked turn cause => (turn.world, .finished (.panicked cause))
    | .blocked turn _ rest =>
      (turn.world,
        .acting rest turn.finished active pending steps { progress with effects := turn.effects })
  | .closing [] _ actions => (world.retire number, .finished (.acted actions false))
  | .closing (plan :: pending) effects actions =>
    (world, .parting plan.start false pending effects actions)
  | .parting script finished pending effects actions =>
    match script.advance number { world, effects, finished } with
    | .returned turn (.ok action) _ =>
      (turn.world, .closing pending turn.effects (actions ++ action.toList))
    | .returned turn (.error _) _ => (turn.world, .closing pending turn.effects actions)
    | .panicked turn cause => (turn.world, .finished (.panicked cause))
    | .blocked turn _ rest =>
      (turn.world, .parting rest turn.finished pending turn.effects actions)
  | .finished outcome => (world, .finished outcome)

/-- What a stride comes to, case by case. -/
inductive Strode (number : BirthNumber) (world : World V) : Phase V → World V × Phase V → Prop where
  /-- An agent that is done has nothing to do. -/
  | idles (isDone : (world.agent number).done = true) :
      Strode number world .waking (world, .finished (.acted [] false))
  /-- An agent that is stopping turns to its shutdown plans. -/
  | turns (after : World V) (inbox : Inbox V) (notDone : (world.agent number).done = false)
      (drained : world.drain number = (after, inbox))
      (stopping : (after.agent number).stopping = true) :
      Strode number world .waking
        (after.modifyAgent number fun agent => { agent with shutdownPlans := [] },
          .closing (after.agent number).shutdownPlans Effects.none [])
  | wakes (after : World V) (inbox : Inbox V) (notDone : (world.agent number).done = false)
      (drained : world.drain number = (after, inbox))
      (notStopping : (after.agent number).stopping = false) :
      Strode number world .waking (after, .sweeping inbox)
  | sweepPanics (inbox : Inbox V) (after : World V) (panic : Panic)
      (swept : world.sweep number = (after, some panic)) :
      Strode number world (.sweeping inbox) (after, .finished (.panicked panic))
  | sweeps (inbox : Inbox V) (after : World V) (swept : world.sweep number = (after, none)) :
      Strode number world (.sweeping inbox)
        (after, .sensing inbox (after.agent number).senseSteps (after.agent number).actSteps)
  /-- All sense steps are done. -/
  | sensed (inbox : Inbox V) (acts : List ActStep) :
      Strode number world (.sensing inbox [] acts)
        (world, .planning [] acts { effects := Effects.none, actions := [], executed := 0 })
  /-- A sense step has no triggers to start from. -/
  | passes (inbox : Inbox V) (category : Category) (steps : List SenseStep) (acts : List ActStep)
      (empty : (world.offered number inbox category).isEmpty = true) :
      Strode number world (.sensing inbox (category :: steps) acts)
        (world, .sensing inbox steps acts)
  | sensePanics (inbox : Inbox V) (category : Category) (steps : List SenseStep)
      (acts : List ActStep) (after : World V) (panic : Panic)
      (waiting : (world.offered number inbox category).isEmpty = false)
      (senses : world.senseTriggers number category (world.offered number inbox category) =
        (after, some panic)) :
      Strode number world (.sensing inbox (category :: steps) acts)
        (after, .finished (.panicked panic))
  | senses (inbox : Inbox V) (category : Category) (steps : List SenseStep) (acts : List ActStep)
      (after : World V) (waiting : (world.offered number inbox category).isEmpty = false)
      (senses : world.senseTriggers number category (world.offered number inbox category) =
        (after, none)) :
      Strode number world (.sensing inbox (category :: steps) acts)
        (after, .sensing (inbox.without category) steps acts)
  | concludes (progress : Progress V) :
      Strode number world (.planning [] [] progress)
        ((conclude number (.completed (progress.act world))).world,
          (conclude number (.completed (progress.act world))).phase)
  /-- An act step takes all active plans. -/
  | takes (steps : List ActStep) (progress : Progress V) :
      Strode number world (.planning [] (.executePlans :: steps) progress)
        (world.modifyAgent number fun agent => { agent with plans := [] },
          .planning (world.agent number).plans steps progress)
  | begins (active : ActivePlan V) (pending : List (ActivePlan V)) (steps : List ActStep)
      (progress : Progress V) :
      Strode number world (.planning (active :: pending) steps progress)
        (world, .acting active.plan.start false active pending steps progress)
  | actingReturns (script : Script V) (finished : Bool) (active : ActivePlan V)
      (pending : List (ActivePlan V)) (steps : List ActStep) (progress : Progress V)
      (turn : Turn V) (action : Option V.Action) (memory : Nat)
      (returned : script.advance number { world, effects := progress.effects, finished } =
        .returned turn (.ok action) memory) :
      Strode number world (.acting script finished active pending steps progress)
        (((progress.act world).kept number active turn action memory).world,
          .planning pending steps
            ((progress.act world).kept number active turn action memory).progress)
  | actingFails (script : Script V) (finished : Bool) (active : ActivePlan V)
      (pending : List (ActivePlan V)) (steps : List ActStep) (progress : Progress V)
      (turn : Turn V) (cause : PlanError) (memory : Nat)
      (returned : script.advance number { world, effects := progress.effects, finished } =
        .returned turn (.error cause) memory) :
      Strode number world (.acting script finished active pending steps progress)
        ((conclude number
            (.failed ((progress.act world).dropped number active pending turn) cause)).world,
          .finished (.failed cause))
  | actingPanics (script : Script V) (finished : Bool) (active : ActivePlan V)
      (pending : List (ActivePlan V)) (steps : List ActStep) (progress : Progress V)
      (turn : Turn V) (cause : Panic)
      (panicked : script.advance number { world, effects := progress.effects, finished } =
        .panicked turn cause) :
      Strode number world (.acting script finished active pending steps progress)
        (turn.world, .finished (.panicked cause))
  | actingGoesOn (script : Script V) (finished : Bool) (active : ActivePlan V)
      (pending : List (ActivePlan V)) (steps : List ActStep) (progress : Progress V)
      (turn : Turn V) (wait : Wait) (rest : Script V)
      (blocked : script.advance number { world, effects := progress.effects, finished } =
        .blocked turn wait rest) :
      Strode number world (.acting script finished active pending steps progress)
        (turn.world,
          .acting rest turn.finished active pending steps { progress with effects := turn.effects })
  /-- All shutdown plans are done. -/
  | retires (effects : Effects V) (actions : List V.Action) :
      Strode number world (.closing [] effects actions)
        (world.retire number, .finished (.acted actions false))
  | parts (plan : Plan V) (pending : List (Plan V)) (effects : Effects V)
      (actions : List V.Action) :
      Strode number world (.closing (plan :: pending) effects actions)
        (world, .parting plan.start false pending effects actions)
  | partingReturns (script : Script V) (finished : Bool) (pending : List (Plan V))
      (effects : Effects V) (actions : List V.Action) (turn : Turn V) (action : Option V.Action)
      (memory : Nat)
      (returned : script.advance number { world, effects, finished } =
        .returned turn (.ok action) memory) :
      Strode number world (.parting script finished pending effects actions)
        (turn.world, .closing pending turn.effects (actions ++ action.toList))
  | partingFails (script : Script V) (finished : Bool) (pending : List (Plan V))
      (effects : Effects V) (actions : List V.Action) (turn : Turn V) (cause : PlanError)
      (memory : Nat)
      (returned : script.advance number { world, effects, finished } =
        .returned turn (.error cause) memory) :
      Strode number world (.parting script finished pending effects actions)
        (turn.world, .closing pending turn.effects actions)
  | partingPanics (script : Script V) (finished : Bool) (pending : List (Plan V))
      (effects : Effects V) (actions : List V.Action) (turn : Turn V) (cause : Panic)
      (panicked : script.advance number { world, effects, finished } = .panicked turn cause) :
      Strode number world (.parting script finished pending effects actions)
        (turn.world, .finished (.panicked cause))
  | partingGoesOn (script : Script V) (finished : Bool) (pending : List (Plan V))
      (effects : Effects V) (actions : List V.Action) (turn : Turn V) (wait : Wait)
      (rest : Script V)
      (blocked : script.advance number { world, effects, finished } = .blocked turn wait rest) :
      Strode number world (.parting script finished pending effects actions)
        (turn.world, .parting rest turn.finished pending turn.effects actions)
  | rests (outcome : CycleOutcome V) :
      Strode number world (.finished outcome) (world, .finished outcome)

/-- Every stride is one of the cases of `Strode`. -/
theorem strode (world : World V) (number : BirthNumber) (phase : Phase V) :
    Strode number world phase (world.stride number phase) := by
  fun_cases stride world number phase with
  | case1 isDone => exact .idles isDone
  | case2 notDone after inbox drained agent stopping =>
    exact .turns after inbox (eq_false_of_ne_true notDone) drained stopping
  | case3 notDone after inbox drained agent notStopping =>
    exact .wakes after inbox (eq_false_of_ne_true notDone) drained
      (eq_false_of_ne_true notStopping)
  | case4 inbox after panic swept => exact .sweepPanics inbox after panic swept
  | case5 inbox after swept agent => exact .sweeps inbox after swept
  | case6 inbox acts => exact .sensed inbox acts
  | case7 inbox category steps acts triggers empty => exact .passes inbox category steps acts empty
  | case8 inbox category steps acts triggers waiting after panic senses =>
    exact .sensePanics inbox category steps acts after panic (eq_false_of_ne_true waiting) senses
  | case9 inbox category steps acts triggers waiting after senses =>
    exact .senses inbox category steps acts after (eq_false_of_ne_true waiting) senses
  | case10 progress halt => exact .concludes progress
  | case11 steps progress => exact .takes steps progress
  | case12 active pending steps progress => exact .begins active pending steps progress
  | case13 script finished active pending steps progress turn action memory returned =>
    exact .actingReturns _ _ _ _ _ _ _ _ _ returned
  | case14 script finished active pending steps progress turn cause memory returned =>
    exact .actingFails _ _ _ _ _ _ _ _ _ returned
  | case15 script finished active pending steps progress turn cause panicked =>
    exact .actingPanics _ _ _ _ _ _ _ _ panicked
  | case16 script finished active pending steps progress turn wait rest blocked =>
    exact .actingGoesOn _ _ _ _ _ _ _ _ _ blocked
  | case17 effects actions => exact .retires effects actions
  | case18 plan pending effects actions => exact .parts plan pending effects actions
  | case19 script finished pending effects actions turn action memory returned =>
    exact .partingReturns _ _ _ _ _ _ _ _ returned
  | case20 script finished pending effects actions turn cause memory returned =>
    exact .partingFails _ _ _ _ _ _ _ _ returned
  | case21 script finished pending effects actions turn cause panicked =>
    exact .partingPanics _ _ _ _ _ _ _ panicked
  | case22 script finished pending effects actions turn wait rest blocked =>
    exact .partingGoesOn _ _ _ _ _ _ _ _ blocked
  | case23 outcome => exact .rests outcome

/-- One stride of a cycle, or a lapse of time. -/
inductive Stride (number : BirthNumber) : World V × Phase V → World V × Phase V → Prop where
  | stride (world : World V) (phase : Phase V) :
      Stride number (world, phase) (world.stride number phase)
  | elapse (world : World V) (phase : Phase V) (clock : Nat) :
      Stride number (world, phase) ({ world with clock }, phase)

/-- Any number of strides of a cycle. -/
abbrev Strides (number : BirthNumber) : World V × Phase V → World V × Phase V → Prop :=
  ReflTransGen (Stride number)

/-- What every stride and every lapse of time keeps is kept by any number of them. -/
theorem Strides.keeps {number : BirthNumber} {before after : World V × Phase V}
    (strides : Strides number before after) (holds : World V × Phase V → Prop)
    (stride : ∀ world phase, holds (world, phase) → holds (world.stride number phase))
    (elapse : ∀ world phase clock, holds (world, phase) → holds ({ world with clock }, phase))
    (start : holds before) : holds after := by
  induction strides with
  | refl => exact start
  | tail _ last ih =>
    cases last with
    | stride world phase => exact stride world phase ih
    | elapse world phase clock => exact elapse world phase clock ih

/-! ### What a stride does -/

/-- A stride is a sequence of moves that keep an agent going, but for two: the one in which an agent
turns to its shutdown plans, and the one in which it retires. -/
theorem stride_cases (world : World V) (number : BirthNumber) (phase : Phase V) :
    Moves Agent.Steady number world (world.stride number phase).1 ∨
      (phase = .waking ∧ (world.agent number).done = false ∧
        world.stride number phase =
          ((world.drain number).1.modifyAgent number fun agent => { agent with shutdownPlans := [] },
            .closing ((world.drain number).1.agent number).shutdownPlans Effects.none [])) ∨
      ∃ effects actions, phase = .closing [] effects actions := by
  have strode := world.strode number phase
  generalize world.stride number phase = next at strode ⊢
  cases strode with
  | idles | sensed | passes | begins | parts | rests => exact .inl .refl
  | turns after inbox notDone drained => exact .inr (.inl ⟨rfl, notDone, by rw [drained]⟩)
  | wakes after inbox _ drained =>
    have moves := world.drain_moves number
    rw [drained] at moves
    exact .inl moves
  | sweepPanics inbox after panic swept | sweeps inbox after swept =>
    have moves := world.sweep_moves number
    rw [swept] at moves
    exact .inl moves
  | sensePanics inbox category steps acts after panic _ senses
  | senses inbox category steps acts after _ senses =>
    have moves := world.senseTriggers_moves number category (world.offered number inbox category)
    rw [senses] at moves
    exact .inl moves
  | concludes progress => exact .inl (conclude_moves number (.completed (progress.act world)))
  | takes steps progress =>
    refine .inl (.single (.own world _ ?_))
    exact { id := rfl, scheduler := rfl, distinct := fun held => held, done := rfl,
            shutdownPlans := rfl }
  | actingReturns script finished active pending steps progress turn action memory returned =>
    refine .inl ((Script.stirs_of_advance returned).steady.trans ?_)
    exact (progress.act world).kept_moves number active turn action memory
  | actingFails script finished active pending steps progress turn cause memory returned =>
    have dropped := (progress.act world).dropped_moves number active pending turn
    refine .inl ((Script.stirs_of_advance returned).steady.trans (dropped.trans ?_))
    exact conclude_moves number (.failed _ cause)
  | actingPanics script finished active pending steps progress turn cause panicked
  | partingPanics script finished pending effects actions turn cause panicked =>
    exact .inl (Script.stirs_of_advance panicked).steady
  | actingGoesOn script finished active pending steps progress turn wait rest blocked
  | partingGoesOn script finished pending effects actions turn wait rest blocked =>
    exact .inl (Script.stirs_of_advance blocked).steady
  | retires effects actions => exact .inr (.inr ⟨effects, actions, rfl⟩)
  | partingReturns script finished pending effects actions turn action memory returned
  | partingFails script finished pending effects actions turn cause memory returned =>
    exact .inl (Script.stirs_of_advance returned).steady

/-- A stride is a sequence of moves of its agent. -/
theorem stride_moves (world : World V) (number : BirthNumber) (phase : Phase V) :
    Moves Agent.Lasting number world (world.stride number phase).1 := by
  rcases world.stride_cases number phase with
    steady | ⟨rfl, _, closing⟩ | ⟨effects, actions, rfl⟩
  · exact steady.lasting
  · rw [closing]
    refine (world.drain_moves number).lasting.tail (.own _ _ ?_)
    exact { id := rfl, scheduler := rfl, distinct := fun held => held }
  · exact world.retire_moves number

/-- A stride or a lapse of time is a sequence of moves. -/
theorem Stride.moves {number : BirthNumber} {before after : World V × Phase V}
    (stride : Stride number before after) : Moves Agent.Lasting number before.1 after.1 := by
  cases stride with
  | stride world phase => exact world.stride_moves number phase
  | elapse world phase clock =>
    exact .single (.aside world world.pursuit world.messenger world.names world.journal clock)

/-- Strides in a row are a sequence of moves. -/
theorem Strides.moves {number : BirthNumber} {before after : World V × Phase V}
    (strides : Strides number before after) : Moves Agent.Lasting number before.1 after.1 := by
  induction strides with
  | refl => exact .refl
  | tail _ stride ih => exact ih.trans stride.moves

end World

end Deliberation
