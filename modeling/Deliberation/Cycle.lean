import Deliberation.Matching
import Deliberation.Messaging

/-!
# The deliberation cycle

`cycle` runs one cycle of an agent: drain the inbox, drop achieved goals, run the sense steps, run
the act steps, apply the requested effects. An agent that was asked to stop runs its shutdown plans
instead and is done for good.

A cycle ends, or it waits at a closed gate or for a moment beyond its deadline. A waiting cycle can
be resumed in a later world. When a plan or a predicate panics, the cycle breaks off: what had been
taken out of the agent is lost, what was put back stays.
-/

namespace Deliberation

variable {V : Vocabulary}

/-! ## One execution -/

/-- What the execution of a plan works on. -/
structure Turn (V : Vocabulary) where
  world : World V
  effects : Effects V
  finished : Bool

/-- How the execution of a script comes to a halt. -/
inductive Halt (V : Vocabulary) where
  | returned (turn : Turn V) (result : Except PlanError (Option V.Action)) (memory : Nat)
  | panicked (turn : Turn V) (cause : Panic)
  | blocked (turn : Turn V) (wait : Wait) (rest : Script V)

namespace Turn

/-- Change the world. -/
def withWorld (turn : Turn V) (world : World V) : Turn V := { turn with world }

/-- Change the requested effects. -/
def request (turn : Turn V) (change : Effects V → Effects V) : Turn V :=
  { turn with effects := change turn.effects }

end Turn

/-- Run a script for an agent until it halts. Without a deadline, time passes while it sleeps. -/
def Script.run (self : BirthNumber) (deadline : Option Nat) (script : Script V) (turn : Turn V) :
    Halt V :=
  match script with
  | .done result memory => .returned turn result memory
  | .panic cause => .panicked turn cause
  | .finish next => next.run self deadline { turn with finished := true }
  | .isFinished next => (next turn.finished).run self deadline turn
  | .observe next => (next (turn.world.agent self).view).run self deadline turn
  | .change capability update next =>
    next.run self deadline <| turn.withWorld <| turn.world.modifyAgent self fun agent =>
      { agent with contexts := agent.contexts.modify capability update }
  | .raise payload next =>
    next.run self deadline <| turn.request fun effects =>
      { effects with raised := effects.raised ++ [payload] }
  | .adoptGoal handle next =>
    next.run self deadline <| turn.request fun effects =>
      { effects with goals := effects.goals ++ [handle] }
  | .adoptPlan plan next =>
    next.run self deadline <| turn.request fun effects =>
      { effects with plans := effects.plans ++ [plan] }
  | .requestStop next =>
    next.run self deadline <| turn.request fun effects => { effects with stop := true }
  | .nameInterceptor name next =>
    let (id, names) := turn.world.names.create name
    (next id).run self deadline (turn.withWorld { turn.world with names })
  | .interceptorNamed name next => (next (turn.world.names.find? name)).run self deadline turn
  | .addInterceptor category interceptor next =>
    next.run self deadline <| turn.withWorld <| turn.world.modifyAgent self fun agent =>
      { agent with interceptors := agent.interceptors.add category interceptor }
  | .removeInterceptor category id next =>
    let registered := (turn.world.agent self).interceptors.contains category id
    (next registered).run self deadline <| turn.withWorld <|
      turn.world.modifyAgent self fun agent =>
        { agent with interceptors := agent.interceptors.remove category id }
  | .send message next =>
    let (world, outcome) := turn.world.send self message
    (next outcome).run self deadline (turn.withWorld world)
  | .reach agent arrival next =>
    match turn.world.handles.find? agent with
    | none => (next false).run self deadline turn
    | some number => (next true).run self deadline (turn.withWorld (turn.world.arrive number arrival))
  | .note entry next => next.run self deadline (turn.withWorld (turn.world.log (.note entry)))
  | .await gate next =>
    if turn.world.openGates.contains gate then next.run self deadline turn
    else .blocked turn (.gate gate) next
  | .sleep milliseconds next =>
    let moment := turn.world.clock + milliseconds
    if deadline.all (moment ≤ ·) then
      next.run self deadline (turn.withWorld { turn.world with clock := moment })
    else .blocked turn (.time moment) next

/-! ## The sense stage -/

/-- Drop the goals that hold, clearing their flags. A panic leaves the goal it came from and those
behind it in place. -/
def sweepGoals (contexts : Contexts V.Object) :
    Pursuit → List (GoalHandle V) → List (GoalHandle V) × Pursuit × Option Panic
  | pursuit, [] => ([], pursuit, none)
  | pursuit, handle :: rest =>
    match V.holds handle.goal contexts with
    | .error panic => (handle :: rest, pursuit, some panic)
    | .ok true => sweepGoals contexts (pursuit.set handle.id false) rest
    | .ok false =>
      let (kept, pursuit, panic) := sweepGoals contexts pursuit rest
      (handle :: kept, pursuit, panic)

/-- The plans that hits make active. -/
def activated (hits : List (Hit V)) : List (ActivePlan V) :=
  hits.map fun hit => ActivePlan.instantiated hit.plan hit.trigger

namespace World

/-- Match the triggers of one category: first with the interceptors, then what is left with the
schemes. The plans become active in the order of the hits, unless a predicate panics. -/
def senseTriggers (world : World V) (number : BirthNumber) (category : Category)
    (triggers : List (Trigger V)) : World V × Option Panic :=
  let agent := world.agent number
  let scan :=
    scanInterceptors agent.view world.pursuit triggers (agent.interceptors.get category)
  let world := { world with pursuit := scan.pursuit }
  let world := world.modifyAgent number fun agent =>
    { agent with interceptors := agent.interceptors.set category scan.interceptors }
  match scan.broken with
  | some panic => (world, some panic)
  | none =>
    let found := matchSchemes agent.view world.pursuit scan.triggers (agent.schemes.get category)
    let world := { world with pursuit := found.pursuit }
    let world := world.modifyAgent number fun agent =>
      { agent with schemes := agent.schemes.set category found.schemes }
    match found.broken with
    | some panic => (world, some panic)
    | none =>
      (world.modifyAgent number fun agent =>
        { agent with plans := agent.plans ++ activated (scan.hits ++ found.hits) }, none)

/-- Run sense steps over the drained inbox. A step of the goal category starts from the goals the
agent holds; a step of another category takes the waiting triggers. -/
def sense (number : BirthNumber) : World V → Inbox V → List SenseStep → World V × Option Panic
  | world, _, [] => (world, none)
  | world, inbox, category :: steps =>
    let triggers :=
      if category = .goal then (world.agent number).goals.map .goal else inbox.triggers category
    if triggers.isEmpty then sense number world inbox steps
    else
      match world.senseTriggers number category triggers with
      | (world, some panic) => (world, some panic)
      | (world, none) => sense number world (inbox.without category) steps

end World

/-! ## The act stage -/

/-- What the act stage has gathered so far. -/
structure Act (V : Vocabulary) where
  world : World V
  effects : Effects V
  actions : List V.Action
  executed : Nat

/-- How an act stage comes to a halt. -/
inductive ActHalt (V : Vocabulary) where
  | completed (act : Act V)
  | failed (act : Act V) (cause : PlanError)
  | panicked (world : World V) (cause : Panic)
  | blocked (world : World V) (suspended : Suspended V)

namespace Act

/-- The turn that an execution starts with. -/
def turn (act : Act V) : Turn V := { world := act.world, effects := act.effects, finished := false }

/-- Account for an execution that returned an action: a finished plan is dropped, another one stays
active. -/
def kept (act : Act V) (number : BirthNumber) (active : ActivePlan V) (turn : Turn V)
    (action : Option V.Action) (memory : Nat) : Act V :=
  let world :=
    if turn.finished then
      { turn.world with pursuit := active.release turn.world.pursuit }
    else
      turn.world.modifyAgent number fun agent =>
        { agent with plans := agent.plans ++ [{ active with plan := active.plan.remember memory }] }
  { world, effects := turn.effects, actions := act.actions ++ action.toList,
    executed := act.executed + 1 }

/-- Account for an execution that returned an error: the plan is dropped, those behind it stay
active. -/
def dropped (act : Act V) (number : BirthNumber) (active : ActivePlan V)
    (pending : List (ActivePlan V)) (turn : Turn V) : Act V :=
  let world := { turn.world with pursuit := active.release turn.world.pursuit }
  let world := world.modifyAgent number fun agent =>
    { agent with plans := agent.plans ++ pending }
  { act with world, effects := turn.effects, executed := act.executed + 1 }

/-- Execute plans in order until one fails, panics or waits. -/
def executePlans (number : BirthNumber) (deadline : Option Nat) (steps : List ActStep) :
    List (ActivePlan V) → Act V → ActHalt V
  | [], act => .completed act
  | active :: pending, act =>
    match active.plan.start.run number deadline act.turn with
    | .returned turn (.ok action) memory =>
      executePlans number deadline steps pending (act.kept number active turn action memory)
    | .returned turn (.error cause) _ => .failed (act.dropped number active pending turn) cause
    | .panicked turn cause => .panicked turn.world cause
    | .blocked turn wait rest =>
      .blocked turn.world
        { agent := number, wait, script := rest, finished := turn.finished,
          effects := turn.effects, actions := act.actions,
          stage := .acting active pending steps act.executed }

/-- Run act steps. A step takes all active plans and executes them. -/
def run (number : BirthNumber) (deadline : Option Nat) : List ActStep → Act V → ActHalt V
  | [], act => .completed act
  | .executePlans :: steps, act =>
    let plans := (act.world.agent number).plans
    let world := act.world.modifyAgent number fun agent => { agent with plans := [] }
    match executePlans number deadline steps plans { act with world } with
    | .completed act => run number deadline steps act
    | halt => halt

end Act

/-! ## Whole cycles -/

/-- How a cycle ends. -/
inductive CycleOutcome (V : Vocabulary) where
  /-- The actions in execution order, and whether the agent asks for another cycle. -/
  | acted (actions : List V.Action) (reschedule : Bool)
  | failed (cause : PlanError)
  | panicked (cause : Panic)

/-- How a cycle comes to a halt. -/
inductive CycleHalt (V : Vocabulary) where
  | ended (world : World V) (outcome : CycleOutcome V)
  | blocked (world : World V) (suspended : Suspended V)

namespace World

/-- Apply what the plans of a cycle requested. -/
def applyEffects (world : World V) (number : BirthNumber) (effects : Effects V) : World V :=
  world.modifyAgent number fun agent =>
    let inbox :=
      { agent.inbox with internal := agent.inbox.internal ++ effects.raised.map .internal }
    let agent := effects.goals.foldl Agent.adopt { agent with inbox }
    { agent with
      plans := agent.plans ++ effects.plans.map ActivePlan.detached
      stopping := agent.stopping || effects.stop }

/-- End a cycle after its act stage. The effects are applied also when a plan failed. -/
def conclude (number : BirthNumber) : ActHalt V → CycleHalt V
  | .completed act =>
    let world := act.world.applyEffects number act.effects
    let agent := world.agent number
    .ended world <| .acted act.actions <|
      0 < act.executed || !agent.plans.isEmpty || agent.stopping || !agent.inbox.isEmpty
  | .failed act cause => .ended (act.world.applyEffects number act.effects) (.failed cause)
  | .panicked world cause => .ended world (.panicked cause)
  | .blocked world suspended => .blocked world suspended

/-- Drop all plans and goals, clearing the flags of their goals, and be done. -/
def retire (world : World V) (number : BirthNumber) : World V :=
  let agent := world.agent number
  let pursuit := agent.plans.foldl (fun pursuit active => active.release pursuit) world.pursuit
  let pursuit := agent.goals.foldl (fun pursuit handle => pursuit.set handle.id false) pursuit
  { world with pursuit }.modifyAgent number fun agent =>
    { agent with plans := [], goals := [], done := true }

/-- Execute shutdown plans in order. Errors are passed over and requested effects are dropped. -/
def close (number : BirthNumber) (deadline : Option Nat) :
    List (Plan V) → Effects V → List V.Action → World V → CycleHalt V
  | [], _, actions, world => .ended (world.retire number) (.acted actions false)
  | plan :: pending, effects, actions, world =>
    match plan.start.run number deadline { world, effects, finished := false } with
    | .returned turn (.ok action) _ =>
      close number deadline pending turn.effects (actions ++ action.toList) turn.world
    | .returned turn (.error _) _ => close number deadline pending turn.effects actions turn.world
    | .panicked turn cause => .ended turn.world (.panicked cause)
    | .blocked turn wait rest =>
      .blocked turn.world
        { agent := number, wait, script := rest, finished := turn.finished,
          effects := turn.effects, actions, stage := .closing pending }

/-- Take the inbox, adopt the goals in it and note a requested stop. -/
def drain (world : World V) (number : BirthNumber) : World V × Inbox V :=
  let inbox := (world.agent number).inbox
  (world.modifyAgent number fun agent =>
    let agent := inbox.goals.foldl Agent.adopt { agent with inbox := Inbox.empty }
    { agent with stopping := agent.stopping || inbox.stopRequested }, inbox)

/-- Drop the achieved goals of an agent. -/
def sweep (world : World V) (number : BirthNumber) : World V × Option Panic :=
  let agent := world.agent number
  let (goals, pursuit, panic) := sweepGoals agent.contexts world.pursuit agent.goals
  ({ world with pursuit }.modifyAgent number fun agent => { agent with goals }, panic)

/-- Run the sense and act stages of an agent that is not stopping. -/
def deliberate (world : World V) (number : BirthNumber) (deadline : Option Nat) (inbox : Inbox V) :
    CycleHalt V :=
  match world.sweep number with
  | (world, some panic) => .ended world (.panicked panic)
  | (world, none) =>
    let agent := world.agent number
    match sense number world inbox agent.senseSteps with
    | (world, some panic) => .ended world (.panicked panic)
    | (world, none) =>
      conclude number <| Act.run number deadline agent.actSteps
        { world, effects := Effects.none, actions := [], executed := 0 }

/-- Run one cycle of an agent. -/
def cycle (world : World V) (number : BirthNumber) (deadline : Option Nat) : CycleHalt V :=
  if (world.agent number).done then .ended world (.acted [] false)
  else
    let (world, inbox) := world.drain number
    let agent := world.agent number
    if agent.stopping then
      let world := world.modifyAgent number fun agent => { agent with shutdownPlans := [] }
      world.close number deadline agent.shutdownPlans Effects.none []
    else world.deliberate number deadline inbox

/-- Go on with a cycle that waits. -/
def resume (world : World V) (suspended : Suspended V) (deadline : Option Nat) : CycleHalt V :=
  let number := suspended.agent
  let halt := suspended.script.run number deadline
    { world, effects := suspended.effects, finished := suspended.finished }
  match suspended.stage with
  | .acting active pending steps executed =>
    let act : Act V :=
      { world, effects := suspended.effects, actions := suspended.actions, executed }
    match halt with
    | .returned turn (.ok action) memory =>
      let act := act.kept number active turn action memory
      conclude number <|
        match Act.executePlans number deadline steps pending act with
        | .completed act => Act.run number deadline steps act
        | halt => halt
    | .returned turn (.error cause) _ =>
      conclude number (.failed (act.dropped number active pending turn) cause)
    | .panicked turn cause => .ended turn.world (.panicked cause)
    | .blocked turn wait rest =>
      .blocked turn.world
        { suspended with
          wait, script := rest, finished := turn.finished, effects := turn.effects }
  | .closing pending =>
    match halt with
    | .returned turn (.ok action) _ =>
      turn.world.close number deadline pending turn.effects (suspended.actions ++ action.toList)
    | .returned turn (.error _) _ =>
      turn.world.close number deadline pending turn.effects suspended.actions
    | .panicked turn cause => .ended turn.world (.panicked cause)
    | .blocked turn wait rest =>
      .blocked turn.world
        { suspended with
          wait, script := rest, finished := turn.finished, effects := turn.effects }

end World

end Deliberation
