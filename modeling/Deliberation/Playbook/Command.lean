import Deliberation.Playbook.Predicate
import Deliberation.Plan.Combinators

/-!
# Commands and recipes

A `Recipe` writes a plan as lists of commands; `Recipe.plan` is the plan it describes. A list of
commands carries the action emitted last, which is the action of the execution; a command that
fails ends the execution.
-/

namespace Deliberation.Playbook

/-- A message that is still to be sent; without a sender it is sent by the agent itself. -/
structure Draft where
  sender : Option AgentId
  receivers : List AgentId
  content : String
  parameters : List (String × String)
  deriving Inhabited

/-- The message of a draft, for an agent that sends it. -/
def Draft.message (draft : Draft) (self : AgentId) : Message :=
  let message := Message.broadcast (draft.sender.getD self) draft.content
  let message := draft.receivers.foldl Message.addressedTo message
  draft.parameters.foldl (fun message (key, value) => message.withParameter key value) message

/-- A trigger that is still to be made. -/
inductive Cue where
  | external (payload : Payload)
  | internal (payload : Payload)
  | message (draft : Draft)
  | goal (handle : GoalHandle vocabulary)

/-- The trigger of a cue, for an agent that makes it. -/
def Cue.trigger (cue : Cue) (self : AgentId) : Trigger vocabulary :=
  match cue with
  | external payload => .external payload
  | internal payload => .internal payload
  | message draft => .message (draft.message self)
  | goal handle => .goal handle

/-- What a command lets arrive at an agent. -/
inductive Errand where
  | poke (cue : Cue)
  | message (draft : Draft)
  | goal (handle : GoalHandle vocabulary)
  | stop
  | wake

/-- The arrival of an errand, run by an agent. -/
def Errand.arrival (errand : Errand) (self : AgentId) : Arrival vocabulary :=
  match errand with
  | poke cue => .external (cue.trigger self)
  | message draft => .message (draft.message self)
  | goal handle => .goal handle
  | stop => .stop
  | wake => .nudge

/-- The command that an errand comes from. -/
def Errand.name : Errand → String
  | poke _ => "poke"
  | message _ => "message"
  | goal _ => "goal"
  | stop => "stop_agent"
  | wake => "wake"

mutual

/-- One step of an execution. -/
inductive Command where
  | emit (text : String)
  /-- Emit a text with the number of the execution. -/
  | emitNumbered (text : String)
  /-- Emit a text with the description of the trigger. -/
  | emitTrigger (text : String)
  | emitVariable (store : Capability) (variableName : String)
  /-- Emit a parameter of the trigger's message. -/
  | emitParameter (key : String)
  /-- Withdraw what was emitted. -/
  | clear
  | finish
  | log (text : String)
  /-- Note a text with the identity of the agent. -/
  | logAgent (text : String)
  | logFinished
  | logContext (key : ContextKey)
  | logRendering
  | raise (payload : Payload)
  | adoptGoal (handle : GoalHandle vocabulary)
  | adoptPlan (recipe : Recipe)
  | addInterceptor (outline : InterceptorOutline)
  | removeInterceptor (category : Category) (name : String)
  | send (draft : Draft)
  /-- Send a message and note what came of it. -/
  | trySend (draft : Draft)
  | stop
  | setVariable (store : Capability) (variableName : String) (value : Int)
  | addVariable (store : Capability) (variableName : String) (amount : Int)
  | requireContext (capability : Capability)
  | reach (agent : AgentId) (errand : Errand)
  | fail (reason : String)
  | panic (cause : Panic)
  | await (gate : String)
  | sleep (milliseconds : Nat)

/-- A plan as data. -/
inductive Recipe where
  | once (commands : List Command)
  /-- One list per execution; the last one repeats. -/
  | runs (lists : List (List Command))
  | twice (inner : Recipe)

/-- An interceptor as data. -/
inductive InterceptorOutline where
  | plain (name : String) (category : Category) (consumes : Bool) (selects : Predicate)
      (recipe : Recipe)
  /-- An interceptor that removes others when its plan first runs. -/
  | enhanced (name : String) (category : Category) (consumes : Bool) (selects : Predicate)
      (lists : List (List Command)) (removals : List (Category × String))

end

instance : Inhabited Command := ⟨.clear⟩

instance : Inhabited Recipe := ⟨.once []⟩

instance : Inhabited InterceptorOutline := ⟨.plain "" .goal false .never default⟩

/-- The action of two executions in one. -/
def joinActions (first second : Option String) : Option String :=
  some (first.getD "-" ++ "|" ++ second.getD "-")

/-- A plan with one script per execution; the last one repeats. Each is told the number of its
execution. -/
def planOf (scripts : List (Nat → Script vocabulary)) : Plan vocabulary :=
  Plan.repeating fun execution =>
    match scripts[min (execution - 1) (scripts.length - 1)]? with
    | some script => script execution
    | none => .done (.ok none) 0

/-- Ask for the identities that names stand for, in order; unknown names are left out. -/
def resolveRemovals (removals : List (Category × String))
    (next : List (Category × InterceptorId) → Script vocabulary) : Script vocabulary :=
  match removals with
  | [] => next []
  | (category, name) :: rest =>
    .interceptorNamed name fun id? =>
      resolveRemovals rest fun resolved => next ((id?.map (category, ·)).toList ++ resolved)

/-- A rule scheme that hands out a plan for the triggers it selects. -/
def ruleScheme (name : String) (selects : Predicate)
    (plan : Trigger vocabulary → Plan vocabulary) : Scheme vocabulary :=
  .rule name fun pursuit view trigger => do
    if ← selects.test pursuit (some view) trigger then .ok (some (plan trigger)) else .ok none

/-- A one-shot scheme that hands out a plan for the first trigger it selects. It knows nothing about
the agent. -/
def enhancedScheme (name : String) (selects : Predicate)
    (removals : List (Category × InterceptorId)) (plan : Trigger vocabulary → Plan vocabulary) :
    Scheme vocabulary :=
  .enhanced name (fun pursuit trigger => selects.test pursuit none trigger) removals plan

/-- The rendering of what a plan sees. -/
def renderPlanContext (agent : AgentId) (finished : Bool) : String :=
  Text.openRecord "PlanContext" [("agent_id", agent.render), ("finished", toString finished)]

/-- Go on if a capability is registered, and fail otherwise. -/
def requiring (capability : Capability) (next : Script vocabulary) : Script vocabulary :=
  .observe fun view =>
    if view.contexts.contains capability then next
    else .done (.error (.missingContext capability)) 0

mutual

/-- What one command does before the commands behind it, which are given the action emitted last.
`trigger` caused the plan, and `execution` counts its executions from one. -/
def Command.script (trigger : Option (Trigger vocabulary)) (execution : Nat)
    (action : Option String) (next : Option String → Script vocabulary) :
    Command → Script vocabulary
  | .emit text => next (some text)
  | .emitNumbered text => next (some (text ++ toString execution))
  | .emitTrigger text => next (some (text ++ (trigger.map Trigger.describe).getD "-"))
  | .emitVariable store variableName =>
    .observe fun view =>
      match storeAt? view.contexts store with
      | some content =>
        next (some (variableName ++ "=" ++ toString (content.read variableName)))
      | none => .done (.error (.missingContext store)) 0
  | .emitParameter key =>
    next (some (((trigger.bind (·.message?)).bind (·.parameter? key)).getD "-"))
  | .clear => next none
  | .finish => .finish (next action)
  | .log text => .note (.text text) (next action)
  | .logAgent text => .observe fun view => .note (.text (text ++ view.agent.toText)) (next action)
  | .logFinished => .isFinished fun finished => .note (.flag finished) (next action)
  | .logContext key => .observe fun view => .note (.sight (key.look view.contexts)) (next action)
  | .logRendering =>
    .isFinished fun finished => .observe fun view =>
      .note (.text (renderPlanContext view.agent finished)) (next action)
  | .raise payload => .raise payload (next action)
  | .adoptGoal handle => .adoptGoal handle (next action)
  | .adoptPlan recipe => .adoptPlan (recipe.plan none) (next action)
  | .addInterceptor outline => outline.register (next action)
  | .removeInterceptor category name =>
    .interceptorNamed name fun
      | some id => .removeInterceptor category id fun removed =>
        .note (.removal name removed) (next action)
      | none => .note (.removal name false) (next action)
  | .send draft =>
    .observe fun view => .send (draft.message view.agent) fun
      | .ok () => next action
      | .error cause => .done (.error (.messenger cause)) 0
  | .trySend draft =>
    .observe fun view => .send (draft.message view.agent) fun outcome =>
      .note (.sending outcome) (next action)
  | .stop => .requestStop (next action)
  | .setVariable store variableName value =>
    requiring store (.change store (Object.changeStore (·.write variableName value)) (next action))
  | .addVariable store variableName amount =>
    requiring store
      (.change store (Object.changeStore (·.increase variableName amount)) (next action))
  | .requireContext capability => requiring capability (next action)
  | .reach agent errand =>
    .observe fun view => .reach agent (errand.arrival view.agent) fun
      | true => next action
      | false => .note (.missing errand.name) (next action)
  | .fail reason => .done (.error (.failed reason)) 0
  | .panic cause => .panic cause
  | .await gate => .await gate (next action)
  | .sleep milliseconds => .sleep milliseconds (next action)

/-- What commands do, one after the other. -/
def scriptOf (trigger : Option (Trigger vocabulary)) (execution : Nat) (action : Option String) :
    List Command → Script vocabulary
  | [] => .done (.ok action) 0
  | command :: rest =>
    command.script trigger execution action fun action => scriptOf trigger execution action rest

/-- The scripts of several lists of commands, for the number of an execution. -/
def scriptsOf (trigger : Option (Trigger vocabulary)) :
    List (List Command) → List (Nat → Script vocabulary)
  | [] => []
  | commands :: rest =>
    (fun execution => scriptOf trigger execution none commands) :: scriptsOf trigger rest

/-- The plan that a recipe describes, caused by a trigger or by nothing. -/
def Recipe.plan (trigger : Option (Trigger vocabulary)) : Recipe → Plan vocabulary
  | .once commands => Plan.once (scriptOf trigger 1 none commands)
  | .runs lists => planOf (scriptsOf trigger lists)
  | .twice inner => Plan.doubled joinActions (inner.plan trigger)

/-- Create an interceptor and register it. Names to be removed are looked up before the interceptor
takes its own. -/
def InterceptorOutline.register (next : Script vocabulary) :
    InterceptorOutline → Script vocabulary
  | .plain name category consumes selects recipe =>
    .nameInterceptor name fun id =>
      .addInterceptor category
        (.mk id consumes (ruleScheme name selects fun trigger => recipe.plan (some trigger))) next
  | .enhanced name category consumes selects lists removals =>
    resolveRemovals removals fun removals =>
      .nameInterceptor name fun id =>
        .addInterceptor category
          (.mk id consumes (enhancedScheme name selects removals fun trigger =>
            planOf (scriptsOf (some trigger) lists))) next

end

end Deliberation.Playbook
