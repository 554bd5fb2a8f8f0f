import Deliberation.Trigger

/-!
# Plans and what instantiates them

A `Plan` is a stateful computation: a private memory and a step that maps the memory to a `Script`,
which is what one execution does. A script is a program over the operations a plan has: it looks at
the agent and its contexts, requests effects for the next cycle, changes interceptors at once,
sends messages, reaches other agents, writes notes, waits, and ends with a result and the memory
for the next execution.

A `Scheme` maps a trigger to a plan. A rule scheme is a function of the trigger, the agent's view
and the pursuit flags; a one-shot scheme hands its plan out once in its life. An `Interceptor` is a
scheme with an identity that leaves its list when it fires.
-/

namespace Deliberation

/-- Why a message was not delivered. -/
inductive MessengerError where
  | unknownReceiver (receiver : AgentId)
  | encoding (reason : String)
  | notConnected (agent : AgentId)
  deriving DecidableEq, Inhabited

/-- The wording of a delivery error. -/
def MessengerError.message : MessengerError → String
  | .unknownReceiver receiver => "unknown message receiver: " ++ receiver.toText
  | .encoding reason => "message encoding failed: " ++ reason
  | .notConnected agent => "agent " ++ agent.toText ++ " has no messenger attached"

/-- Why the execution of a plan failed. -/
inductive PlanError where
  | failed (reason : String)
  | missingContext (capability : Capability)
  | messenger (cause : MessengerError)
  deriving DecidableEq, Inhabited

/-- The wording of a plan error. -/
def PlanError.message : PlanError → String
  | .failed reason => "plan failed: " ++ reason
  | .missingContext capability => "required context not registered: " ++ capability
  | .messenger cause => "messenger error: " ++ cause.message

/-- What a scheme sees of the agent it works for. -/
structure View (V : Vocabulary) where
  agent : AgentId
  contexts : Contexts V.Object

/-- Something that reaches an agent from outside and wakes it. -/
inductive Arrival (V : Vocabulary) where
  | external (trigger : Trigger V)
  | internal (trigger : Trigger V)
  | message (message : Message)
  | goal (handle : GoalHandle V)
  | stop
  | nudge

mutual

/-- What one execution of a plan does. -/
inductive Script (V : Vocabulary) where
  /-- End with an action, none or an error, and the memory for the next execution. -/
  | done (result : Except PlanError (Option V.Action)) (memory : Nat)
  /-- Break the whole cycle off. -/
  | panic (cause : Panic)
  /-- Mark the plan finished; the agent drops it after this execution. -/
  | finish (next : Script V)
  /-- Ask whether the plan was marked finished during this execution. -/
  | isFinished (next : Bool → Script V)
  /-- Look at the agent and its contexts. -/
  | observe (next : View V → Script V)
  /-- Change the object reachable under a capability, if there is one. -/
  | change (capability : Capability) (update : V.Object → V.Object) (next : Script V)
  /-- Raise an internal trigger, seen from the next cycle on. -/
  | raise (payload : Payload) (next : Script V)
  /-- Adopt a goal at the end of this cycle. -/
  | adoptGoal (handle : GoalHandle V) (next : Script V)
  /-- Adopt a plan at the end of this cycle. -/
  | adoptPlan (plan : Plan V) (next : Script V)
  /-- Ask the agent to stop after this cycle. -/
  | requestStop (next : Script V)
  /-- Take a fresh interceptor identity and make a name stand for it. -/
  | nameInterceptor (name : String) (next : InterceptorId → Script V)
  /-- Ask which interceptor a name stands for. -/
  | interceptorNamed (name : String) (next : Option InterceptorId → Script V)
  /-- Register an interceptor at once. -/
  | addInterceptor (category : Category) (interceptor : Interceptor V) (next : Script V)
  /-- Remove an interceptor at once; tells whether it was registered. -/
  | removeInterceptor (category : Category) (id : InterceptorId) (next : Bool → Script V)
  /-- Send a message through the agent's messenger. -/
  | send (message : Message) (next : Except MessengerError Unit → Script V)
  /-- Let something arrive at the agent that a handle is held for; tells whether there is one. -/
  | reach (agent : AgentId) (arrival : Arrival V) (next : Bool → Script V)
  /-- Write into the journal. -/
  | note (entry : V.Note) (next : Script V)
  /-- Wait until a gate is open. -/
  | await (gate : String) (next : Script V)
  /-- Wait for a number of milliseconds. -/
  | sleep (milliseconds : Nat) (next : Script V)

/-- A computation that advances by one script per execution. -/
inductive Plan (V : Vocabulary) where
  | mk (memory : Nat) (step : Nat → Script V)

/-- A mapping from triggers to plans. -/
inductive Scheme (V : Vocabulary) where
  /-- A function of the pursuit flags, the view and the trigger. -/
  | rule (name : String) (attempt : Pursuit → View V → Trigger V → Except Panic (Option (Plan V)))
  /-- A selection of triggers, and a plan that is handed out for the first one selected. -/
  | oneShot (name : String) (selects : Pursuit → Trigger V → Except Panic Bool)
      (plan : Trigger V → Plan V) (spent : Bool)

/-- A scheme with an identity. A consuming interceptor removes the trigger it fires on, unless that
is a goal. -/
inductive Interceptor (V : Vocabulary) where
  | mk (id : InterceptorId) (consumes : Bool) (scheme : Scheme V)

end

variable {V : Vocabulary}

namespace Plan

/-- The private memory. -/
def memory : Plan V → Nat
  | mk memory _ => memory

/-- What an execution does, given the memory. -/
def step : Plan V → Nat → Script V
  | mk _ step => step

/-- What the next execution does. -/
def start (plan : Plan V) : Script V := plan.step plan.memory

/-- The plan after an execution that left the given memory. -/
def remember (plan : Plan V) (memory : Nat) : Plan V := mk memory plan.step

instance : Inhabited (Plan V) := ⟨mk 0 fun memory => .done (.ok none) memory⟩

end Plan

namespace Scheme

/-- The name of a scheme. -/
def name : Scheme V → String
  | rule name _ => name
  | oneShot name _ _ _ => name

end Scheme

namespace Interceptor

/-- The identity. -/
def id : Interceptor V → InterceptorId
  | mk id _ _ => id

/-- Whether a trigger that is not a goal is removed when this interceptor fires. -/
def consumes : Interceptor V → Bool
  | mk _ consumes _ => consumes

/-- What makes the interceptor fire. -/
def scheme : Interceptor V → Scheme V
  | mk _ _ scheme => scheme

/-- The interceptor with another scheme. -/
def withScheme (interceptor : Interceptor V) (scheme : Scheme V) : Interceptor V :=
  mk interceptor.id interceptor.consumes scheme

end Interceptor

/-- The rendering of an interceptor, given the names of identities. -/
def Interceptor.render (nameOf : InterceptorId → String) (interceptor : Interceptor V) : String :=
  Text.openRecord "TriggerInterceptor"
    [("id", Text.wrapped "InterceptorId" (nameOf interceptor.id)),
     ("consumes_trigger", toString interceptor.consumes)]

/-- A plan an agent owns, with the goal it pursues, if any. -/
structure ActivePlan (V : Vocabulary) where
  plan : Plan V
  goal : Option (GoalHandle V)

namespace ActivePlan

/-- A plan that pursues no goal. -/
def detached (plan : Plan V) : ActivePlan V := { plan, goal := none }

/-- A plan that was instantiated for a trigger. -/
def instantiated (plan : Plan V) (trigger : Trigger V) : ActivePlan V :=
  { plan, goal := trigger.goal? }

/-- Clear the flag of the goal of a plan that is dropped. -/
def release (active : ActivePlan V) (pursuit : Pursuit) : Pursuit :=
  match active.goal with
  | some handle => pursuit.set handle.id false
  | none => pursuit

end ActivePlan

end Deliberation
