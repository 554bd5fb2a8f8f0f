import Deliberation.AgentIndex
import Deliberation.Blueprint
import Deliberation.Codec
import Deliberation.Random

/-!
# The state of a simulation

A `World` holds everything a run can change. Agents are kept by birth number, because two agents may
carry the same identity at different times; the registry, the schedule, the messenger and the held
handles refer to agents by birth number and are keyed by identity.

A cycle that outlives its deadline is kept as an `Abandoned` cycle: what it still has to do, and what
it waits for.
-/

namespace Deliberation

variable {V : Vocabulary}

/-- The number of agents that were created before an agent. -/
abbrev BirthNumber := Nat

/-! ## Agents -/

/-- What has arrived at an agent since its last cycle. -/
structure Inbox (V : Vocabulary) where
  external : List (Trigger V)
  internal : List (Trigger V)
  messages : List (Trigger V)
  goals : List (GoalHandle V)
  stopRequested : Bool

namespace Inbox

/-- Nothing has arrived. -/
def empty : Inbox V :=
  { external := [], internal := [], messages := [], goals := [], stopRequested := false }

/-- Whether nothing has arrived. -/
def isEmpty (inbox : Inbox V) : Bool :=
  inbox.external.isEmpty && inbox.internal.isEmpty && inbox.messages.isEmpty &&
    inbox.goals.isEmpty && !inbox.stopRequested

/-- The waiting triggers of a category. Goals wait to be adopted and are no triggers yet. -/
def triggers (inbox : Inbox V) : Category → List (Trigger V)
  | .goal => []
  | .external => inbox.external
  | .internal => inbox.internal
  | .message => inbox.messages

/-- The inbox without the waiting triggers of a category. -/
def without (inbox : Inbox V) : Category → Inbox V
  | .goal => inbox
  | .external => { inbox with external := [] }
  | .internal => { inbox with internal := [] }
  | .message => { inbox with messages := [] }

/-- Put an arrival behind the others of its kind. -/
def receive (inbox : Inbox V) : Arrival V → Inbox V
  | .external trigger => { inbox with external := inbox.external ++ [trigger] }
  | .internal trigger => { inbox with internal := inbox.internal ++ [trigger] }
  | .message message => { inbox with messages := inbox.messages ++ [.message message] }
  | .goal handle => { inbox with goals := inbox.goals ++ [handle] }
  | .stop => { inbox with stopRequested := true }
  | .nudge => inbox

end Inbox

/-- How an agent asks for its next cycle. -/
inductive Scheduler where
  /-- Through the executor of the world. -/
  | executor
  /-- Through a recorder, which journals each request and accepts or refuses it. -/
  | recorder (accepts : Bool)
  deriving DecidableEq, Inhabited

/-- An agent. -/
structure Agent (V : Vocabulary) where
  id : AgentId
  schemes : PerCategory (List (Scheme V))
  contexts : Contexts V.Object
  senseSteps : List SenseStep
  actSteps : List ActStep
  scheduler : Option Scheduler
  connected : Bool
  inbox : Inbox V
  goals : List (GoalHandle V)
  plans : List (ActivePlan V)
  interceptors : Interceptors V
  shutdownPlans : List (Plan V)
  stopping : Bool
  done : Bool

namespace Agent

/-- A new agent. -/
def ofBlueprint (id : AgentId) (blueprint : Blueprint V) (scheduler : Option Scheduler)
    (connected : Bool) : Agent V :=
  { id, schemes := blueprint.schemes, contexts := blueprint.contexts,
    senseSteps := blueprint.senseSteps, actSteps := blueprint.actSteps, scheduler, connected,
    inbox := Inbox.empty, goals := [], plans := blueprint.initialPlans.map ActivePlan.detached,
    interceptors := blueprint.interceptors, shutdownPlans := blueprint.shutdownPlans,
    stopping := false, done := false }

instance : Inhabited (Agent V) := ⟨ofBlueprint default Design.empty.build none false⟩

/-- What schemes see of the agent. -/
def view (agent : Agent V) : View V := { agent := agent.id, contexts := agent.contexts }

/-- Whether the agent holds a goal. -/
def holds (agent : Agent V) (handle : GoalHandle V) : Bool :=
  agent.goals.any fun held => held.id == handle.id

/-- Put a goal behind the others, unless it is held already. -/
def adopt (agent : Agent V) (handle : GoalHandle V) : Agent V :=
  if agent.holds handle then agent else { agent with goals := agent.goals ++ [handle] }

/-- Whether another cycle would have anything to do. -/
def hasPendingWork (agent : Agent V) : Bool :=
  !agent.done && (agent.stopping || !agent.plans.isEmpty || !agent.inbox.isEmpty)

/-- The rendering shows identity, schemes and contexts. -/
def render (agent : Agent V) : String :=
  Text.openRecord "Agent"
    [("id", agent.id.render), ("scheme_base", renderSchemes agent.schemes),
     ("contexts", agent.contexts.render)]

/-- The rendering of what an agent is connected to. -/
def renderWiring (agent : Agent V) : String :=
  Text.record "AgentWiring"
    [("scheduler", toString agent.scheduler.isSome), ("messenger", toString agent.connected)]

end Agent

/-! ## Cycles that are under way -/

/-- What plans have requested for the end of the cycle. -/
structure Effects (V : Vocabulary) where
  raised : List Payload
  goals : List (GoalHandle V)
  plans : List (Plan V)
  stop : Bool

/-- Nothing is requested. -/
def Effects.none : Effects V := { raised := [], goals := [], plans := [], stop := false }

/-- What a script waits for. -/
inductive Wait where
  | gate (name : String)
  | time (moment : Nat)
  deriving DecidableEq, Inhabited

/-- Where a cycle stands when one of its scripts waits. -/
inductive Stage (V : Vocabulary) where
  /-- A plan is being executed; `pending` plans of this step and further `steps` follow. -/
  | acting (active : ActivePlan V) (pending : List (ActivePlan V)) (steps : List ActStep)
      (executed : Nat)
  /-- A shutdown plan is being executed; `pending` ones follow. -/
  | closing (pending : List (Plan V))

/-- A cycle that waits. -/
structure Suspended (V : Vocabulary) where
  agent : BirthNumber
  wait : Wait
  script : Script V
  finished : Bool
  effects : Effects V
  actions : List V.Action
  stage : Stage V

/-- A cycle whose deadline passed while it was waiting. It keeps its worker. -/
structure Abandoned (V : Vocabulary) where
  id : AgentId
  cycle : Suspended V

/-! ## Executor and messenger -/

/-- The schedule and the workers. `tick` is the number of ticks that have run. Fewer than 2^64 are
taken to have run: up to there a counter of 64 bits shows the same number, and then it comes round. -/
structure Executor (V : Vocabulary) where
  poolSize : Nat
  unitTimeout : Option Nat
  random : Option Generator
  schedule : AgentIndex BirthNumber
  tick : Nat
  lastTickDuration : Nat
  isShutDown : Bool
  abandoned : List (Abandoned V)

/-- The settings of an executor. -/
structure ExecutorSettings where
  poolSize : Nat
  seed : Option Nat
  unitTimeout : Option Nat
  deriving DecidableEq, Inhabited

/-- Why an executor could not be created: the system refused it threads. -/
structure PoolError where
  cause : String
  deriving DecidableEq, Inhabited

/-- The wording of an executor that could not be created. -/
def PoolError.message (error : PoolError) : String :=
  "failed to build worker pool: " ++ error.cause

namespace Executor

/-- An executor without agents. It has at least one worker. -/
def new (settings : ExecutorSettings) : Executor V :=
  { poolSize := max settings.poolSize 1, unitTimeout := settings.unitTimeout,
    random := settings.seed.map fun seed => Generator.ofSeed (UInt64.ofNat seed),
    schedule := [], tick := 0, lastTickDuration := 0, isShutDown := false, abandoned := [] }

/-- The largest number of workers that an executor can have. -/
def largestPool : Nat := 0x1FFFFFFFFFFFFFFF

/-- Create an executor. A refusal of threads by the system, if there is one, is an error and comes
first. Asking for more workers than an executor can have panics. -/
def create (settings : ExecutorSettings) (refusal : Option String) :
    Except Panic (Except PoolError (Executor V)) :=
  match refusal with
  | some cause => .ok (.error { cause })
  | none =>
    if largestPool < max settings.poolSize 1 then
      .error (.message s!"an executor may not have more than {largestPool} workers")
    else .ok (.ok (new settings))

/-- Whether a cycle of an agent outlived its deadline and has not returned. -/
def isInFlight (executor : Executor V) (agent : AgentId) : Bool :=
  executor.abandoned.any (·.id == agent)

/-- The rendering shows the counters. -/
def render (executor : Executor V) : String :=
  Text.openRecord "TickExecutor"
    [("pool_size", toString executor.poolSize), ("tick", toString executor.tick),
     ("scheduled", toString executor.schedule.length),
     ("seeded", toString executor.random.isSome)]

end Executor

/-- How messages find their receivers. -/
inductive Routing where
  /-- One registration per identity, which does not keep the agent alive. -/
  | registry
  /-- A list of registrations in their order, which keeps the agents alive and journals each
  delivery. -/
  | roster
  deriving DecidableEq, Inhabited

/-- The registered receivers and the wire between agents. -/
structure Messenger where
  routing : Routing
  codec : Option Codec
  entries : List (AgentId × BirthNumber)

/-- A messenger without receivers that keeps one registration per identity. -/
def Messenger.new (codec : Option Codec) : Messenger :=
  { routing := .registry, codec, entries := [] }

/-- One line of the journal. -/
inductive JournalEntry (V : Vocabulary) where
  /-- A recorder was asked to schedule an agent. -/
  | scheduled (agent : AgentId)
  /-- A roster was asked to deliver a message. -/
  | delivering (receiver : AgentId) (content : String)
  /-- A note of a plan or a hook. -/
  | note (entry : V.Note)

/-! ## The world -/

/-- Everything a run can change. -/
structure World (V : Vocabulary) where
  agents : Array (Agent V)
  pursuit : Pursuit
  executor : Executor V
  messenger : Messenger
  registry : AgentIndex BirthNumber
  handles : AgentIndex BirthNumber
  running : List BirthNumber
  names : NameBook
  journal : Array (JournalEntry V)
  openGates : List String
  clock : Nat

namespace World

/-- A world without agents around an executor and a messenger. -/
def around (executor : Executor V) (messenger : Messenger) : World V :=
  { agents := #[], pursuit := Pursuit.none, executor, messenger, registry := [], handles := [],
    running := [], names := NameBook.empty, journal := #[], openGates := [], clock := 0 }

/-- A world without agents whose executor exists. -/
def new (settings : ExecutorSettings) (messenger : Messenger) : World V :=
  around (Executor.new settings) messenger

/-- Create a world without agents, if its executor can be created. -/
def start (settings : ExecutorSettings) (messenger : Messenger) (refusal : Option String) :
    Except Panic (Except PoolError (World V)) :=
  (Executor.create settings refusal).map fun created => created.map (around · messenger)

/-- The agent with a birth number. -/
def agent (world : World V) (number : BirthNumber) : Agent V := world.agents.getD number default

/-- Change the agent with a birth number. -/
def modifyAgent (world : World V) (number : BirthNumber) (change : Agent V → Agent V) : World V :=
  { world with agents := world.agents.modify number change }

/-- Write a line into the journal. -/
def log (world : World V) (entry : JournalEntry V) : World V :=
  { world with journal := world.journal.push entry }

/-- Whether anything still holds an agent: the registry, a handle, the schedule, a cycle under way,
or a roster. An agent that nothing holds is gone. -/
def isAlive (world : World V) (number : BirthNumber) : Bool :=
  world.registry.values.contains number || world.handles.values.contains number ||
    world.executor.schedule.values.contains number || world.running.contains number ||
    world.executor.abandoned.any (·.cycle.agent == number) ||
    (world.messenger.routing == .roster && world.messenger.entries.any (·.2 == number))

end World

end Deliberation
