import Deliberation.Tick

/-!
# The population of a world

The registry holds the agents that take part. `spawn` creates an agent, connects it and schedules
its first cycle; `kill` takes an agent out and asks it to stop, so that its last cycle runs its
shutdown plans; `reap` takes out agents that have stopped by themselves. A handle keeps an agent
reachable for the outside, whether or not it takes part.
-/

namespace Deliberation

variable {V : Vocabulary}

/-- Why the population was not changed. -/
inductive PlatformError where
  | duplicateAgent (agent : AgentId)
  | unknownAgent (agent : AgentId)
  deriving DecidableEq, Inhabited

/-- The wording of a population error. -/
def PlatformError.message : PlatformError → String
  | duplicateAgent agent => "agent " ++ agent.toText ++ " already exists"
  | unknownAgent agent => "unknown agent: " ++ agent.toText

namespace World

/-- Change the registry. -/
def withRegistry (world : World V) (registry : AgentIndex BirthNumber) : World V :=
  { world with registry }

/-- The agents that take part. -/
def population (world : World V) : List AgentId := world.registry.agents

/-- Create an agent that does not take part yet. -/
def create (world : World V) (id : AgentId) (design : Design V) (scheduler : Option Scheduler)
    (connected : Bool) : World V × BirthNumber :=
  let agent := Agent.ofBlueprint id design.build scheduler connected
  ({ world with agents := world.agents.push agent }, world.agents.size)

/-- Let an agent take part: it can be reached by messages and its first cycle is scheduled. -/
def enlist (world : World V) (number : BirthNumber) : World V :=
  let world := world.register number
  (world.withRegistry (world.registry.insert (world.agent number).id number)).wake number

/-- Create an agent that takes part, unless an agent with its identity does. -/
def spawn (world : World V) (id : AgentId) (design : Design V) :
    World V × Except PlatformError BirthNumber :=
  if world.registry.contains id then (world, .error (.duplicateAgent id))
  else
    let (world, number) := world.create id design (some .executor) true
    (world.enlist number, .ok number)

/-- Take an agent out and ask it to stop. Messages no longer reach it. -/
def kill (world : World V) (id : AgentId) : World V × Except PlatformError Unit :=
  match world.registry.find? id with
  | none => (world, .error (.unknownAgent id))
  | some number =>
    let world := (world.withRegistry (world.registry.erase id)).deregister id
    (world.arrive number .stop, .ok ())

/-- Take out the agents that are done, and tell which ones they were. -/
def reap (world : World V) : World V × List AgentId :=
  let finished :=
    AgentIndex.agents (world.registry.filter fun (_, number) => (world.agent number).done)
  let world := world.withRegistry (finished.foldl AgentIndex.erase world.registry)
  (finished.foldl deregister world, finished)

/-! ## Handles -/

/-- Hold a handle for an agent; a former one under its identity is dropped. -/
def hold (world : World V) (number : BirthNumber) : World V :=
  { world with handles := world.handles.insert (world.agent number).id number }

/-- Drop a handle. -/
def forget (world : World V) (id : AgentId) : World V :=
  { world with handles := world.handles.erase id }

/-! ## Renderings -/

/-- The rendering counts the agents that take part. -/
def renderPlatform (world : World V) : String :=
  Text.openRecord "Platform"
    [("executor", world.executor.render), ("agents", toString world.registry.length)]

/-- The rendering of an agent's next cycle. -/
def renderUnit (agent : AgentId) : String :=
  Text.record "DeliberationRunnable" [("agent_id", agent.render)]

end World

end Deliberation
