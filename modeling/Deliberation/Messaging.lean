import Deliberation.World

/-!
# Arrivals and deliveries

`arrive` puts something into an agent's inbox and wakes the agent, which schedules its next cycle.
`deliver` sends a message to the listed receivers, or to every registered agent but the sender; it
tries every receiver and reports the first error. `deliverTo` is the step for one receiver.
-/

namespace Deliberation.World

variable {V : Vocabulary}

/-- Put an agent into the schedule; a former entry under the same identity is replaced. -/
def schedule (world : World V) (number : BirthNumber) : World V :=
  { world with executor :=
      { world.executor with
        schedule := world.executor.schedule.insert (world.agent number).id number } }

/-- Schedule the next cycle of an agent that is not done, if it has a scheduler. -/
def wake (world : World V) (number : BirthNumber) : World V :=
  let agent := world.agent number
  if agent.done then world
  else
    match agent.scheduler with
    | none => world
    | some .executor => world.schedule number
    | some (.recorder _) => world.log (.scheduled agent.id)

/-- Let something arrive at an agent. -/
def arrive (world : World V) (number : BirthNumber) (arrival : Arrival V) : World V :=
  (world.modifyAgent number fun agent => { agent with inbox := agent.inbox.receive arrival }).wake
    number

/-! ## The messenger -/

/-- Change the registrations of the messenger. -/
def withEntries (world : World V) (entries : List (AgentId × BirthNumber)) : World V :=
  { world with messenger := { world.messenger with entries } }

/-- Make an agent reachable for messages. -/
def register (world : World V) (number : BirthNumber) : World V :=
  let id := (world.agent number).id
  match world.messenger.routing with
  | .registry => world.withEntries (AgentIndex.insert id number world.messenger.entries)
  | .roster => world.withEntries (world.messenger.entries ++ [(id, number)])

/-- Make an identity unreachable for messages. -/
def deregister (world : World V) (id : AgentId) : World V :=
  world.withEntries (AgentIndex.erase world.messenger.entries id)

/-- The identities that can be reached by messages. -/
def registered (world : World V) : List AgentId :=
  match world.messenger.routing with
  | .registry => (world.messenger.entries.filter fun (_, number) => world.isAlive number).map (·.1)
  | .roster => world.messenger.entries.map (·.1)

/-- Deliver a message to one receiver. In a registry an unreachable receiver loses its entry, and
the message passes the codec. -/
def deliverTo (world : World V) (receiver : AgentId) (message : Message) :
    World V × Except MessengerError Unit :=
  match world.messenger.routing with
  | .registry =>
    match (AgentIndex.find? world.messenger.entries receiver).filter world.isAlive with
    | none => (world.deregister receiver, .error (.unknownReceiver receiver))
    | some number =>
      match world.messenger.codec with
      | none => (world.arrive number (.message message), .ok ())
      | some codec =>
        match codec.carry message with
        | .ok carried => (world.arrive number (.message carried), .ok ())
        | .error cause => (world, .error (.encoding cause.message))
  | .roster =>
    let world := world.log (.delivering receiver message.content)
    match AgentIndex.find? world.messenger.entries receiver with
    | none => (world, .error (.unknownReceiver receiver))
    | some number => (world.arrive number (.message message), .ok ())

/-- The receivers of a message: the listed ones, or all registered agents but the sender. -/
def receivers (world : World V) (message : Message) : List AgentId :=
  if message.isBroadcast then world.registered.filter (· != message.sender)
  else message.receivers

/-- The first error of two outcomes. -/
def firstError (first second : Except MessengerError Unit) : Except MessengerError Unit :=
  match first with
  | .error cause => .error cause
  | .ok () => second

/-- Deliver a message to each of a list of receivers. -/
def deliverAll (world : World V) (message : Message) :
    List AgentId → World V × Except MessengerError Unit
  | [] => (world, .ok ())
  | receiver :: rest =>
    let (world, outcome) := world.deliverTo receiver message
    let (world, later) := deliverAll world message rest
    (world, firstError outcome later)

/-- Deliver a message to all its receivers; the outcome is the first error, if any. -/
def deliver (world : World V) (message : Message) : World V × Except MessengerError Unit :=
  world.deliverAll message (world.receivers message)

/-- Send a message through the messenger of an agent. -/
def send (world : World V) (number : BirthNumber) (message : Message) :
    World V × Except MessengerError Unit :=
  let agent := world.agent number
  if agent.connected then world.deliver message else (world, .error (.notConnected agent.id))

/-- Whether messages pass a codec on their way. -/
def encodesMessages (world : World V) : Bool :=
  world.messenger.routing == .registry && world.messenger.codec.isSome

/-- The rendering of the messenger counts registrations, also those of agents that are gone. -/
def renderMessenger (world : World V) : String :=
  Text.record "LocalMessenger"
    [("registered", toString world.messenger.entries.length),
     ("encoding", toString world.messenger.codec.isSome)]

end Deliberation.World
