import Deliberation.Market.Trading
import Deliberation.Platform

/-!
# Stalls

A `Stall` is a trader apart from any executor together with listeners that it can reach. A cycle of
the stall is a cycle of the trader followed by one cycle of each listener, which notes the messages
that have come to it.
-/

namespace Deliberation.Market

/-- A trader and its listeners. -/
structure Stall where
  world : World vocabulary
  trader : BirthNumber
  listeners : List BirthNumber

namespace Stall

/-- Create an agent that can be reached by messages, and keep it. Only a connected one can send. -/
def enter (world : World vocabulary) (id : AgentId) (design : Design vocabulary)
    (connected : Bool) : World vocabulary × BirthNumber :=
  let (world, number) := world.create id design none connected
  ((world.hold number).register number, number)

/-- A trader without listeners. -/
def new (id : AgentId) (book : Book) (connected : Bool) : Stall :=
  let settings : ExecutorSettings := { poolSize := 1, seed := none, unitTimeout := none }
  let (world, number) := enter (World.new settings (.new none)) id (Market.trader book) connected
  { world, trader := number, listeners := [] }

/-- Add a listener. -/
def listen (stall : Stall) (id : AgentId) : Stall :=
  let (world, number) := enter stall.world id listener false
  { stall with world, listeners := stall.listeners ++ [number] }

/-- Let something reach the trader. -/
def arrive (stall : Stall) (arrival : Arrival vocabulary) : Stall :=
  { stall with world := stall.world.arrive stall.trader arrival }

/-- Run a cycle of an agent. Nothing that these agents do waits. -/
def cycleOf (world : World vocabulary) (number : BirthNumber) :
    World vocabulary × Option (CycleOutcome vocabulary) :=
  match world.cycle number none with
  | .ended world outcome => (world, some outcome)
  | .blocked world _ => (world, none)

/-- Run a cycle of the trader and then one of each listener. -/
def cycle (stall : Stall) : Stall × Option (CycleOutcome vocabulary) :=
  let (world, outcome) := cycleOf stall.world stall.trader
  let world := stall.listeners.foldl (fun world number => (cycleOf world number).1) world
  ({ stall with world }, outcome)

/-- The trader's book. -/
def book? (stall : Stall) : Option Book :=
  (stall.world.agent stall.trader).contexts.find? bookCapability

/-- What the listeners have noted: who saw which message. -/
def heard (stall : Stall) : List (AgentId × Message) :=
  stall.world.journal.toList.filterMap fun
    | .note (.heard listener message) => some (listener, message)
    | _ => none

/-- Forget what has been noted. -/
def silenced (stall : Stall) : Stall := { stall with world := { stall.world with journal := #[] } }

end Stall

end Deliberation.Market
