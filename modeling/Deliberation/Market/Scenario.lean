import Deliberation.Market.Population

/-!
# Scenarios of trading

A `Scenario` is a population together with what happens to its traders from outside: some are stopped
or killed before the first tick, others after given ticks. Running one writes the results of every
tick into the journal.
-/

namespace Deliberation.Market

/-- Something that happens to the trader with an index after a tick. -/
structure Event where
  tick : Nat
  index : Nat
  deriving DecidableEq, Inhabited

/-- A population and what happens to it. Traders are named by their indices. -/
structure Scenario where
  population : Population
  stopped : List Nat
  killed : List Nat
  killings : List Event
  stops : List Event

/-- Ask a trader to stop if it takes part. -/
def stopTrader (world : World vocabulary) (index : Nat) : World vocabulary :=
  match world.registry.find? (Population.traderId index) with
  | some number => world.arrive number .stop
  | none => world

/-- Kill a trader if it takes part. -/
def killTrader (world : World vocabulary) (index : Nat) : World vocabulary :=
  (world.kill (Population.traderId index)).1

/-- The book of a trader. -/
def bookOf? (world : World vocabulary) (number : BirthNumber) : Option Book :=
  (world.agent number).contexts.find? bookCapability

namespace Scenario

/-- The traders that events after a tick concern. -/
def concerned (events : List Event) (tick : Nat) : List Nat :=
  (events.filter (·.tick == tick)).map Event.index

/-- The hook that writes down every tick, and then kills and stops the traders it concerns. -/
def recorder (scenario : Scenario) (identity : Nat) : Hook vocabulary :=
  { Hook.idle identity with
    after := fun tick results run =>
      let world := run.world.log (.note (.ticked tick results))
      let world := (concerned scenario.killings tick).foldl killTrader world
      { run with world := (concerned scenario.stops tick).foldl stopTrader world } }

/-- The world in which a scenario begins. -/
def start (scenario : Scenario) (settings : ExecutorSettings) : World vocabulary :=
  let world := scenario.population.spawn (World.new settings (.new none))
  scenario.killed.foldl killTrader (scenario.stopped.foldl stopTrader world)

/-- Play a scenario until nothing is left to do or for a number of iterations. `limit` bounds the
number of ticks. -/
def play (scenario : Scenario) (world : World vocabulary) (iterations limit : Nat) :
    Option (Run vocabulary × Except TickError Summary) :=
  let simulation := Simulation.register (Simulation.new iterations) (scenario.recorder 0)
  (simulation.register (idleHook 1)).run limit world

/-- The results of the ticks that were written down. -/
def ticks (world : World vocabulary) : List (Nat × TickResults vocabulary) :=
  world.journal.toList.filterMap fun
    | .note (.ticked tick results) => some (tick, results)
    | _ => none

end Scenario

end Deliberation.Market
