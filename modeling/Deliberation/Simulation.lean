import Deliberation.Platform
import Deliberation.Summary

/-!
# Simulations

A simulation repeats ticks and calls its hooks around them: all `before` hooks, one tick, the
removal of agents that are done, all `after` hooks. It ends when its number of iterations is reached
or a stop was requested, both checked before each tick, or when a tick fails. Then every `finished`
hook is called once, and the executor is shut down.
-/

namespace Deliberation

variable {V : Vocabulary}

/-- What hooks can change. -/
structure Run (V : Vocabulary) where
  world : World V
  stopRequested : Bool

/-- Callbacks around every tick. Hooks with the same identity are the same. -/
structure Hook (V : Vocabulary) where
  identity : Nat
  before : (tick : Nat) → Run V → Run V
  after : (tick : Nat) → TickResults V → Run V → Run V
  finished : (ticks : Nat) → Run V → Run V

/-- A hook that does nothing. -/
def Hook.idle (identity : Nat) : Hook V :=
  { identity, before := fun _ run => run, after := fun _ _ run => run, finished := fun _ run => run }

/-- The wording of a simulation that a tick ended. -/
def simulationFailure (cause : TickError) : String := "tick failed: " ++ cause.message

/-- A simulation before it runs. With zero iterations only a stop ends it. -/
structure Simulation (V : Vocabulary) where
  iterations : Nat
  hooks : List (Hook V)
  stopRequested : Bool

namespace Simulation

/-- A simulation without hooks. -/
def new (iterations : Nat) : Simulation V := { iterations, hooks := [], stopRequested := false }

/-- Add a hook, unless it is registered already. -/
def register (simulation : Simulation V) (hook : Hook V) : Simulation V :=
  if simulation.hooks.any (·.identity == hook.identity) then simulation
  else { simulation with hooks := simulation.hooks ++ [hook] }

/-- Remove a hook; tells whether it was registered. -/
def deregister (simulation : Simulation V) (identity : Nat) : Simulation V × Bool :=
  ({ simulation with hooks := simulation.hooks.filter (·.identity != identity) },
    simulation.hooks.any (·.identity == identity))

/-- The rendering of a simulation. -/
def render (simulation : Simulation V) : String :=
  Text.openRecord "SimulationEngine"
    [("iterations", toString simulation.iterations), ("hooks", toString simulation.hooks.length),
     ("stop", Text.record "StopHandle" [("stop_requested", toString simulation.stopRequested)])]

/-- Call hooks in their order. -/
def callEach (hooks : List (Hook V)) (call : Hook V → Run V → Run V) (run : Run V) : Run V :=
  hooks.foldl (fun run hook => call hook run) run

/-- One iteration: hooks, tick, removal of finished agents, hooks. A failing tick ends it before the
removal. -/
def iterate (hooks : List (Hook V)) (run : Run V) : Option (Run V × Except TickError Unit) := do
  let tick := run.world.executor.tick
  let run := callEach hooks (·.before tick) run
  match ← run.world.tick with
  | (world, .error cause) => some ({ run with world }, .error cause)
  | (world, .ok results) =>
    some (callEach hooks (·.after tick results) { run with world := world.reap.1 }, .ok ())

/-- Repeat iterations until an end condition holds. `limit` bounds the number of iterations that are
tried; there is no answer beyond it. Fewer than 2^64 are taken to run: up to there a count of 64 bits
shows the same number, and then it stands still. -/
def loop (iterations : Nat) (hooks : List (Hook V)) :
    (limit ticksRun : Nat) → Run V → Option (Run V × Except TickError (Nat × EndReason))
  | limit, ticksRun, run =>
    if 0 < iterations ∧ iterations ≤ ticksRun then
      some (run, .ok (ticksRun, .iterationsReached))
    else if run.stopRequested then some (run, .ok (ticksRun, .stopRequested))
    else
      match limit with
      | 0 => none
      | limit + 1 => do
        match ← iterate hooks run with
        | (run, .error cause) => some (run, .error cause)
        | (run, .ok ()) => loop iterations hooks limit (ticksRun + 1) run

/-- Run a simulation to its end, if it has one within `limit` ticks. -/
def run (simulation : Simulation V) (limit : Nat) (world : World V) :
    Option (Run V × Except TickError Summary) := do
  let start : Run V := { world, stopRequested := simulation.stopRequested }
  let (run, outcome) ← loop simulation.iterations simulation.hooks limit 0 start
  let ticks := run.world.executor.tick
  let duration := run.world.executor.lastTickDuration
  let run := callEach simulation.hooks (·.finished ticks) run
  let run := { run with world := run.world.shutDown }
  match outcome with
  | .error cause => some (run, .error cause)
  | .ok (ticksRun, endReason) =>
    some (run, .ok
      { ticksRun, lastTick := if 0 < ticksRun ∧ 0 < ticks then some (ticks - 1) else none,
        lastTickDuration := duration, endReason })

end Simulation

end Deliberation
