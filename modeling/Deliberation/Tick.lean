import Deliberation.Cycle

/-!
# Ticks

`World.tick` takes the whole schedule, lets every scheduled agent run one cycle, and reports one slot
per agent. Agents with more to do are scheduled again, and so is everything that is woken while the
tick runs.

Under a deadline, a cycle that waits too long is abandoned: its slot says so, and it keeps its worker
and its agent until it returns. An agent with an abandoned cycle is not started again; it stays
scheduled. A tick without an answer, because it waits for something that cannot happen while it
runs, is `none`.

`World.runTasks` uses the workers for work that is no cycle.
-/

namespace Deliberation

variable {V : Vocabulary}

/-! ## Reports -/

/-- Why an agent has no actions to show for a tick. -/
inductive AgentFailure where
  | deliberation (agent : AgentId) (cause : PlanError)
  | panicked (cause : Panic)
  | timedOut (milliseconds : Nat)
  | stillRunning
  deriving DecidableEq, Inhabited

/-- The wording of a failed plan, with the agent that executed it. -/
def deliberationMessage (agent : AgentId) (cause : PlanError) : String :=
  "plan execution failed for agent " ++ agent.toText ++ ": " ++ cause.message

/-- The wording of a failure. -/
def AgentFailure.message : AgentFailure → String
  | deliberation agent cause => "deliberation failed: " ++ deliberationMessage agent cause
  | panicked cause => "deliberation panicked: " ++ cause.text
  | timedOut milliseconds => "deliberation exceeded " ++ toString milliseconds ++ " ms"
  | stillRunning => "previous deliberation still running"

/-- What one agent did in a tick: its actions in execution order, or why there are none. -/
abbrev Slot (V : Vocabulary) := Except AgentFailure (List V.Action)

/-- The slots of a tick by agent. -/
abbrev TickResults (V : Vocabulary) := AgentIndex (Slot V)

/-- Why the workers refused or broke off. -/
inductive TickError where
  | shutDown
  | taskPanicked (position : Nat) (cause : Panic)
  deriving DecidableEq, Inhabited

/-- The wording of an executor error. -/
def TickError.message : TickError → String
  | shutDown => "tick executor has been shut down"
  | taskPanicked position cause => "task " ++ toString position ++ " panicked: " ++ cause.text

namespace World

/-! ## Abandoned cycles -/

/-- Change the executor. -/
def modifyExecutor (world : World V) (change : Executor V → Executor V) : World V :=
  { world with executor := change world.executor }

/-- Keep a waiting cycle aside. -/
def abandon (world : World V) (cycle : Suspended V) : World V :=
  let id := (world.agent cycle.agent).id
  world.modifyExecutor fun executor =>
    { executor with abandoned := executor.abandoned ++ [⟨id, cycle⟩] }

/-- Let an abandoned cycle go on. When it returns, its outcome is of no interest any more. -/
def proceed (world : World V) (abandoned : Abandoned V) : World V :=
  match world.resume abandoned.cycle none with
  | .ended world _ =>
    world.modifyExecutor fun executor =>
      { executor with abandoned := executor.abandoned.filter (·.id != abandoned.id) }
  | .blocked world cycle =>
    world.modifyExecutor fun executor =>
      { executor with
        abandoned := executor.abandoned.map fun other =>
          if other.id == abandoned.id then { other with cycle } else other }

/-- The abandoned cycles that wait for a moment, with it, the earliest first. -/
def sleepers (world : World V) : List (Nat × Abandoned V) :=
  (world.executor.abandoned.filterMap fun abandoned =>
    match abandoned.cycle.wait with
    | .time moment => some (moment, abandoned)
    | .gate _ => none).mergeSort fun first second => first.1 ≤ second.1

/-- Let an abandoned cycle that waits for a moment go on at that moment. -/
def awaken (world : World V) (sleeper : Nat × Abandoned V) : World V :=
  { world with clock := max world.clock sleeper.1 }.proceed sleeper.2

/-- Let time pass up to a moment. Cycles that wait for an earlier moment go on in between. -/
def advance (world : World V) (moment : Nat) : World V :=
  let world := (world.sleepers.filter (·.1 ≤ moment)).foldl awaken world
  { world with clock := max world.clock moment }

/-- Open a gate. Cycles that wait at it go on. -/
def openGate (world : World V) (gate : String) : World V :=
  let world := { world with openGates := gate :: world.openGates }
  (world.executor.abandoned.filter (·.cycle.wait == .gate gate)).foldl proceed world

/-- Wait until a worker is free: abandoned cycles hold theirs until they return. A cycle that waits
for a moment returns or comes to a gate, so each step leaves one fewer to wait for. -/
def freeWorkerWithin : (steps : Nat) → World V → Option (World V)
  | steps, world =>
    if world.executor.abandoned.length < world.executor.poolSize then some world
    else
      match steps, world.sleepers with
      | steps + 1, sleeper :: _ => freeWorkerWithin steps (world.awaken sleeper)
      | _, _ => none

/-- Wait until a worker is free. There is no answer when all of them wait at closed gates. -/
def freeWorker (world : World V) : Option (World V) :=
  freeWorkerWithin world.executor.abandoned.length world

/-! ## One unit -/

/-- How a dispatched cycle came out. -/
inductive UnitOutcome (V : Vocabulary) where
  | ended (outcome : CycleOutcome V)
  | timedOut

/-- Run one cycle on a worker. Its deadline counts from its start. -/
def runUnit (world : World V) (number : BirthNumber) : Option (World V × UnitOutcome V) := do
  let world ← world.freeWorker
  let deadline := world.executor.unitTimeout.map (world.clock + ·)
  match world.cycle number deadline, deadline with
  | .ended world outcome, _ => some (world.advance world.clock, .ended outcome)
  | .blocked world suspended, some moment =>
    some ((world.abandon suspended).advance moment, .timedOut)
  | .blocked _ _, none => none

/-- Run one cycle of each agent, one after the other. -/
def runUnits (world : World V) :
    List BirthNumber → Option (World V × List (BirthNumber × UnitOutcome V))
  | [] => some (world, [])
  | number :: rest => do
    let (world, outcome) ← world.runUnit number
    let (world, outcomes) ← runUnits world rest
    some (world, (number, outcome) :: outcomes)

/-- Schedule an agent again under a condition. -/
def requeueIf (world : World V) (number : BirthNumber) (condition : Bool) : World V :=
  if condition then world.schedule number else world

/-- Account for an outcome: whether the agent is scheduled again, and what its slot shows. A cycle
that returned asks for it; after a failure, work that is left asks for it; an abandoned cycle gets no
second one. -/
def report (world : World V) (number : BirthNumber) : UnitOutcome V → World V × Slot V
  | .ended (.acted actions reschedule) => (world.requeueIf number reschedule, .ok actions)
  | .ended (.failed cause) =>
    let agent := world.agent number
    (world.requeueIf number agent.hasPendingWork, .error (.deliberation agent.id cause))
  | .ended (.panicked cause) =>
    (world.requeueIf number (world.agent number).hasPendingWork, .error (.panicked cause))
  | .timedOut => (world, .error (.timedOut (world.executor.unitTimeout.getD 0)))

/-- Account for the outcomes of a tick. -/
def reportAll (world : World V) (results : TickResults V)
    (outcomes : List (BirthNumber × UnitOutcome V)) : World V × TickResults V :=
  outcomes.foldl
    (fun (world, results) (number, outcome) =>
      let (world, slot) := world.report number outcome
      (world, AgentIndex.insert (world.agent number).id slot results))
    (world, results)

/-- Keep agents scheduled whose former cycle has not returned. -/
def deferAll (world : World V) (results : TickResults V) (busy : List BirthNumber) :
    World V × TickResults V :=
  busy.foldl
    (fun (world, results) number =>
      (world.schedule number,
        AgentIndex.insert (world.agent number).id (.error .stillRunning) results))
    (world, results)

/-! ## One tick -/

/-- Take the schedule, in the order of the agents. -/
def takeSchedule (world : World V) : World V × List BirthNumber :=
  (world.modifyExecutor fun executor => { executor with schedule := [] },
    world.executor.schedule.values)

/-- Bring the units of a tick into their dispatch order. The generator of the executor lives on. -/
def dispatchOrder (world : World V) (units : List BirthNumber) : World V × List BirthNumber :=
  match world.executor.random with
  | none => (world, units)
  | some generator =>
    let (units, generator) := shuffle units generator
    (world.modifyExecutor fun executor => { executor with random := some generator }, units)

/-- The dispatch orders of the same units in several ticks. -/
def dispatchOrders (world : World V) (units : List BirthNumber) : Nat → List (List BirthNumber)
  | 0 => []
  | ticks + 1 =>
    let (world, order) := world.dispatchOrder units
    order :: dispatchOrders world units ticks

/-- Run a tick over units in their dispatch order. -/
def tickOver (world : World V) (units : List BirthNumber) : Option (World V × TickResults V) := do
  let started := world.clock
  let isBusy (number : BirthNumber) := world.executor.isInFlight (world.agent number).id
  let world := { world with running := units }
  let (world, outcomes) ← world.runUnits (units.filter (!isBusy ·))
  let (world, results) := world.reportAll [] outcomes
  let (world, results) := world.deferAll results (units.filter isBusy)
  let world := world.modifyExecutor fun executor =>
    { executor with tick := executor.tick + 1, lastTickDuration := world.clock - started }
  some ({ world with running := [] }, results)

/-- Run one tick: every scheduled agent runs one cycle. -/
def tick (world : World V) : Option (World V × Except TickError (TickResults V)) := do
  if world.executor.isShutDown then some (world, .error .shutDown)
  else
    let (world, units) := world.takeSchedule
    let (world, units) := world.dispatchOrder units
    let (world, results) ← world.tickOver units
    some (world, .ok results)

/-- Stop the workers for good. -/
def shutDown (world : World V) : World V :=
  world.modifyExecutor fun executor => { executor with isShutDown := true }

end World

/-! ## Tasks -/

/-- Work that is no cycle. -/
abbrev Task (V : Vocabulary) (α : Type) := World V → World V × Except Panic α

/-- The results in the order of the positions, or the panic at the smallest position. -/
def collectResults {α : Type} : List (Nat × Except Panic α) → Except TickError (List α)
  | [] => .ok []
  | (position, .error cause) :: _ => .error (.taskPanicked position cause)
  | (_, .ok result) :: rest => (collectResults rest).map (result :: ·)

namespace World

/-- Run each of the numbered tasks, in the order in which they complete. -/
def runEach {α : Type} (world : World V) :
    List (Nat × Task V α) → Option (World V × List (Nat × Except Panic α))
  | [] => some (world, [])
  | (position, task) :: rest => do
    let world ← world.freeWorker
    let (world, outcome) := task world
    let (world, outcomes) ← runEach world rest
    some (world, (position, outcome) :: outcomes)

/-- Run numbered tasks on the workers, in the order in which they complete; the results come in the
order of the numbers. -/
def runTasks {α : Type} (world : World V) (tasks : List (Nat × Task V α)) :
    Option (World V × Except TickError (List α)) := do
  if world.executor.isShutDown then some (world, .error .shutDown)
  else
    let (world, outcomes) ← world.runEach tasks
    some (world, collectResults (outcomes.mergeSort fun first second => first.1 ≤ second.1))

end World

end Deliberation
