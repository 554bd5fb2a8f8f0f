import Deliberation.Playbook.Command

/-!
# Observers

An observer is a hook as data: it notes every call, requests a stop at given ticks, and lets triggers
arrive at agents of the population. A silent observer does nothing.
-/

namespace Deliberation.Playbook

/-- A trigger for an agent at a tick. -/
structure Appointment where
  tick : Nat
  agent : AgentId
  trigger : Trigger vocabulary

/-- A hook as data. -/
structure Observer where
  name : String
  stopBefore : Option Nat
  stopAfter : Option Nat
  before : List Appointment
  after : List Appointment
  silent : Bool

namespace Observer

/-- Write a note. -/
def noting (entry : Note) (run : Run vocabulary) : Run vocabulary :=
  { run with world := run.world.log (.note entry) }

/-- Keep one appointment. -/
def meet (name : String) (run : Run vocabulary) (appointment : Appointment) : Run vocabulary :=
  match run.world.registry.find? appointment.agent with
  | some number => { run with world := run.world.arrive number (.external appointment.trigger) }
  | none => noting (.absent name) run

/-- What happens at a call after it was noted: a stop, then the appointments of the tick. -/
def act (name : String) (stopAt : Option Nat) (appointments : List Appointment) (tick : Nat)
    (run : Run vocabulary) : Run vocabulary :=
  let run := if stopAt == some tick then { run with stopRequested := true } else run
  (appointments.filter (·.tick == tick)).foldl (meet name) run

/-- The hook that an observer describes. -/
def hook (observer : Observer) (identity : Nat) : Hook vocabulary :=
  if observer.silent then Hook.idle identity
  else
    { identity
      before := fun tick run =>
        act observer.name observer.stopBefore observer.before tick
          (noting (.before observer.name tick run.world.registry.length) run)
      after := fun tick results run =>
        act observer.name observer.stopAfter observer.after tick
          (noting (.after observer.name tick run.world.registry.length results) run)
      finished := fun ticks run =>
        noting (.finished observer.name ticks run.world.executor.isShutDown) run }

/-- Register the hook of an observer a number of times and then deregister it a number of times. Tells
for each deregistration whether the hook was registered. -/
def enroll (observer : Observer) (identity times removals : Nat)
    (simulation : Simulation vocabulary) : Simulation vocabulary × List Bool :=
  let enrolled := (List.range times).foldl
    (fun simulation _ => Simulation.register simulation (observer.hook identity)) simulation
  (List.range removals).foldl
    (fun (simulation, found) _ =>
      let (simulation, wasThere) := Simulation.deregister simulation identity
      (simulation, found ++ [wasThere]))
    (enrolled, [])

end Observer

end Deliberation.Playbook
