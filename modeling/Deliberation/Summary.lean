import Deliberation.Json.Decode
import Deliberation.Json.Writer
import Deliberation.Text.Record
import Deliberation.Word

/-!
# Summaries of simulations

What a simulation reports when it ends, and the JSON form in which a report is kept.
-/

namespace Deliberation

/-- Why a simulation ended. -/
inductive EndReason where
  | iterationsReached
  | stopRequested
  deriving DecidableEq, Inhabited

namespace EndReason

/-- All reasons. -/
def all : List EndReason := [iterationsReached, stopRequested]

/-- The name of a reason. -/
def name : EndReason → String
  | iterationsReached => "IterationsReached"
  | stopRequested => "StopRequested"

/-- The reason that a name names. -/
def ofName? (text : String) : Option EndReason := all.find? (·.name == text)

end EndReason

/-- What a simulation reports when it ends. Durations are in milliseconds. -/
structure Summary where
  ticksRun : Nat
  lastTick : Option Nat
  lastTickDuration : Nat
  endReason : EndReason
  deriving DecidableEq, Inhabited

namespace Summary

/-- The summary in compact JSON. -/
def toJson (summary : Summary) : String :=
  Json.object
    [("ticks_run", toString summary.ticksRun),
     ("last_tick", (summary.lastTick.map toString).getD "null"),
     ("last_tick_duration_ms", toString summary.lastTickDuration),
     ("end_reason", Json.quote summary.endReason.name)]

/-- The rendering shows every field. -/
def render (summary : Summary) : String :=
  Text.record "SimulationSummary"
    [("ticks_run", toString summary.ticksRun),
     ("last_tick", (summary.lastTick.map fun tick => Text.wrapped "Some" (toString tick)).getD "None"),
     ("last_tick_duration_ms", toString summary.lastTickDuration),
     ("end_reason", summary.endReason.name)]

/-- The fields that have been read. -/
structure Fields where
  ticksRun : Option Nat
  lastTick : Option (Option Nat)
  lastTickDuration : Option Nat
  endReason : Option EndReason

/-- Read one field. -/
def readField (fields : Fields) (name : String) (tree : Json.Tree) : Except Json.Fault Fields :=
  match name with
  | "ticks_run" => do
    .ok { fields with ticksRun := ← Json.once fields.ticksRun (Json.natural largestLongWord) tree }
  | "last_tick" => do
    .ok { fields with
      lastTick := ← Json.once fields.lastTick (Json.optional (Json.natural largestLongWord)) tree }
  | "last_tick_duration_ms" => do
    .ok { fields with
      lastTickDuration := ← Json.once fields.lastTickDuration (Json.natural largestLongWord) tree }
  | "end_reason" => do
    .ok { fields with
      endReason := ← Json.once fields.endReason (Json.choice EndReason.ofName?) tree }
  | _ => Json.ignore fields tree

/-- Read a summary. The last tick may be left out. -/
def decode : Json.Decoder Summary := fun tree => do
  let fields ← Json.record ["ticks_run", "last_tick", "last_tick_duration_ms", "end_reason"] false
    readField { ticksRun := none, lastTick := none, lastTickDuration := none, endReason := none } tree
  .ok
    { ticksRun := ← Json.required fields.ticksRun, lastTick := fields.lastTick.getD none,
      lastTickDuration := ← Json.required fields.lastTickDuration,
      endReason := ← Json.required fields.endReason }

end Summary

end Deliberation
