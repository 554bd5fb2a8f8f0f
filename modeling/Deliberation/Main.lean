import Deliberation.Program

/-!
# The command line

Looks for `cadence-config.yaml` in the working directory, reads the environment, runs the trading
program, and prints its summary or its failure.
-/

open Deliberation

/-- The content of the settings file, if it exists. -/
def settingsFile : IO (Option (List Text.Glyph)) := do
  try
    let bytes ← IO.FS.readBinFile "cadence-config.yaml"
    return some (Text.Glyph.ofBytes bytes.toList)
  catch
    | .noFileOrDirectory .. => return none
    | cause => throw cause

/-- Run the market in the surroundings of the process, and report how that ended. -/
def main : IO UInt32 := do
  let surroundings : Surroundings :=
    { file := ← settingsFile
      poolSize := (← IO.getEnv Settings.poolSizeVariable).map Text.Glyph.ofText
      logFilter := ← IO.getEnv "RUST_LOG" }
  match surroundings.execute tickLimit with
  | none => return 1
  | some outcome =>
    if let some summary := outcome.shown? then IO.println summary.toJson
    if let some report := outcome.report? then IO.eprintln ("Error: " ++ report)
    return UInt32.ofNat outcome.exitCode
