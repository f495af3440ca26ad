import MetricsGateway.Process.Launch

/-!
The command line: a launch on this machine, rehearsed to its end.
-/

open MetricsGateway

/-- What a launch meets here. Nothing is opened: every port but a chosen one is free, and the
launch is ended by a signal once it listens. -/
def machine : IO Machine := do
  let debug ← IO.getEnv "DEBUG"
  let profile ← IO.getEnv "PROFILE"
  let logFilter ← IO.getEnv "RUST_LOG"
  pure ⟨.ofVariables debug profile, logFilter, .ok 1, ⟨[], 40000⟩, .terminate⟩

def main (arguments : List String) : IO UInt32 := do
  let m ← machine
  let launch := Launch.run m arguments
  for line in launch.lines m do
    IO.println line
  unless launch.complaint.isEmpty do
    IO.eprintln launch.complaint
  pure (UInt32.ofNat launch.status)
