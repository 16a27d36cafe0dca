import PagePilot.Console
/-!
# PagePilot.Main

Reads the words and the environment, runs the program, and passes on what it
leaves behind. There is no socket behind this command line: whatever it is told to
connect to cannot be reached, and a command that needs a browser reports just that.
-/

/-- What this start of the program depends on. -/
def PagePilot.Surroundings.ofProcess : IO Surroundings := do
  return { environment :=
             { endpoint := ← IO.getEnv "CDPNAV_ENDPOINT"
               timeout := ← IO.getEnv "CDPNAV_TIMEOUT_MS" }
           logging := ← IO.getEnv "RUST_LOG" }

open PagePilot

/-- Starts the program with the words of the command line. -/
def main (words : List String) : IO UInt32 := do
  let ending := Console.run .none [] (← Surroundings.ofProcess) words
  IO.print ending.output
  for line in ending.log do
    IO.eprintln line
  if let some mistake := ending.mistake then
    IO.eprintln s!"error: {mistake}"
  return ending.exitCode.toUInt32
