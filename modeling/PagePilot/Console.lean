import PagePilot.CommandLine.Reader
import PagePilot.Log.Filter
import PagePilot.Scenario.Rehearsal
/-!
# PagePilot.Console

The whole program as it is started from a command line: from the words and the
environment to an exit code, the output and the lines of the log.
-/

namespace PagePilot

/-- What a start of the program can depend on, apart from the words. -/
structure Surroundings where
  environment : CommandLine.Environment
  /-- Which records of the log are wanted. -/
  logging : Option String
deriving Repr

namespace Console

/-- What the program prints when it is asked for its version. -/
def versionLine : String := "cdpnav 0.1.0\n"

/-- What is printed when an invocation is not meant to run. -/
def outputFor : UsageError → String
  | .displayVersion => versionLine
  | _ => ""

/-- What a start of the program comes to. -/
structure Ending where
  exitCode : Nat
  output : String
  log : List String
  /-- What was wrong with the words, if anything was. -/
  mistake : Option String
  /-- The rehearsal of the invocation, if the words were understood. -/
  rehearsal : Option Scenario.Rehearsal

/-- The exit code of an invocation; one that waits for ever has none, and counts as
failed. -/
def exitCodeOf : Option (Except CommandError Unit) → Nat
  | some (.ok ()) => 0
  | some (.error e) => e.exitCode
  | none => 1

/-- The lines of the log that an invocation lets pass. More than one wish for more
words shows the sources. -/
def logLines (logging : Option String) (verbose : Nat) (records : List Log.Record) :
    List String :=
  let filter := Log.Filter.choose logging verbose
  (records.filter filter.admits).map (Log.Record.line (1 < verbose))

/-- Runs an invocation. -/
def runInvocation (network : Network) (replies : Scenario.Replies) (logging : Option String)
    (i : Invocation) : Ending :=
  let rehearsal := Scenario.Rehearsal.run network replies i.timeout i.runLogged
  { exitCode := exitCodeOf rehearsal.result
    output := rehearsal.printed
    log := logLines logging i.verbose rehearsal.logged
    mistake := none
    rehearsal := some rehearsal }

/-- Starts the program. -/
def run (network : Network) (replies : Scenario.Replies) (s : Surroundings)
    (words : List String) : Ending :=
  match CommandLine.read s.environment words with
  | .error e =>
      { exitCode := e.exitCode, output := outputFor e, log := [], mistake := e.message?
        rehearsal := none }
  | .ok i => runInvocation network replies s.logging i

end Console

end PagePilot
