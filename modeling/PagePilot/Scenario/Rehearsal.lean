import PagePilot.Scenario.Run
/-!
# PagePilot.Scenario.Rehearsal

A rehearsal runs one invocation on its own, against a network and a browser that
answers by a script. Time passes only when nobody can go on: then the deadline of
the invocation comes, if it has one.
-/

namespace PagePilot.Scenario

open Wire

/-- What an invocation left behind. -/
structure Rehearsal where
  /-- How it ended; `none` when it waits for ever. -/
  result : Option (Except CommandError Unit)
  printed : String
  logged : List Log.Record
  /-- The paths that servers were asked for. -/
  visited : List String
  /-- What was written to the browser. -/
  requests : List Request
  files : Files

namespace Rehearsal

/-- The name of the only task. -/
def taskName : String := "invocation"

/-- The records in a trace. -/
def loggedIn (trace : List Occurrence) : List Log.Record :=
  trace.filterMap fun
    | .logged record => some record
    | _ => none

/-- The paths in a trace. -/
def visitedIn (trace : List Occurrence) : List String :=
  trace.filterMap fun
    | .visited path => some path
    | _ => none

/-- How the task ended. -/
def resultOf (w : World) (task : TaskId) : Option (Except CommandError Unit) :=
  match (w.tasks[task]?).bind Task.outcome? with
  | some (.invocation result) => some result
  | _ => none

/-- Runs to rest with all answers of the browser. -/
def rest (start : Nat) (s : State) : State :=
  settleWithAnswers (repliesLeft s + 1) start s

/-- Lets the deadline come, if there is one and it is still awaited. -/
def expire (deadline : Option Nat) (s : State) : State :=
  match deadline with
  | some time =>
      if s.world.tasks.any Task.isRunning then
        rest s.world.trace.length (s.advance (time - s.world.now))
      else s
  | none => s

/-- Runs `program` under a context with a timeout. -/
def run (network : Network) (replies : Replies) (timeout : Nat)
    (program : Context → CommandOp Unit) : Rehearsal :=
  let s : State :=
    .initial { reading := false, refused := [], replies, endpoint := none, network }
  let ctx : Context :=
    { scope := s.world.scopes.next, deadline := Invocation.deadline timeout s.world.now }
  let task := s.world.tasks.length
  let s := (s.apply (.newScope none)).spawn taskName (program ctx).task
  let w := (expire ctx.deadline (rest 0 s)).world
  { result := resultOf w task
    printed := printedBy w task
    logged := loggedIn w.trace
    visited := visitedIn w.trace
    requests := written w 0
    files := w.files }

end Rehearsal

end PagePilot.Scenario
