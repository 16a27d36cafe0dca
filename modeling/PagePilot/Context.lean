import PagePilot.Error
import PagePilot.Scope
/-!
# PagePilot.Context

The context that governs a command: a scope that can be cancelled, and perhaps a
deadline. Time is counted in milliseconds.

There are two readings of the clock. A check made in passing compares the
deadline with the time that it is now. A task that waits learns of a deadline
only when the timers are served, and `served` is the time up to which that has
happened; it never runs ahead of the clock.
-/

namespace PagePilot

/-- What governs a command. -/
structure Context where
  scope : ScopeId
  deadline : Option Nat
deriving Repr, DecidableEq, Inhabited

namespace Context

/-- Whether a deadline lies at or before a time. -/
def passed (deadline : Option Nat) (time : Nat) : Bool :=
  match deadline with
  | some d => d ≤ time
  | none => false

/-- Why the context has ended at a time, if it has. A cancellation goes before a
deadline. -/
def errorAt (ctx : Context) (scopes : Scopes) (time : Nat) : Option Error :=
  if scopes.isCancelled ctx.scope then some .cancelled
  else if passed ctx.deadline time then some .deadlineExceeded
  else none

/-- The earlier of a deadline and a time. -/
def earliest (deadline : Option Nat) (time : Nat) : Nat :=
  match deadline with
  | some d => min d time
  | none => time

/-- The deadline of a context derived with a timeout of its own. -/
def derivedDeadline (deadline : Option Nat) (now : Nat) : Option Nat → Option Nat
  | none => deadline
  | some timeout => some (earliest deadline (now + timeout))

end Context

end PagePilot
