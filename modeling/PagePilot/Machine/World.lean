import PagePilot.Files
import PagePilot.Listeners.Basic
import PagePilot.Machine.Program
import PagePilot.Wire.Event
/-!
# PagePilot.Machine.World

Everything that programs act on: the clock, the scopes, the connection with what
comes in on it, pages, barriers, tasks, files and the network. Pages, barriers
and tasks are numbered in the order of their making, and none is ever taken
away; one that is gone has nobody who holds it, or has ended.

All that happens is noted in `trace`, which only grows.
-/

namespace PagePilot

open Wire

/-! ### Barriers -/

/-- Who keeps a thing alive. -/
inductive Holder
  /-- Whoever drives the machine from outside. -/
  | caller
  | task (id : TaskId)
deriving Repr, DecidableEq

/-- A wait for an event that was prepared before the event can come. It has two
halves, one to wait with and one to release with, and it is released when both
are let go. -/
structure Barrier where
  /-- The scope of its listener; it is cancelled by the match and by the release. -/
  scope : ScopeId
  /-- What governs the wait. -/
  ctx : Context
  matched : Bool
  waitHolder : Option Holder
  releaseHolder : Option Holder
deriving Repr

namespace Barrier

/-- Whether both halves are gone. -/
def abandoned (b : Barrier) : Bool :=
  b.waitHolder.isNone && b.releaseHolder.isNone

/-- Lets go of the halves that somebody holds. -/
def dropHalves (holder : Holder) (b : Barrier) : Barrier :=
  { b with
    waitHolder := b.waitHolder.filter (· ≠ holder)
    releaseHolder := b.releaseHolder.filter (· ≠ holder) }

end Barrier

/-! ### Pages -/

/-- What is done with an event on a page. -/
inductive Handler
  /-- Matches a barrier if the event is the one it waits for. -/
  | barrier (key : BarrierKey) (wanted : Event → Bool)
  /-- Notes the event under a name. -/
  | recorder (name : String)

/-- What is known of a page: the session its commands go to, the frame that was last
reported as the main one, who listens, and who keeps the page. -/
structure PageState where
  session : Option SessionId
  frame : Option FrameId
  listeners : Listeners Handler
  holders : List Holder

namespace PageState

/-- Whether anybody still holds the page. -/
def alive (p : PageState) : Bool :=
  !p.holders.isEmpty

/-- The frame that a navigation started now would load into. While none is known
it is the unknown frame, whose id is empty. -/
def navigatedFrame (p : PageState) : FrameId :=
  p.frame.getD .unknown

/-- Lets go of a page. -/
def dropHolder (holder : Holder) (p : PageState) : PageState :=
  { p with holders := p.holders.filter (· ≠ holder) }

end PageState

/-! ### Tasks -/

/-- A task: a program with what is left of it to do, or its end. -/
inductive Task
  | running (rest : Program Outcome)
  | ended (outcome : Outcome)
  /-- It was dropped where it was. -/
  | aborted

namespace Task

/-- Whether there is something left to do. -/
def isRunning : Task → Bool
  | .running _ => true
  | _ => false

/-- What the task ended with. -/
def outcome? : Task → Option Outcome
  | .ended outcome => some outcome
  | _ => none

end Task

/-! ### Reading -/

/-- How far the reading of messages has come. -/
inductive Reading
  | notStarted
  /-- Messages are taken one by one, on behalf of a task if it is not done in the
  background. -/
  | running (owner : Option TaskId)
  /-- The last message is taken and the connection marked as closed; the waiting
  requests are still to be given up. -/
  | closing
  | ended
  /-- Somebody stopped it; nothing is taken any more, and nothing else happens. -/
  | stopped
deriving Repr, DecidableEq

/-- What becomes of the reading when a task is gone: it stops if it was done on behalf
of the task. -/
def Reading.without (task : TaskId) : Reading → Reading
  | .running (some owner) => if owner = task then .stopped else .running (some owner)
  | reading => reading

/-- What comes in. A message goes from the wire, where the browser has put it, to
the inbox by one turn of the receiver, and from there to whom it concerns. -/
structure Inbound where
  wire : List Json
  /-- Whether the browser is still there. -/
  wireOpen : Bool
  /-- Whether the receiver is at work. -/
  receiving : Bool
  inbox : List Json
  /-- Whether the receiver may still put something into the inbox. -/
  inboxOpen : Bool
  reading : Reading
deriving Repr

/-- Nothing came in, and nobody reads. -/
def Inbound.fresh : Inbound :=
  { wire := [], wireOpen := true, receiving := false, inbox := [], inboxOpen := true,
    reading := .notStarted }

/-! ### The trace -/

/-- Something that happened. -/
inductive Occurrence
  /-- A task wrote a request. -/
  | wrote (task : TaskId) (request : Request)
  /-- An answer was given to a request that waited for it. -/
  | answered (id : Nat)
  /-- An event was handed to a page. -/
  | handed (page : PageKey) (method : String) (params : Json)
  /-- A recorder noted an event, when the page had the given frame. -/
  | heard (recorder : String) (event : Event) (frame : Option FrameId)
  /-- A barrier was matched. -/
  | matched (barrier : BarrierKey)
  /-- A task wrote to the output. -/
  | printed (task : TaskId) (text : String)
  | logged (record : Log.Record)
  /-- A server was asked for a path, and answered. -/
  | visited (path : String)

/-! ### The world -/

/-- All that programs act on. -/
structure World where
  /-- What time it is. -/
  now : Nat
  /-- The time up to which those who wait have been told. -/
  served : Nat
  scopes : Scopes
  connection : Connection
  inbound : Inbound
  /-- The methods whose requests cannot be written. -/
  refused : List String
  pages : List PageState
  barriers : List Barrier
  tasks : List Task
  files : Files
  network : Network
  trace : List Occurrence

namespace World

/-- Nothing has happened yet. -/
def initial (refused : List String) (network : Network) : World :=
  { now := 0, served := 0, scopes := .empty, connection := .fresh, inbound := .fresh, refused
    pages := [], barriers := [], tasks := [], files := .empty, network, trace := [] }

/-- Notes what happened. -/
def note (w : World) (o : Occurrence) : World :=
  { w with trace := w.trace ++ [o] }

/-- Changes one page. -/
def modifyPage (w : World) (key : PageKey) (f : PageState → PageState) : World :=
  { w with pages := w.pages.modify key f }

/-- Changes one barrier. -/
def modifyBarrier (w : World) (key : BarrierKey) (f : Barrier → Barrier) : World :=
  { w with barriers := w.barriers.modify key f }

/-- Changes the connection. -/
def modifyConnection (w : World) (f : Connection → Connection) : World :=
  { w with connection := f w.connection }

/-- Cancels a scope. -/
def cancel (w : World) (scope : ScopeId) : World :=
  { w with scopes := w.scopes.cancel scope }

/-- Why a context has ended by now, if it has. -/
def endOf (w : World) (ctx : Context) : Option Error :=
  ctx.errorAt w.scopes w.now

/-- Why a context has ended, as far as those who wait have been told. -/
def toldEndOf (w : World) (ctx : Context) : Option Error :=
  ctx.errorAt w.scopes w.served

end World

end PagePilot
