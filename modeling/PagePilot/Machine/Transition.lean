import PagePilot.Machine.Reader
/-!
# PagePilot.Machine.Transition

All that can happen to a world, one thing at a time: an act of a task, a message
that is taken, time that passes, a doing of the browser, or a doing of whoever
drives the machine from outside. A run is any sequence of such transitions, so what
holds of all runs holds under every order of turns, the one that
`PagePilot.Machine.Schedule` keeps among them.

Main definitions:

* `Transition` is one thing that happens;
* `World.apply` is what it does; a transition that makes no sense where it comes
  leaves the world as it is;
* `World.run` is a sequence of them.
-/

namespace PagePilot

open Wire

/-- One thing that happens. -/
inductive Transition
  /-- Time passes; those who wait have yet to be told. -/
  | tick (duration : Nat)
  /-- Those who wait are told what time it is. -/
  | serve
  /-- A scope is made, perhaps below another one. -/
  | newScope (parent : Option ScopeId)
  | cancel (scope : ScopeId)
  /-- A task is started. -/
  | spawn (program : Program Outcome)
  /-- A task does one act, or ends. -/
  | step (task : TaskId)
  /-- A task is dropped where it is. -/
  | abort (task : TaskId)
  /-- The browser sends a message. -/
  | inject (message : Json)
  /-- The browser goes away. -/
  | disconnect
  /-- From now on requests of these methods cannot be written, and all others can. -/
  | refuse (methods : List String)
  /-- The reading starts in the background. -/
  | startReading
  /-- The receiver takes what is on the wire. -/
  | receive
  /-- The reader takes a message, or goes on to the end. -/
  | read
  | stopReading
  /-- The events of a session go to a page from now on. -/
  | route (session : Option SessionId) (page : PageKey)
  | unroute (session : Option SessionId)
  | openPage (session : Option SessionId) (frame : Option FrameId)
  | setFrame (page : PageKey) (frame : FrameId)
  /-- Whoever drives the machine lets go of a page. -/
  | dropPage (page : PageKey)
  /-- A task keeps a page alive from now on. -/
  | sharePage (page : PageKey) (task : TaskId)
  /-- An event reaches a page without the connection. -/
  | deliver (page : PageKey) (event : Event)
  /-- A recorder listens on a page. -/
  | listen (page : PageKey) (scope : ScopeId) (recorder : String)
  | arm (page : PageKey) (ctx : Context) (wanted : Event → Bool)
  | armMilestone (page : PageKey) (ctx : Context) (milestone : String)
  /-- A task gets the half of a barrier to wait with. -/
  | giveWait (barrier : BarrierKey) (task : TaskId)
  | release (barrier : BarrierKey)
  /-- Whoever drives the machine lets go of the halves of a barrier that it has. -/
  | dropHalves (barrier : BarrierKey)
  | dropWait (barrier : BarrierKey)
  | dropRelease (barrier : BarrierKey)

namespace World

/-- Makes a scope. -/
def newScope (w : World) (parent : Option ScopeId) : World :=
  { w with
    scopes :=
      match parent with
      | some parent => w.scopes.addChild parent
      | none => w.scopes.addRoot }

/-- What a transition does. -/
def apply (w : World) : Transition → World
  | .tick duration => { w with now := w.now + duration }
  | .serve => { w with served := w.now }
  | .newScope parent => w.newScope parent
  | .cancel scope => w.cancel scope
  | .spawn program => w.spawn program
  | .step task => w.step task
  | .abort task => w.abort task
  | .inject message => w.inject message
  | .disconnect => w.disconnect
  | .refuse methods => { w with refused := methods }
  | .startReading => (w.startReading none).2
  | .receive => w.receive
  | .read => w.read
  | .stopReading => w.stopReading
  | .route session page => w.modifyConnection (·.route session page)
  | .unroute session => w.modifyConnection (·.unroute session)
  | .openPage session frame => w.openPage session frame .caller
  | .setFrame page frame => w.modifyPage page fun p => { p with frame := some frame }
  | .dropPage page => w.modifyPage page (·.dropHolder .caller)
  | .sharePage page task =>
      w.modifyPage page fun p => { p with holders := p.holders ++ [.task task] }
  | .deliver page event => w.deliver page event
  | .listen page scope recorder => w.listen page scope (.recorder recorder)
  | .arm page ctx wanted => w.arm page ctx wanted .caller
  | .armMilestone page ctx milestone => w.armMilestone page ctx milestone .caller
  | .giveWait barrier task =>
      w.modifyBarrier barrier fun b => { b with waitHolder := some (.task task) }
  | .release barrier => w.release barrier
  | .dropHalves barrier => w.regrip barrier (·.dropHalves .caller)
  | .dropWait barrier => w.regrip barrier fun b => { b with waitHolder := none }
  | .dropRelease barrier => w.regrip barrier fun b => { b with releaseHolder := none }

/-- What a sequence of transitions does. -/
def run (w : World) (transitions : List Transition) : World :=
  transitions.foldl apply w

end World

end PagePilot
