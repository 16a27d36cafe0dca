import PagePilot.Json.Writer
import PagePilot.Machine.World
/-!
# PagePilot.Machine.Delivery

How an event reaches whoever waits for it. A message is taken in at one go: an
answer goes to the request that waits for it, an event to the page of its session
and there to all listeners, in the order of their registration. So a listener
that is registered before a message is taken sees it.
-/

namespace PagePilot

open Wire

namespace World

/-! ### Pages and barriers -/

/-- Opens a page. -/
def openPage (w : World) (session : Option SessionId) (frame : Option FrameId)
    (holder : Holder) : World :=
  { w with
    pages := w.pages ++ [{ session, frame, listeners := .empty, holders := [holder] }] }

/-- Registers a handler on a page under a scope. -/
def listen (w : World) (page : PageKey) (scope : ScopeId) (handler : Handler) : World :=
  w.modifyPage page fun p => { p with listeners := p.listeners.listen w.scopes scope handler }

/-- Arms a barrier on a page for an event: its listener is registered under a
scope of its own below that of the context. Both halves go to `holder`. -/
def arm (w : World) (page : PageKey) (ctx : Context) (wanted : Event → Bool)
    (holder : Holder) : World :=
  let scope := w.scopes.next
  let key := w.barriers.length
  let barrier : Barrier :=
    { scope, ctx, matched := false, waitHolder := some holder, releaseHolder := some holder }
  let w := { w with scopes := w.scopes.addChild ctx.scope, barriers := w.barriers ++ [barrier] }
  w.listen page scope (.barrier key wanted)

/-- Arms a barrier for a milestone of the frame that is current on a page. -/
def armMilestone (w : World) (page : PageKey) (ctx : Context) (milestone : String)
    (holder : Holder) : World :=
  let frame :=
    match w.pages[page]? with
    | some p => p.navigatedFrame
    | none => .unknown
  w.arm page ctx (Event.isMilestone frame milestone) holder

/-- Releases the barriers of which both halves are gone. -/
def releaseAbandoned (w : World) : World :=
  { w with
    scopes := (w.barriers.filter Barrier.abandoned).foldl (fun s b => s.cancel b.scope) w.scopes }

/-- Changes who holds a barrier, and releases it if nobody does any more. -/
def regrip (w : World) (key : BarrierKey) (f : Barrier → Barrier) : World :=
  (w.modifyBarrier key f).releaseAbandoned

/-- Releases a barrier, whoever holds it. -/
def release (w : World) (key : BarrierKey) : World :=
  match w.barriers[key]? with
  | some b => w.cancel b.scope
  | none => w

/-- Lets go of all that somebody holds. -/
def dropHoldings (w : World) (holder : Holder) : World :=
  { w with
    pages := w.pages.map (PageState.dropHolder holder)
    barriers := w.barriers.map (Barrier.dropHalves holder) }.releaseAbandoned

/-! ### Events -/

/-- Calls one handler of a page. -/
def handle (page : PageKey) (event : Event) (handler : Handler) (w : World) : World :=
  match handler with
  | .barrier key wanted =>
      match w.barriers[key]?, wanted event with
      | some b, true =>
          ((w.modifyBarrier key fun b => { b with matched := true }).note (.matched key)).cancel
            b.scope
      | _, _ => w
  | .recorder name => w.note (.heard name event (w.pages[page]?.bind (·.frame)))

/-- Lets a page know of an event: first the page itself, which follows its main
frame, and then those who listen. -/
def deliver (w : World) (page : PageKey) (event : Event) : World :=
  let w :=
    match event.mainFrame? with
    | some frame => w.modifyPage page fun p => { p with frame := some frame }
    | none => w
  match w.pages[page]? with
  | none => w
  | some p =>
      Listeners.callAll (·.scopes) (handle page event) (p.listeners.live w.scopes)
        (w.modifyPage page fun p => { p with listeners := p.listeners.prune w.scopes })

/-! ### Messages -/

/-- Whether a page can still get events. -/
def isAlive (w : World) (page : PageKey) : Bool :=
  match w.pages[page]? with
  | some p => p.alive
  | none => false

/-- Hands an event to the page that its session belongs to. A page that is gone is
forgotten at the first event for it. -/
def hand (w : World) (e : EventMessage) : World :=
  match w.connection.routeOf? e.sessionId with
  | none => w
  | some page =>
      if w.isAlive page then
        (w.note (.handed page e.method e.params)).deliver page (.decode e.method e.params)
      else w.modifyConnection (·.unroute e.sessionId)

/-- The part of the program that speaks of messages. -/
def messageSource : String := "cdpnav_runtime::connection"

/-- The log's record of an answer that nobody waits for. -/
def strayAnswer (id : Nat) : Log.Record :=
  { level := .warn, source := messageSource, message := "Cannot find request to respond"
    fields := [.plain "id" (toString id)] }

/-- Takes an answer in. -/
def answer (w : World) (r : Response) : World :=
  if r.id ∈ w.connection.parked then
    (w.modifyConnection (·.answer r)).note (.answered r.id)
  else w.note (.logged (strayAnswer r.id))

/-- The log's record of a message that is none. -/
def badMessage (cause : DecodeError) (message : Json) : Log.Record :=
  { level := .error, source := messageSource
    message := s!"Failed to parse message: {cause.message} - message: {message.write}"
    fields := [] }

/-- Takes one message in. -/
def take (w : World) (message : Json) : World :=
  match Message.decode message with
  | .ok (.response r) => w.answer r
  | .ok (.event e) => w.hand e
  | .error cause => w.note (.logged (badMessage cause message))

end World

end PagePilot
