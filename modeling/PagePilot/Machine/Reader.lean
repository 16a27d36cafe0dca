import PagePilot.Machine.Perform
/-!
# PagePilot.Machine.Reader

Reading from the connection. The receiver takes what is on the wire to the inbox;
the reader takes the messages from the inbox one by one. When the browser is gone
and the inbox is empty, the reader first marks the connection as closed and then
gives up on the requests that still wait. The order of these two matters: a
request that is parked after the second step finds the connection closed when it
looks once more.
-/

namespace PagePilot

namespace World

/-! ### The browser's side -/

/-- The browser sends a message; one that is gone sends nothing. -/
def inject (w : World) (message : Json) : World :=
  if w.inbound.wireOpen then
    { w with inbound := { w.inbound with wire := w.inbound.wire ++ [message] } }
  else w

/-- The browser goes away. What it has sent is still on the wire. -/
def disconnect (w : World) : World :=
  { w with inbound := { w.inbound with wireOpen := false } }

/-! ### The receiver -/

/-- Whether the receiver can do something. -/
def receiverReady (w : World) : Bool :=
  w.inbound.receiving && (!w.inbound.wire.isEmpty || !w.inbound.wireOpen)

/-- One turn of the receiver: it empties the wire, and ends when the browser is
gone. -/
def receive (w : World) : World :=
  if w.inbound.receiving then
    { w with
      inbound :=
        { w.inbound with
          wire := []
          inbox := w.inbound.inbox ++ w.inbound.wire
          inboxOpen := w.inbound.wireOpen
          receiving := w.inbound.wireOpen } }
  else w

/-! ### The reader -/

/-- Puts the reading into another state. -/
def setReading (w : World) (reading : Reading) : World :=
  { w with inbound := { w.inbound with reading } }

/-- Whether the reader can do something. -/
def readerReady (w : World) : Bool :=
  match w.inbound.reading with
  | .running _ => !w.inbound.inbox.isEmpty || !w.inbound.inboxOpen
  | .closing => true
  | _ => false

/-- One step of the reader: takes a message, or goes on to the end if there will be
none any more. -/
def read (w : World) : World :=
  match w.inbound.reading with
  | .running _ =>
      match w.inbound.inbox with
      | message :: rest => { w with inbound := { w.inbound with inbox := rest } }.take message
      | [] =>
          if w.inbound.inboxOpen then w
          else (w.modifyConnection (·.close)).setReading .closing
  | .closing => (w.modifyConnection (·.clear)).setReading .ended
  | _ => w

/-- Stops the reading. The connection is not marked as closed by that, and the
requests that wait go on waiting. -/
def stopReading (w : World) : World :=
  match w.inbound.reading with
  | .ended => w
  | _ => w.setReading .stopped

end World

end PagePilot
