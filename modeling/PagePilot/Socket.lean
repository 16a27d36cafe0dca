import PagePilot.Error
import PagePilot.Json.Reader
import PagePilot.Json.Writer
import PagePilot.Network
/-!
# PagePilot.Socket

What goes over the socket of a browser. The program sends each message as one
text; what comes in are frames, of which only those that read as JSON are
messages. Anything else is dropped, so it cannot disturb what the messages say.

Main definitions:

* `Socket.Frame.message?` is the message that a frame carries, if it carries one;
* `Socket.read` goes through frames until the socket is closed, breaks, or nobody
  takes the messages any more;
* `Socket.exchange` is a whole exchange with a peer that first listens and then
  speaks.
-/

namespace PagePilot.Socket

/-! ### Frames -/

/-- What a peer sends at one go. -/
inductive Frame
  | text (content : String)
  | binary (bytes : List UInt8)
  | ping (payload : List UInt8)
  | pong (payload : List UInt8)
  /-- The peer closes the socket. -/
  | close
  /-- The line breaks, and nothing was closed. -/
  | cut
deriving Repr, DecidableEq

/-- The message that a frame carries. -/
def Frame.message? : Frame → Option Json
  | .text content => (Json.read content).toOption
  | .binary bytes => do
      let content ← String.fromUTF8? ⟨bytes.toArray⟩
      (Json.read content).toOption
  | .ping _ | .pong _ | .close | .cut => none

/-- Why a socket could not be had, as an error of the program. -/
def refused (url : String) (refusal : Network.Refusal) : Error :=
  .transport s!"Failed to connect to {url}: {refusal.message}"

/-! ### Reading -/

/-- How the reading came to its end. -/
inductive Ending
  | closed
  | broken
  /-- There was a message, and nobody to take it. -/
  | unheard
deriving Repr, DecidableEq

/-- What the reading ends with. -/
def Ending.result : Ending → Except Error Unit
  | .closed | .unheard => .ok ()
  | .broken =>
      .error <| .transport <|
        "Failed to read message: WebSocket protocol error: "
          ++ "Connection reset without closing handshake"

/-- What becomes of a message that is sent when the reading has ended. -/
def Ending.sending : Ending → Except Error Unit
  | .closed =>
      .error <| .transport <|
        "Failed to send message: WebSocket protocol error: "
          ++ "Sending after closing is not allowed"
  | .broken => .error (.transport "Failed to send message: Trying to work with closed connection")
  | .unheard => .ok ()

/-- The messages in frames, and how the reading ended. Frames behind a close are not
seen, and a peer that sends no more has broken the line. -/
def read (heard : Bool) : List Frame → List Json × Ending
  | [] => ([], .broken)
  | .close :: _ => ([], .closed)
  | .cut :: _ => ([], .broken)
  | frame :: rest =>
      match frame.message? with
      | none => read heard rest
      | some message =>
          if heard then
            let (messages, ending) := read heard rest
            (message :: messages, ending)
          else ([], .unheard)

/-! ### Exchanges -/

/-- What is sent before the peer speaks, what the peer then sends, whether anybody
takes the messages, and what is sent afterwards. -/
structure Script where
  before : List Json
  frames : List Frame
  heard : Bool
  afterwards : List Json
deriving Repr

/-- What an exchange comes to. -/
structure Exchange where
  sends : List (Except Error Unit)
  /-- The texts that the peer got. -/
  received : List String
  messages : List Json
  ending : Ending
deriving Repr

/-- An exchange over a socket that is open. -/
def exchange (script : Script) : Exchange :=
  let (messages, ending) := read script.heard script.frames
  { sends := script.before.map (fun _ => .ok ()) ++ script.afterwards.map fun _ => ending.sending
    received := script.before.map Json.write
    messages, ending }

/-- Opens the socket at an address for an exchange. -/
def run (network : Network) (url : String) (script : Script) : Except Error Exchange :=
  match network.connect url with
  | .error refusal => .error (refused url refusal)
  | .ok () => .ok (exchange script)

end PagePilot.Socket
