/-!
# PagePilot.Endpoint.Basic

Where the browser is: an address where it serves its discovery pages, or the
address of its socket.
-/

namespace PagePilot

/-- Where to reach the browser. -/
inductive Endpoint
  /-- Discovery pages; the socket's address is looked up there. -/
  | http (host : String) (port : Nat) (secure : Bool)
  /-- The socket itself. -/
  | webSocket (url : String)
deriving Repr, DecidableEq

namespace Endpoint

/-- The text of an endpoint. -/
def text : Endpoint → String
  | .http host port secure =>
      let scheme := if secure then "https" else "http"
      s!"{scheme}://{host}:{port}"
  | .webSocket url => url

end Endpoint

end PagePilot
