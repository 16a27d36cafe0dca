/-!
# PagePilot.Network

The world outside as far as the program asks it: pages that are served under one
origin, and sockets. Nothing here takes time.
-/

namespace PagePilot

/-- What a server answers with. -/
structure HttpAnswer where
  status : Nat
  body : List UInt8
deriving Repr, DecidableEq

/-- What can be reached from here. -/
structure Network where
  /-- Whether there is a way out at all. -/
  reachable : Bool
  /-- The host and port that serve the pages and the sockets. -/
  authority : String
  /-- The pages, by path. -/
  pages : List (String × HttpAnswer)
  /-- The directory below which every path is a socket. -/
  sockets : String
deriving Repr

namespace Network

/-- No way out. -/
def none : Network :=
  { reachable := false, authority := "", pages := [], sockets := "/" }

/-- What is served when there is no page. -/
def notFound : HttpAnswer :=
  { status := 404, body := [] }

/-- Asks an origin for a path; there is no answer from what cannot be reached. -/
def get? (n : Network) (origin path : String) : Option HttpAnswer :=
  if n.reachable ∧ origin = "http://" ++ n.authority then
    some ((n.pages.lookup path).getD notFound)
  else Option.none

/-- Why a socket cannot be had. -/
inductive Refusal
  | emptyAddress
  | unreachable
  | notFound
deriving Repr, DecidableEq

/-- The wording of a refusal. -/
def Refusal.message : Refusal → String
  | .emptyAddress => "HTTP format error: empty string"
  | .unreachable => "IO error: Network is unreachable (os error 101)"
  | .notFound => "HTTP error: 404 Not Found"

/-- Asks for the socket at an address. -/
def connect (n : Network) (url : String) : Except Refusal Unit :=
  if url = "" then .error .emptyAddress
  else if !n.reachable then .error .unreachable
  else if ("ws://" ++ n.authority ++ n.sockets).toList.isPrefixOf url.toList then .ok ()
  else .error .notFound

end Network

end PagePilot
