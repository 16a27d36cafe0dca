import PagePilot.Url.Host
/-!
# PagePilot.Url.Basic

Addresses of the four schemes that name a host: pages and sockets, plain and
secure. All parts are kept as they are written, encoded; a port is kept only when
it is not the one that the scheme has anyway.
-/

namespace PagePilot

namespace Url

/-- The schemes. -/
inductive Scheme
  | http
  | https
  | ws
  | wss
deriving Repr, DecidableEq

namespace Scheme

/-- How a scheme is written. -/
def word : Scheme → String
  | .http => "http"
  | .https => "https"
  | .ws => "ws"
  | .wss => "wss"

/-- The scheme that is written so. -/
def ofWord? : String → Option Scheme
  | "http" => some .http
  | "https" => some .https
  | "ws" => some .ws
  | "wss" => some .wss
  | _ => none

/-- The port of a scheme when none is given. -/
def defaultPort : Scheme → Nat
  | .http | .ws => 80
  | .https | .wss => 443

end Scheme

end Url

/-- An address. -/
structure Url where
  scheme : Url.Scheme
  user : List Char
  password : List Char
  host : Url.Host
  /-- A port other than that of the scheme. -/
  port : Option Nat
  /-- The parts of the path, each behind a slash. -/
  path : List (List Char)
  query : Option (List Char)
  fragment : Option (List Char)
deriving Repr, DecidableEq

namespace Url

/-- The port that the address leads to. -/
def effectivePort (u : Url) : Nat :=
  u.port.getD u.scheme.defaultPort

/-- The user and the password in front of a host. -/
def credentials (u : Url) : List Char :=
  if u.user.isEmpty ∧ u.password.isEmpty then []
  else
    let password := if u.password.isEmpty then [] else ':' :: u.password
    u.user ++ password ++ ['@']

/-- The port behind a host. -/
def portText (u : Url) : List Char :=
  match u.port with
  | none => []
  | some port => ':' :: decimal port

/-- The path. -/
def pathText (u : Url) : List Char :=
  u.path.flatMap ('/' :: ·)

/-- An option, with a mark in front. -/
def marked (mark : Char) : Option (List Char) → List Char
  | none => []
  | some text => mark :: text

/-- The scheme, with what divides it from the rest. -/
def schemeText (u : Url) : List Char :=
  u.scheme.word.toList ++ [':', '/', '/']

/-- The text of an address. -/
def text (u : Url) : String :=
  String.ofList <|
    u.schemeText ++ u.credentials ++ u.host.text ++ u.portText ++ u.pathText
      ++ marked '?' u.query ++ marked '#' u.fragment

end Url

end PagePilot
