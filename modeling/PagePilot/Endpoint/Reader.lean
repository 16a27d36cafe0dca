import PagePilot.Endpoint.Basic
import PagePilot.Error
import PagePilot.Text.Blank
import PagePilot.Url.Reader
/-!
# PagePilot.Endpoint.Reader

Reading where the browser is. A text without a scheme is taken for a host with
discovery pages. A port that is not spelled out there is the one that browsers use
for debugging, and not that of the scheme.
-/

namespace PagePilot.Endpoint

/-- The port of the discovery pages when none is given. -/
def discoveryPort : Nat := 9222

/-- What divides a scheme from the rest. -/
def schemeMark : List Char :=
  [':', '/', '/']

/-- Cuts a text behind the first scheme mark. -/
def behindScheme? : List Char → Option (List Char)
  | ':' :: '/' :: '/' :: rest => some rest
  | _ :: rest => behindScheme? rest
  | [] => none

/-- A text with a scheme in front. -/
def withScheme (text : List Char) : List Char :=
  match behindScheme? text with
  | some _ => text
  | none => "http".toList ++ schemeMark ++ text

/-- What stands behind the last occurrence of a character; all when there is none. -/
def behindLast (mark : Char) (text : List Char) : List Char :=
  (text.reverse.takeWhile (· ≠ mark)).reverse

/-- Whether the text of an address, which has a scheme, spells out a port: whether
there is a colon in what stands between the slashes, behind the user and behind the
brackets. The text is looked at as it is written. -/
def spellsOutPort (text : List Char) : Bool :=
  let rest := (behindScheme? text).getD text
  let authority := rest.takeWhile fun c => c ≠ '/' && c ≠ '?' && c ≠ '#'
  (behindLast ']' (behindLast '@' authority)).contains ':'

/-- The endpoint of an address. -/
def ofUrl (spelledOut : Bool) (u : Url) : Endpoint :=
  match u.scheme with
  | .ws | .wss => .webSocket u.text
  | .http | .https =>
      .http (String.ofList u.host.text) (if spelledOut then u.effectivePort else discoveryPort)
        (u.scheme = .https)

/-- Reads an endpoint. -/
def read (text : String) : Except CommandError Endpoint :=
  let trimmed := Text.trim text.toList
  if trimmed.isEmpty then .error (.invalidEndpoint text)
  else
    let address := withScheme trimmed
    match Url.read? (String.ofList address) with
    | some u => .ok (ofUrl (spellsOutPort address) u)
    | none => .error (.invalidEndpoint text)

end PagePilot.Endpoint
