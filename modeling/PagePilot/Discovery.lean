import PagePilot.Json.Outline
import PagePilot.Operation.Execute
import PagePilot.Url.Reader
import PagePilot.Wire.VersionInfo
/-!
# PagePilot.Discovery

The pages that a browser serves about itself: what it is and where its socket is,
and what targets it has. A page is read into its records at once, so what it has
beyond their fields need not even be a value: it is passed over
(`PagePilot.Json.Outline`).
-/

namespace PagePilot.Discovery

open Wire

/-! ### Failures -/

/-- The standard wording of a status. -/
def reason? : Nat → Option String
  | 100 => some "Continue"
  | 101 => some "Switching Protocols"
  | 102 => some "Processing"
  | 103 => some "Early Hints"
  | 200 => some "OK"
  | 201 => some "Created"
  | 202 => some "Accepted"
  | 203 => some "Non Authoritative Information"
  | 204 => some "No Content"
  | 205 => some "Reset Content"
  | 206 => some "Partial Content"
  | 207 => some "Multi-Status"
  | 208 => some "Already Reported"
  | 226 => some "IM Used"
  | 300 => some "Multiple Choices"
  | 301 => some "Moved Permanently"
  | 302 => some "Found"
  | 303 => some "See Other"
  | 304 => some "Not Modified"
  | 305 => some "Use Proxy"
  | 307 => some "Temporary Redirect"
  | 308 => some "Permanent Redirect"
  | 400 => some "Bad Request"
  | 401 => some "Unauthorized"
  | 402 => some "Payment Required"
  | 403 => some "Forbidden"
  | 404 => some "Not Found"
  | 405 => some "Method Not Allowed"
  | 406 => some "Not Acceptable"
  | 407 => some "Proxy Authentication Required"
  | 408 => some "Request Timeout"
  | 409 => some "Conflict"
  | 410 => some "Gone"
  | 411 => some "Length Required"
  | 412 => some "Precondition Failed"
  | 413 => some "Payload Too Large"
  | 414 => some "URI Too Long"
  | 415 => some "Unsupported Media Type"
  | 416 => some "Range Not Satisfiable"
  | 417 => some "Expectation Failed"
  | 418 => some "I'm a teapot"
  | 421 => some "Misdirected Request"
  | 422 => some "Unprocessable Entity"
  | 423 => some "Locked"
  | 424 => some "Failed Dependency"
  | 425 => some "Too Early"
  | 426 => some "Upgrade Required"
  | 428 => some "Precondition Required"
  | 429 => some "Too Many Requests"
  | 431 => some "Request Header Fields Too Large"
  | 451 => some "Unavailable For Legal Reasons"
  | 500 => some "Internal Server Error"
  | 501 => some "Not Implemented"
  | 502 => some "Bad Gateway"
  | 503 => some "Service Unavailable"
  | 504 => some "Gateway Timeout"
  | 505 => some "HTTP Version Not Supported"
  | 506 => some "Variant Also Negotiates"
  | 507 => some "Insufficient Storage"
  | 508 => some "Loop Detected"
  | 510 => some "Not Extended"
  | 511 => some "Network Authentication Required"
  | _ => none

/-- The text of a status. -/
def statusText (status : Nat) : String :=
  s!"{status} " ++ (reason? status).getD "<unknown status code>"

/-- Why a page could not be had. -/
inductive Failure
  /-- The address cannot be asked. -/
  | badAddress
  /-- The address is none of a page. -/
  | noPageAddress (shown : String)
  /-- There was no answer. -/
  | noAnswer (shown : String)
  | status (code : Nat)
  /-- The answer does not read as what was asked for. -/
  | badBody
deriving Repr, DecidableEq

/-- The wording of a failure. -/
def Failure.message : Failure → String
  | .badAddress => "builder error"
  | .noPageAddress shown => s!"builder error for url ({shown})"
  | .noAnswer shown => s!"error sending request for url ({shown})"
  | .status code => "unexpected status " ++ statusText code
  | .badBody => "failed to parse response: error decoding response body"

/-! ### Forms -/

/-- What a page is read as. -/
structure Form (α : Type) where
  /-- The value of a text as far as the form asks for it. -/
  sift : List Char → Option Json
  decode : Decoder α

/-- The members of an object that a record asks for. Each key is read, and the
value only if there is a field for it. -/
def sifted (r : Record α) :
    List (List Char × List Char) → Option (List (String × Json))
  | [] => some []
  | (key, value) :: rest =>
      match Json.Outline.value? key with
      | some (.string key) =>
          if r.fields.any (·.knows key) then do
            let value ← Json.Outline.value? value
            let more ← sifted r rest
            some ((key, value) :: more)
          else sifted r rest
      | _ => none

/-- A record. What its object has beyond its fields is passed over. -/
def Form.record (r : Record α) : Form α where
  sift text :=
    match Json.Outline.members? text with
    | none => Json.Outline.value? text
    | some members => (sifted r members).map .object
  decode := r.decode

/-- A list of what has a form. -/
def Form.list (form : Form α) : Form (List α) where
  sift text :=
    match Json.Outline.items? text with
    | none => Json.Outline.value? text
    | some items => (items.mapM form.sift).map .array
  decode := Decoder.list form.decode

/-- The page about the browser. -/
def versionForm : Form VersionInfo :=
  .record VersionInfo.record

/-- The page about its targets. -/
def targetsForm : Form (List TargetInfo) :=
  .list (.record TargetInfo.record)

/-- The value of a body: all of it where it is a value throughout, and otherwise
as much as is asked for. -/
def Form.value? (form : Form α) (body : List UInt8) : Option Json :=
  let text := Json.Outline.ofBytes body
  (Json.Outline.value? text).orElse fun _ => form.sift text

/-! ### Reading answers -/

/-- Reads the body of an answer. A member that is given twice is an error here. -/
def readBody (form : Form α) (body : List UInt8) : Except Failure α :=
  match form.value? body with
  | none => .error .badBody
  | some j => (form.decode j).mapError fun _ => .badBody

/-- Reads an answer, which must be a success. -/
def readAnswer (form : Form α) (answer : HttpAnswer) : Except Failure α :=
  if 200 ≤ answer.status ∧ answer.status < 300 then readBody form answer.body
  else .error (.status answer.status)

/-! ### Asking -/

/-- Where the server of an address is. -/
def origin (u : Url) : String :=
  let host := String.ofList u.host.text
  s!"{u.scheme.word}://{host}:{u.effectivePort}"

/-- What a server is asked for. -/
def target (u : Url) : String :=
  String.ofList (u.pathText ++ Url.marked '?' u.query)

/-- Asks for a page and reads the answer. -/
def fetch (form : Form α) (url : String) : CommandOp α := do
  let fail {β : Type} (f : Failure) : CommandOp β :=
    throw (.discovery url f.message)
  match Url.read? url with
  | none => fail .badAddress
  | some u =>
      if u.scheme = .ws ∨ u.scheme = .wss then fail (.noPageAddress u.text)
      else
        match ← ExceptT.lift (Program.perform (.get (origin u) (target u))) with
        | none => fail (.noAnswer u.text)
        | some answer =>
            match readAnswer form answer with
            | .ok value => return value
            | .error f => fail f

/-- What the browser at an address is. -/
def version (base : String) : CommandOp VersionInfo :=
  fetch versionForm (base ++ "/json/version")

/-- Where the socket of the browser at an address is. -/
def socketUrl (base : String) : CommandOp String := do
  let info ← version base
  return info.webSocketDebuggerUrl

/-- The pages of the browser at an address. -/
def pages (base : String) : CommandOp (List TargetInfo) := do
  let targets ← fetch targetsForm (base ++ "/json/list")
  return targets.filter TargetInfo.isPage

end PagePilot.Discovery
