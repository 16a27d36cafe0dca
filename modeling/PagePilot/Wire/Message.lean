import PagePilot.Wire.Id
/-!
# PagePilot.Wire.Message

The messages of a connection: requests go out, responses and events come in. A
response answers the request whose id it carries; whatever reads as a response
is one, and only then an event is tried.
-/

namespace PagePilot.Wire

/-- A command on its way to the browser. -/
structure Request where
  id : Nat
  method : String
  params : Json
  /-- There is none at the level of the browser. -/
  sessionId : Option SessionId
deriving Repr

/-- The wire form of a request. -/
def Request.toJson (r : Request) : Json :=
  .ofMembers <|
    [("id", .int r.id), ("method", .string r.method), ("params", r.params)]
      ++ Json.member? "sessionId" SessionId.toJson r.sessionId

/-- The fields of a request. -/
def Request.record : Record Request :=
  { name := "Request"
    fields :=
      [.required "id" Decoder.unsignedWord, .required "method" Decoder.text,
        .required "params" Decoder.json, .optional "sessionId" SessionId.decode]
    make := fun (id, method, params, sessionId, _) => { id, method, params, sessionId } }

/-- Reads a request. -/
def Request.decode : Decoder Request :=
  Request.record.decode

/-- Why the browser refused a command. -/
structure ErrorPayload where
  code : Int
  message : String
  data : Option String
deriving Repr, DecidableEq

/-- The wire form of a refusal. -/
def ErrorPayload.toJson (e : ErrorPayload) : Json :=
  .ofMembers <|
    [("code", .int e.code), ("message", .string e.message)] ++ Json.member? "data" .string e.data

/-- The fields of a refusal. -/
def ErrorPayload.record : Record ErrorPayload :=
  { name := "ErrorPayload"
    fields :=
      [.required "code" Decoder.signedWord, .required "message" Decoder.text,
        .optional "data" Decoder.text]
    make := fun (code, message, data, _) => { code, message, data } }

/-- Reads a refusal. -/
def ErrorPayload.decode : Decoder ErrorPayload :=
  ErrorPayload.record.decode

/-- The answer to a request. -/
structure Response where
  id : Nat
  result : Option Json
  error : Option ErrorPayload
deriving Repr

/-- The wire form of an answer. -/
def Response.toJson (r : Response) : Json :=
  .ofMembers <|
    [("id", .int r.id)]
      ++ Json.member? "result" (fun j => j) r.result
      ++ Json.member? "error" ErrorPayload.toJson r.error

/-- The fields of an answer. -/
def Response.record : Record Response :=
  { name := "Response"
    fields :=
      [.required "id" Decoder.unsignedWord, .optional "result" Decoder.json,
        .optional "error" ErrorPayload.decode]
    make := fun (id, result, error, _) => { id, result, error } }

/-- Reads an answer. -/
def Response.decode : Decoder Response :=
  Response.record.decode

/-- A notice that nobody asked for. -/
structure EventMessage where
  method : String
  params : Json
  sessionId : Option SessionId
deriving Repr

/-- The wire form of a notice. -/
def EventMessage.toJson (e : EventMessage) : Json :=
  .ofMembers <|
    [("method", .string e.method), ("params", e.params)]
      ++ Json.member? "sessionId" SessionId.toJson e.sessionId

/-- The fields of a notice. -/
def EventMessage.record : Record EventMessage :=
  { name := "EventMessage"
    fields :=
      [.required "method" Decoder.text, .defaulted "params" Decoder.json .null,
        .omittable "sessionId" SessionId.decode]
    make := fun (method, params, sessionId, _) => { method, params, sessionId } }

/-- Reads a notice. -/
def EventMessage.decode : Decoder EventMessage :=
  EventMessage.record.decode

/-- What comes in. -/
inductive Message
  | response (response : Response)
  | event (event : EventMessage)
deriving Repr

/-- The wire form of a message. -/
def Message.toJson : Message → Json
  | .response r => r.toJson
  | .event e => e.toJson

/-- Reads a message. -/
def Message.decode : Decoder Message := fun j =>
  match Response.decode j with
  | .ok r => .ok (.response r)
  | .error _ =>
      match EventMessage.decode j with
      | .ok e => .ok (.event e)
      | .error _ => .error (.noAlternative "Message")

end PagePilot.Wire
