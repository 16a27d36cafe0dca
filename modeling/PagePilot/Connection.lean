import PagePilot.Error
import PagePilot.Wire.Message
/-!
# PagePilot.Connection

What a connection knows: which ids it has given out, which requests wait for an
answer, the answers that came, and where events go.

A request is *parked* from before it is written until its answer comes, its
writing fails, or the connection ends. Whoever waits for an answer sees one of
three things: the answer, that the request is still parked, or neither, and then
the answer will never come.
-/

namespace PagePilot

open Wire

/-- The number of a page that the program works on. -/
abbrev PageKey := Nat

/-- What a request ends with. -/
abbrev Reply := Except Error Json

/-- The state of a connection. -/
structure Connection where
  /-- The id of the next request. -/
  nextId : Nat
  /-- The requests that wait for an answer. -/
  parked : List Nat
  /-- The answers that came, in order. -/
  replies : List (Nat × Reply)
  /-- Which page gets the events of a session; `none` is the level of the
  browser. -/
  routes : List (Option SessionId × PageKey)
  closed : Bool
deriving Repr

namespace Connection

/-- A connection that nothing was sent on. -/
def fresh : Connection :=
  { nextId := 0, parked := [], replies := [], routes := [], closed := false }

/-! ### Requests -/

/-- Gives out the next id. -/
def allocate (c : Connection) : Connection :=
  { c with nextId := c.nextId + 1 }

/-- Puts a request among the waiting ones. -/
def park (c : Connection) (id : Nat) : Connection :=
  { c with parked := c.parked ++ [id] }

/-- Takes a request from the waiting ones. -/
def unpark (c : Connection) (id : Nat) : Connection :=
  { c with parked := c.parked.filter (· ≠ id) }

/-- The answer to a request, if it came. -/
def replyTo? (c : Connection) (id : Nat) : Option Reply :=
  c.replies.lookup id

/-- What whoever waits for an answer learns now, if anything. -/
def outcome? (c : Connection) (id : Nat) : Option Reply :=
  match c.replyTo? id with
  | some reply => some reply
  | none => if id ∈ c.parked then none else some (.error .connectionClosed)

/-! ### Answers -/

/-- What the browser says when a target or a session is gone. -/
def goneTexts : List String :=
  ["Target closed", "No target with given id", "Session with given id not found"]

/-- Whether `piece` occurs in a text. -/
def occursIn (piece : List Char) : List Char → Bool
  | [] => piece.isEmpty
  | c :: rest => piece.isPrefixOf (c :: rest) || occursIn piece rest

/-- The error that a refusal stands for. -/
def refusal (e : ErrorPayload) : Error :=
  let text :=
    match e.data with
    | some data => s!"{e.message}: {data}"
    | none => e.message
  if goneTexts.any fun piece => occursIn piece.toList text.toList then .targetClosed text
  else .protocol e.code text

/-- What an answer says: a refusal when there is one, else the result, which is
`null` when it is left out. -/
def replyIn (r : Response) : Reply :=
  match r.error with
  | some e => .error (refusal e)
  | none => .ok (r.result.getD .null)

/-- Takes an answer in; only a waiting request can be answered. -/
def answer (c : Connection) (r : Response) : Connection :=
  if r.id ∈ c.parked then
    { c.unpark r.id with replies := c.replies ++ [(r.id, replyIn r)] }
  else c

/-! ### Routes -/

/-- Sends no more events of a session anywhere. -/
def unroute (c : Connection) (session : Option SessionId) : Connection :=
  { c with routes := c.routes.filter fun route => route.1 ≠ session }

/-- Sends the events of a session to a page, and to no other. -/
def route (c : Connection) (session : Option SessionId) (page : PageKey) : Connection :=
  { c with routes := (session, page) :: (c.unroute session).routes }

/-- The page that gets the events of a session. -/
def routeOf? (c : Connection) (session : Option SessionId) : Option PageKey :=
  c.routes.lookup session

/-! ### The end -/

/-- Marks the connection as closed; no request starts from now on. -/
def close (c : Connection) : Connection :=
  { c with closed := true }

/-- Gives up on every waiting request. -/
def clear (c : Connection) : Connection :=
  { c with parked := [] }

end Connection

end PagePilot
