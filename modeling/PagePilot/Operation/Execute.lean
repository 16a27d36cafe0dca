import PagePilot.Machine.Program
/-!
# PagePilot.Operation.Execute

Sending a command and waiting for its acknowledgment.

A request is parked before it is written, so that no answer can come too early,
and the connection is looked at once more after the parking, so that a connection
that closes meanwhile cannot leave the request waiting.
-/

namespace PagePilot

open Wire

/-- Sends a request and waits for the answer. With a context, nothing is started
after its end, and the wait ends with it; the request stays parked then, and its
answer is for nobody. -/
def send (ctx : Option Context) (session : Option SessionId) (method : String) (params : Json) :
    Op Json := do
  if let some ctx := ctx then
    if let some e ← Op.perform (.endOf ctx) then
      throw e
  if ← Op.perform .isClosed then
    throw .connectionClosed
  let id ← Op.perform .allocate
  Op.perform (.park id)
  if ← Op.perform .isClosed then
    Op.perform (.unpark id)
    throw .connectionClosed
  match ← Op.perform (.write { id, method, params, sessionId := session }) with
  | .error e =>
      Op.perform (.unpark id)
      throw e
  | .ok () =>
      let reply ← Op.perform (.awaitReply ctx id)
      Op.ofExcept reply

/-- Reads an acknowledgment; `null` says as much as an object without members. -/
def Wire.Command.acknowledge (command : Command α) (answer : Json) : Except Error α :=
  let answer :=
    match answer with
    | .null => .empty
    | other => other
  (command.returns answer).mapError .json

/-- Sends a command on a session and waits for its acknowledgment. -/
def execute (ctx : Context) (session : Option SessionId) (command : Command α) : Op α := do
  let answer ← send (some ctx) session command.method command.params
  Op.ofExcept (command.acknowledge answer)

/-- Waits for something that is ready at a time, or never, unless the context ends
first. -/
def runWithin (ctx : Context) (delay : Option Nat) (value : Except Error α) : Op α := do
  if let some e ← Op.perform (.endOf ctx) then
    throw e
  match delay with
  | none => throw (← Op.perform (.awaitEnd ctx))
  | some 0 => Op.ofExcept value
  | some delay =>
      let now ← Op.perform .clock
      let reached ← Op.perform (.sleep ctx (now + delay))
      Op.ofExcept reached
      Op.ofExcept value

/-- The log's record of a second reader. -/
def secondReader : Log.Record :=
  { level := .warn, source := "cdpnav_runtime::connection"
    message := "Connection::run called more than once", fields := [] }

/-- Reads from the connection until there is nothing more to read. Only the first
reader reads. -/
def readConnection : Op Unit := do
  if ← Op.perform .startReading then
    Op.perform .awaitReader
  else
    Op.perform (.log secondReader)

end PagePilot
