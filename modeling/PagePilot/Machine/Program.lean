import PagePilot.CommandLine.Basic
import PagePilot.Connection
import PagePilot.Context
import PagePilot.Log.Basic
import PagePilot.Network
import PagePilot.Wire.Command
/-!
# PagePilot.Machine.Program

Programs that run beside each other. A program is a finite tree: it has a result,
or it does one act and goes on with what the act gives. An act is the smallest
thing that is done at one go; between two acts of a program anything else may
happen. Some acts wait, and a program is stuck at such an act until it can be
done.

Acts say what is wanted and not how it is done, so a program is a value that can
be compared and reasoned about without the machine that runs it.
-/

namespace PagePilot

open Wire

/-- The number of a task. -/
abbrev TaskId := Nat

/-- The number of a barrier. -/
abbrev BarrierKey := Nat

/-- One act, with what it needs. -/
inductive Act
  /-- Looks whether a context has ended. -/
  | endOf (ctx : Context)
  /-- Waits for the end of a context. -/
  | awaitEnd (ctx : Context)
  /-- Looks at the clock. -/
  | clock
  /-- Waits for a time, or for the end of a context if that comes first. -/
  | sleep (ctx : Context) (time : Nat)
  /-- Looks whether the connection is closed. -/
  | isClosed
  /-- Takes the next request id. -/
  | allocate
  /-- Puts a request among the waiting ones. -/
  | park (id : Nat)
  /-- Takes a request from the waiting ones. -/
  | unpark (id : Nat)
  /-- Writes a request. -/
  | write (request : Request)
  /-- Waits for the answer to a request, or for the end of a context if there is
  one and it has ended by then. -/
  | awaitReply (ctx : Option Context) (id : Nat)
  /-- Arms a barrier for a milestone of the frame that is current on a page. -/
  | arm (page : PageKey) (ctx : Context) (milestone : String)
  /-- Waits for the match of a barrier, or for the end of its context. -/
  | awaitMatch (barrier : BarrierKey)
  /-- Lets go of a barrier. -/
  | disarm (barrier : BarrierKey)
  /-- Opens a page on a session and sends the session's events there. -/
  | openPage (session : SessionId)
  /-- Sets the current frame of a page. -/
  | setFrame (page : PageKey) (frame : FrameId)
  /-- Hands a page over, so that it outlives the task. -/
  | handOver (page : PageKey)
  /-- Starts to read from the connection, if nobody did before. -/
  | startReading
  /-- Waits until there is nothing more to read. -/
  | awaitReader
  /-- Writes to the output. -/
  | print (text : String)
  /-- Writes to the log. -/
  | log (record : Log.Record)
  /-- Writes an image to a file. -/
  | save (path : String) (bytes : List UInt8)
  /-- Asks a server for a page. -/
  | get (origin path : String)
  /-- Opens the socket of the browser. -/
  | connect (url : String)

/-- What an act gives. -/
@[reducible] def Act.Reply : Act → Type
  | .endOf _ => Option Error
  | .awaitEnd _ => Error
  | .clock => Nat
  | .sleep _ _ => Except Error Unit
  | .isClosed => Bool
  | .allocate => Nat
  | .park _ => Unit
  | .unpark _ => Unit
  | .write _ => Except Error Unit
  | .awaitReply _ _ => PagePilot.Reply
  | .arm _ _ _ => BarrierKey
  | .awaitMatch _ => Except Error Unit
  | .disarm _ => Unit
  | .openPage _ => PageKey
  | .setFrame _ _ => Unit
  | .handOver _ => Unit
  | .startReading => Bool
  | .awaitReader => Unit
  | .print _ => Unit
  | .log _ => Unit
  | .save _ _ => Except String Unit
  | .get _ _ => Option HttpAnswer
  | .connect _ => Except Network.Refusal Unit

/-- A program with a result of type `α`. -/
inductive Program (α : Type) : Type
  | done (result : α)
  | act (a : Act) (next : a.Reply → Program α)

namespace Program

/-- Goes on with the result of a program. -/
def bind : Program α → (α → Program β) → Program β
  | .done a, f => f a
  | .act a next, f => .act a fun r => (next r).bind f

instance : Monad Program where
  pure := .done
  bind := bind

/-- The program that does one act. -/
def perform (a : Act) : Program a.Reply :=
  .act a .done

end Program

/-- A program that may fail with an error of the browser or of its context. -/
abbrev Op (α : Type) : Type :=
  ExceptT Error Program α

/-- A program that may fail with any error of an invocation. -/
abbrev CommandOp (α : Type) : Type :=
  ExceptT CommandError Program α

namespace Op

/-- Does one act. -/
def perform (a : Act) : Op a.Reply :=
  ExceptT.lift (Program.perform a)

/-- An operation whose result is known. -/
def ofExcept (r : Except Error α) : Op α :=
  ExceptT.mk (.done r)

/-- An operation as part of an invocation. -/
def asCommand (op : Op α) : CommandOp α :=
  ExceptT.mk (op.run.bind fun r => .done (r.mapError .command))

end Op

/-! ### Results -/

/-- What an operation gives. -/
inductive Value
  | nothing
  | navigation (reply : NavigateReply)
  | history (history : NavigationHistory)
  | image (bytes : List UInt8)
  | text (text : String)
  | json (value : Json)
  | page (page : PageKey)
deriving Repr

/-- What a task ends with. -/
inductive Outcome
  /-- The result of one operation. -/
  | operation (result : Except Error Value)
  /-- The end of an invocation. -/
  | invocation (result : Except CommandError Unit)
deriving Repr

/-- The task of an operation. -/
def Op.task (op : Op α) (value : α → Value) : Program Outcome :=
  op.run.bind fun r => .done (.operation (r.map value))

/-- The task of an invocation. -/
def CommandOp.task (op : CommandOp Unit) : Program Outcome :=
  op.run.bind fun r => .done (.invocation r)

end PagePilot
