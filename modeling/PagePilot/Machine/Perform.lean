import PagePilot.Machine.Delivery
/-!
# PagePilot.Machine.Perform

What each act does to the world, and what it gives. `World.perform` is `none` for
an act that has to wait.

The end of a context is seen in two ways. Before something is started, the
context is compared with the clock. Once something waits, a deadline ends it only
when those who wait have been told of the time; a cancellation is seen at once in
both.
-/

namespace PagePilot

open Wire

namespace World

/-- The text with which a refused request fails. -/
def refusedText : String := "write refused"

/-- Writes a request of a task, if its method is not refused. -/
def write (w : World) (task : TaskId) (r : Request) : Except Error Unit × World :=
  if r.method ∈ w.refused then (.error (.transport refusedText), w)
  else (.ok (), w.note (.wrote task r))

/-- What someone learns who waits for an answer under a context: first whether the
context has ended, and then the answer. -/
def awaited (w : World) (ctx : Option Context) (id : Nat) : Option Reply :=
  match ctx.bind w.toldEndOf with
  | some e => some (.error e)
  | none => w.connection.outcome? id

/-- What someone learns who waits for a barrier: first whether it is matched, and
then whether its context has ended. -/
def barrierOutcome (w : World) (key : BarrierKey) : Option (Except Error Unit) :=
  match w.barriers[key]? with
  | none => none
  | some b => if b.matched then some (.ok ()) else (w.toldEndOf b.ctx).map .error

/-- What someone learns who waits for a time under a context. -/
def timeReached (w : World) (ctx : Context) (time : Nat) : Option (Except Error Unit) :=
  match w.toldEndOf ctx with
  | some e => some (.error e)
  | none => if time ≤ w.served then some (.ok ()) else none

/-- Starts to read, on behalf of a task or in the background. Only the first start
counts. -/
def startReading (w : World) (owner : Option TaskId) : Bool × World :=
  match w.inbound.reading with
  | .notStarted =>
      (true,
        { w with inbound := { w.inbound with receiving := true, reading := .running owner } })
  | _ => (false, w)

/-- Whether there is nothing more to read. -/
def readerEnded (w : World) : Bool :=
  w.inbound.reading = .ended

/-- Writes an image. -/
def save (w : World) (path : String) (bytes : List UInt8) : Except String Unit × World :=
  let (files, result) := w.files.writeImage path bytes
  (result.mapError FileError.message, { w with files })

/-- Asks a server for a page. -/
def get (w : World) (origin path : String) : Option HttpAnswer × World :=
  match w.network.get? origin path with
  | none => (none, w)
  | some answer => (some answer, w.note (.visited path))

/-- Does an act of a task, if it can be done now. -/
def perform (task : TaskId) : (a : Act) → World → Option (a.Reply × World)
  | .endOf ctx, w => some (w.endOf ctx, w)
  | .awaitEnd ctx, w => (w.toldEndOf ctx).map (·, w)
  | .clock, w => some (w.now, w)
  | .sleep ctx time, w => (w.timeReached ctx time).map (·, w)
  | .isClosed, w => some (w.connection.closed, w)
  | .allocate, w => some (w.connection.nextId, w.modifyConnection (·.allocate))
  | .park id, w => some ((), w.modifyConnection (·.park id))
  | .unpark id, w => some ((), w.modifyConnection (·.unpark id))
  | .write r, w => some (w.write task r)
  | .awaitReply ctx id, w => (w.awaited ctx id).map (·, w)
  | .arm page ctx milestone, w =>
      some (w.barriers.length, w.armMilestone page ctx milestone (.task task))
  | .awaitMatch key, w => (w.barrierOutcome key).map (·, w)
  | .disarm key, w => some ((), w.regrip key (·.dropHalves (.task task)))
  | .openPage session, w =>
      some (w.pages.length,
        (w.openPage (some session) none (.task task)).modifyConnection
          (·.route (some session) w.pages.length))
  | .setFrame page frame, w =>
      some ((), w.modifyPage page fun p => { p with frame := some frame })
  | .handOver page, w =>
      some ((), w.modifyPage page fun p => { p with holders := p.holders ++ [.caller] })
  | .startReading, w => some (w.startReading (some task))
  | .awaitReader, w => if w.readerEnded then some ((), w) else none
  | .print text, w => some ((), w.note (.printed task text))
  | .log record, w => some ((), w.note (.logged record))
  | .save path bytes, w => some (w.save path bytes)
  | .get origin path, w => some (w.get origin path)
  | .connect url, w => some (w.network.connect url, w)

/-! ### Tasks -/

/-- Starts a task. -/
def spawn (w : World) (program : Program Outcome) : World :=
  { w with tasks := w.tasks ++ [.running program] }

/-- Puts a task into another state. -/
def setTask (w : World) (task : TaskId) (state : Task) : World :=
  { w with tasks := w.tasks.set task state }

/-- Puts a task to its end, with which it lets go of all that it holds. -/
def retire (w : World) (task : TaskId) (state : Task) : World :=
  { w.setTask task state with
    inbound := { w.inbound with reading := Reading.without task w.inbound.reading } }.dropHoldings
    (.task task)

/-- Ends a task with an outcome. -/
def finish (w : World) (task : TaskId) (outcome : Outcome) : World :=
  w.retire task (.ended outcome)

/-- Drops a task where it is. -/
def abort (w : World) (task : TaskId) : World :=
  match w.tasks[task]? with
  | some (.running _) => w.retire task .aborted
  | _ => w

/-- Does one act of a task, or ends it when nothing is left to do. A task that has
to wait leaves the world as it is. -/
def step (w : World) (task : TaskId) : World :=
  match w.tasks[task]? with
  | some (.running (.done outcome)) => w.finish task outcome
  | some (.running (.act a next)) =>
      match w.perform task a with
      | some (reply, w) => w.setTask task (.running (next reply))
      | none => w
  | _ => w

/-- Does acts of a program until it has to wait; what is left of it comes with the
world. -/
def runUntilStuck (task : TaskId) : Program α → World → Program α × World
  | .done result, w => (.done result, w)
  | .act a next, w =>
      match w.perform task a with
      | some (reply, w) => runUntilStuck task (next reply) w
      | none => (.act a next, w)

/-- Runs a program on its own. It has a result when it never has to wait. -/
def runAlone (w : World) (program : Program α) : Option α × World :=
  match runUntilStuck w.tasks.length program w with
  | (.done result, w) => (some result, w)
  | (.act _ _, w) => (none, w)

/-- One turn of a task: acts until it has to wait or has ended. -/
def turn (w : World) (task : TaskId) : World :=
  match w.tasks[task]? with
  | some (.running program) =>
      match runUntilStuck task program w with
      | (.done outcome, w) => w.finish task outcome
      | (rest, w) => w.setTask task (.running rest)
  | _ => w

/-- Whether a task can do something. -/
def taskReady (w : World) (task : TaskId) : Bool :=
  match w.tasks[task]? with
  | some (.running (.done _)) => true
  | some (.running (.act a _)) => (w.perform task a).isSome
  | _ => false

end World

end PagePilot
