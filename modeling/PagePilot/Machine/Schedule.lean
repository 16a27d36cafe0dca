import PagePilot.Machine.Transition
/-!
# PagePilot.Machine.Schedule

The order of turns. Whatever has become able to do something queues up, and the
first in the queue has its turn, until it has to wait. So turns do not depend on
anything but what happened, and nobody waits for ever who could go on.

Tasks that become able to go on by the same event queue up in the order in which
the barriers they wait for were armed, which is the order in which the event is
delivered.
-/

namespace PagePilot

/-- What can have a turn. -/
inductive Runner
  | receiver
  | reader
  | task (id : TaskId)
deriving Repr, DecidableEq

namespace World

/-- Whether a runner can do something. -/
def ready (w : World) : Runner → Bool
  | .receiver => w.receiverReady
  | .reader => w.readerReady
  | .task id => w.taskReady id

/-- The barrier that a task waits for; zero for one that waits for something
else. -/
def barrierRank (w : World) (id : TaskId) : Nat :=
  match w.tasks[id]? with
  | some (.running (.act (.awaitMatch key) _)) => key + 1
  | _ => 0

/-- All runners, those who wait for barriers in the order of the barriers. -/
def runners (w : World) : List Runner :=
  let tasks := (List.range w.tasks.length).mergeSort fun a b => w.barrierRank a ≤ w.barrierRank b
  .receiver :: .reader :: tasks.map .task

end World

/-- A world with the queue of those who are about to have a turn. -/
structure Machine where
  world : World
  queue : List Runner

namespace Machine

/-- A world in which nobody has queued up yet. -/
def ofWorld (world : World) : Machine :=
  { world, queue := [] }

/-- Lets everybody queue up who can do something and is not in the queue; `busy` has
its turn just now. -/
def wakeBut (busy : Option Runner) (m : Machine) : Machine :=
  { m with
    queue := m.queue ++ m.world.runners.filter fun r =>
      m.world.ready r && !m.queue.contains r && some r ≠ busy }

/-- Lets everybody queue up who can do something and is not in the queue. -/
def wake (m : Machine) : Machine :=
  m.wakeBut none

/-- Changes the world, and lets those queue up who can go on by that. -/
def modify (m : Machine) (f : World → World) : Machine :=
  { m with world := f m.world }.wake

/-- Lets something happen to the world. -/
def apply (m : Machine) (t : Transition) : Machine :=
  m.modify (·.apply t)

/-- Steps of the reader, as long as it has something to do. Whoever can go on by one
message queues up before the next is taken. -/
def readAll : Nat → Machine → Machine
  | 0, m => m
  | n + 1, m =>
      if m.world.readerReady then
        readAll n ({ m with world := m.world.apply .read }.wakeBut (some .reader))
      else m

/-- One turn of a runner. The reader takes everything that is in the inbox, and goes
on to the end if that has come. -/
def turn (m : Machine) : Runner → Machine
  | .receiver => m.apply .receive
  | .reader => (m.readAll (m.world.inbound.inbox.length + 2)).wake
  | .task id => m.modify (·.turn id)

/-- Several turns, as long as anybody is in the queue. -/
def turns : Nat → Machine → Machine
  | 0, m => m
  | n + 1, m =>
      match m.queue with
      | [] => m
      | r :: rest => turns n ({ m with queue := rest }.turn r)

/-- A number of turns after which nobody can go on. Every turn of a task but its
first follows a message, or the end of the messages, or a change from outside that
is seen at once. -/
def enoughTurns (m : Machine) : Nat :=
  (m.world.tasks.length + 3) * (m.world.inbound.wire.length + m.world.inbound.inbox.length + 4)

/-- Turns until nobody can go on. -/
def settle (m : Machine) : Machine :=
  turns m.wake.enoughTurns m.wake

/-- Starts a task, which queues up even if it will have to wait at once. -/
def spawn (m : Machine) (program : Program Outcome) : Machine :=
  let id := m.world.tasks.length
  { world := m.world.apply (.spawn program), queue := m.queue ++ [.task id] }

/-- Lets time pass. Whoever is in the queue has its turn when the clock has moved
but nobody has been told yet; then those who wait are told, and queue up. -/
def advance (m : Machine) (duration : Nat) : Machine :=
  (m.apply (.tick duration)).settle.apply .serve

end Machine

end PagePilot
