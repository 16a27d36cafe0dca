import PagePilot.Machine.Schedule
import PagePilot.Operation.Invocation
/-!
# PagePilot.Scenario.Basic

Scripted runs of the whole machine. A script opens contexts and pages, starts tasks,
plays the browser and lets time pass; it calls contexts, pages, barriers and tasks by
names. After each step everything that can run is run to rest, and then what has
happened is reported.
-/

namespace PagePilot.Scenario

open Wire

/-! ### Steps -/

/-- How long a new context may last. -/
inductive Limit
  | unlimited
  | within (duration : Nat)
deriving Repr

/-- An operation on a page. -/
inductive PageCall
  | navigate (url : String)
  | reload (params : ReloadParams)
  | navigateToEntry (entryId : Int)
  | back
  | forward
  | entries
  | stop
  /-- Its parameters may be such that they do not read as any. -/
  | screenshot (params : Except DecodeError ScreenshotParams)
  | title
  | location
  | enable

/-- What a barrier waits for. -/
inductive Awaited
  | milestone (name : String)
  | method (name : String)
deriving Repr

/-- One step of a script. -/
inductive Step
  /-- Makes a context, perhaps from another one. -/
  | context (name : String) (parent : Option String) (limit : Limit)
  /-- Makes the context of an invocation with a timeout. -/
  | commandContext (name : String) (timeout : Nat)
  | cancel (ctx : String)
  | advance (duration : Nat)
  /-- Waits for the end of a context. -/
  | awaitEnd (task ctx : String)
  /-- Waits for a value that is ready after a while, or never. -/
  | runWithin (task ctx : String) (delay : Option Nat) (value : Except Error Json)
  | page (name : String) (session : Option SessionId) (frame : Option FrameId) (routed : Bool)
  | setFrame (page : String) (frame : FrameId)
  | route (page : String) (session : Option SessionId)
  | unroute (session : Option SessionId)
  | dropPage (page : String)
  | attach (task ctx : String) (target : TargetId) (page : String)
  | call (task page ctx : String) (call : PageCall)
  | send (task : String) (session : Option SessionId) (method : String) (params : Json)
  /-- The browser sends a message. -/
  | inject (message : Json)
  /-- The browser goes away. -/
  | disconnect
  | readConnection (task : String)
  /-- An event reaches a page without the connection. -/
  | deliver (page : String) (event : Event)
  | listen (page ctx recorder : String)
  | arm (barrier page ctx : String) (awaited : Awaited)
  | awaitMatch (barrier task : String)
  | release (barrier : String)
  | dropWait (barrier : String)
  | dropRelease (barrier : String)
  | abort (task : String)
  /-- Runs an invocation on the connection. -/
  | invoke (task : String) (words : List String) (ctx : Option String)
  | batch (steps : List Step)
  /-- A step that is not understood. -/
  | unknown

/-- What a step gives. -/
inductive StepValue
  | nothing
  /-- The deadline of a new context. -/
  | deadline (time : Option Nat)
  | usage (error : UsageError)
  /-- The step names something that does not exist, and did nothing. -/
  | bad
deriving Repr

/-! ### Names -/

/-- Things by their names, each name once. -/
abbrev Names (α : Type) := List (String × α)

/-- Takes a name away. -/
def Names.drop (names : Names α) (name : String) : Names α :=
  names.filter fun entry => entry.1 ≠ name

/-- Gives a name to a thing, and to no other. -/
def Names.bind (names : Names α) (name : String) (value : α) : Names α :=
  (name, value) :: Names.drop names name

/-! ### The browser -/

/-- What the scripted browser does. -/
inductive Move
  | say (message : Json)
  /-- It goes away. -/
  | leave
deriving Repr

/-- For each method the answers that are left for requests of it, each a list of
moves. -/
abbrev Replies := Names (List (List Move))

/-! ### State -/

/-- The state of a run. -/
structure State where
  machine : Machine
  contexts : Names Context
  pages : Names Page
  barriers : Names BarrierKey
  tasks : Names TaskId
  /-- The name under which each task was started. -/
  taskNames : List String
  /-- The tasks whose page gets a name when they end. -/
  attaching : List (TaskId × String)
  replies : Replies
  /-- The endpoint of the connection, for invocations. -/
  endpoint : Option Endpoint
  /-- Whether the browser was sent away. -/
  disconnected : Bool

/-- What a run starts with. -/
structure Setup where
  /-- Whether the connection is read from the start. -/
  reading : Bool
  refused : List String
  replies : Replies
  endpoint : Option Endpoint
  network : Network

namespace State

/-- The state before the first step. -/
def initial (setup : Setup) : State :=
  let world := World.initial setup.refused setup.network
  { machine := .ofWorld (if setup.reading then world.apply .startReading else world)
    contexts := [], pages := [], barriers := [], tasks := [], taskNames := [], attaching := []
    replies := setup.replies, endpoint := setup.endpoint, disconnected := false }

/-- The world as it is. -/
def world (s : State) : World :=
  s.machine.world

/-- Lets something happen to the world. -/
def apply (s : State) (t : Transition) : State :=
  { s with machine := s.machine.apply t }

/-- Starts a task under a name. -/
def spawn (s : State) (name : String) (program : Program Outcome) : State :=
  { s with
    machine := s.machine.spawn program
    tasks := Names.bind s.tasks name s.world.tasks.length
    taskNames := s.taskNames ++ [name] }

/-- Lets go of the page that has a name. -/
def dropPage (s : State) (name : String) : State :=
  match s.pages.lookup name with
  | none => s
  | some page =>
      { s.apply (.dropPage page.key) with
        pages := Names.drop s.pages name }

/-- Gives a name to a page, in place of the one that had it. -/
def namePage (s : State) (name : String) (page : Page) : State :=
  let s := s.dropPage name
  { s with pages := Names.bind s.pages name page }

/-- Lets go of both halves of the barrier that has a name. -/
def dropBarrier (s : State) (name : String) : State :=
  match s.barriers.lookup name with
  | none => s
  | some key =>
      { s.apply (.dropHalves key) with
        barriers := Names.drop s.barriers name }

/-- Gives names to the pages of the tasks that have attached. -/
def nameAttached (s : State) : State :=
  s.attaching.foldl
    (fun s entry =>
      match (s.world.tasks[entry.1]?).bind Task.outcome? with
      | some (.operation (.ok (.page key))) =>
          let session := (s.world.pages[key]?).bind (·.session)
          { s.namePage entry.2 { key, session } with
            attaching := s.attaching.filter (·.1 ≠ entry.1) }
      | _ => s)
    s

/-- Runs everything to rest. -/
def settle (s : State) : State :=
  { s with machine := s.machine.settle }.nameAttached

/-- Lets time pass. -/
def advance (s : State) (duration : Nat) : State :=
  { s with machine := s.machine.advance duration }.nameAttached

end State

end PagePilot.Scenario
