import PagePilot.CommandLine.Reader
import PagePilot.Scenario.Basic
/-!
# PagePilot.Scenario.Run

What each step does, how the browser answers by itself, and what is reported.
-/

namespace PagePilot.Scenario

open Wire

/-! ### Operations -/

/-- Takes an image of a page, if the parameters for it do read as such. -/
def screenshotOf (page : Page) (ctx : Context) (params : Except DecodeError ScreenshotParams) :
    Op (List UInt8) := do
  let params ← Op.ofExcept (params.mapError .json)
  page.screenshot ctx params

/-- The task of an operation on a page. -/
def PageCall.task (page : Page) (ctx : Context) : PageCall → Program Outcome
  | .navigate url => (page.navigate ctx url).task .navigation
  | .reload params => (page.reload ctx params).task fun _ => .nothing
  | .navigateToEntry entryId => (page.navigateToEntry ctx entryId).task fun _ => .nothing
  | .back => (page.back ctx).task fun _ => .nothing
  | .forward => (page.forward ctx).task fun _ => .nothing
  | .entries => (page.entries ctx).task .history
  | .stop => (page.stop ctx).task fun _ => .nothing
  | .screenshot params => (screenshotOf page ctx params).task .image
  | .title => (page.title ctx).task .text
  | .location => (page.location ctx).task .text
  | .enable => (page.enable ctx).task fun _ => .nothing

/-- Attaches to a target and hands the page over. -/
def attachAndHandOver (ctx : Context) (target : TargetId) : Op PageKey := do
  let page ← Page.attach ctx target
  Op.perform (.handOver page.key)
  return page.key

/-- Waits for the end of a context, which is an error. -/
def awaitEndOf (ctx : Context) : Op Unit := do
  throw (← Op.perform (.awaitEnd ctx))

/-- Waits for a barrier. -/
def awaitMatchOf (key : BarrierKey) : Op Unit := do
  let matched ← Op.perform (.awaitMatch key)
  Op.ofExcept matched

/-! ### Steps -/

namespace State

/-- Makes a context. -/
def addContext (s : State) (name : String) (parent : Option Context) (limit : Option Nat) :
    StepValue × State :=
  let scope := s.world.scopes.next
  let deadline := Context.derivedDeadline (parent.bind (·.deadline)) s.world.now limit
  let s := s.apply (.newScope (parent.map (·.scope)))
  (.deadline deadline, { s with contexts := Names.bind s.contexts name { scope, deadline } })

/-- Changes a barrier of which the caller has a half. -/
def onHalf (s : State) (name : String) (half : Barrier → Option Holder) (f : BarrierKey → State) :
    StepValue × State :=
  match s.barriers.lookup name with
  | none => (.bad, s)
  | some key =>
      match (s.world.barriers[key]?).bind half with
      | some .caller => (.nothing, f key)
      | _ => (.bad, s)

/-- Runs an invocation on the connection. Its own timeout governs it unless a context
is given. -/
def invoke (s : State) (task : String) (words : List String) (ctx : Option String) :
    StepValue × State :=
  match s.endpoint, CommandLine.read .empty words with
  | none, _ => (.bad, s)
  | some _, .error e => (.usage e, s)
  | some endpoint, .ok i =>
      match ctx with
      | some name =>
          match s.contexts.lookup name with
          | some ctx => (.nothing, s.spawn task (i.runOpen endpoint ctx).task)
          | none => (.bad, s)
      | none =>
          let ctx : Context :=
            { scope := s.world.scopes.next, deadline := Invocation.deadline i.timeout s.world.now }
          let s := s.apply (.newScope none)
          (.nothing, s.spawn task (i.runOpen endpoint ctx).task)

mutual
/-- Does a step. Nobody else has a turn but by letting time pass. -/
def step (s : State) : Step → StepValue × State
  | .context name parent limit =>
      let limit :=
        match limit with
        | .unlimited => none
        | .within duration => some duration
      match parent with
      | none => s.addContext name none limit
      | some parent =>
          match s.contexts.lookup parent with
          | some p => s.addContext name (some p) limit
          | none => (.bad, s)
  | .commandContext name timeout =>
      s.addContext name none (if timeout = 0 then none else some timeout)
  | .cancel name =>
      match s.contexts.lookup name with
      | some ctx => (.nothing, s.apply (.cancel ctx.scope))
      | none => (.bad, s)
  | .advance duration => (.nothing, s.advance duration)
  | .awaitEnd task name =>
      match s.contexts.lookup name with
      | some ctx => (.nothing, s.spawn task ((awaitEndOf ctx).task fun _ => .nothing))
      | none => (.bad, s)
  | .runWithin task name delay value =>
      match s.contexts.lookup name with
      | some ctx => (.nothing, s.spawn task ((PagePilot.runWithin ctx delay value).task .json))
      | none => (.bad, s)
  | .page name session frame routed =>
      let key := s.world.pages.length
      let s := s.namePage name { key, session }
      let s := s.apply (.openPage session frame)
      (.nothing, if routed then s.apply (.route session key) else s)
  | .setFrame name frame =>
      match s.pages.lookup name with
      | some page => (.nothing, s.apply (.setFrame page.key frame))
      | none => (.bad, s)
  | .route name session =>
      match s.pages.lookup name with
      | some page => (.nothing, s.apply (.route session page.key))
      | none => (.bad, s)
  | .unroute session => (.nothing, s.apply (.unroute session))
  | .dropPage name =>
      match s.pages.lookup name with
      | some _ => (.nothing, s.dropPage name)
      | none => (.bad, s)
  | .attach task name target page =>
      match s.contexts.lookup name with
      | some ctx =>
          let id := s.world.tasks.length
          let s := s.spawn task ((attachAndHandOver ctx target).task .page)
          (.nothing, { s with attaching := s.attaching ++ [(id, page)] })
      | none => (.bad, s)
  | .call task pageName name call =>
      match s.pages.lookup pageName, s.contexts.lookup name with
      | some page, some ctx =>
          let id := s.world.tasks.length
          (.nothing, (s.spawn task (call.task page ctx)).apply (.sharePage page.key id))
      | _, _ => (.bad, s)
  | .send task session method params =>
      (.nothing, s.spawn task ((PagePilot.send none session method params).task .json))
  | .inject message => (.nothing, s.apply (.inject message))
  | .disconnect => (.nothing, { s.apply .disconnect with disconnected := true })
  | .readConnection task =>
      (.nothing, s.spawn task (PagePilot.readConnection.task fun _ => .nothing))
  | .deliver name event =>
      match s.pages.lookup name with
      | some page => (.nothing, s.apply (.deliver page.key event))
      | none => (.bad, s)
  | .listen pageName name recorder =>
      match s.pages.lookup pageName, s.contexts.lookup name with
      | some page, some ctx =>
          (.nothing, s.apply (.listen page.key ctx.scope recorder))
      | _, _ => (.bad, s)
  | .arm barrier pageName name awaited =>
      match s.pages.lookup pageName, s.contexts.lookup name with
      | some page, some ctx =>
          let s := s.dropBarrier barrier
          let key := s.world.barriers.length
          let s :=
            match awaited with
            | .milestone milestone => s.apply (.armMilestone page.key ctx milestone)
            | .method method => s.apply (.arm page.key ctx fun e => e.method = method)
          (.nothing, { s with barriers := Names.bind s.barriers barrier key })
      | _, _ => (.bad, s)
  | .awaitMatch barrier task =>
      s.onHalf barrier (·.waitHolder) fun key =>
        let id := s.world.tasks.length
        (s.spawn task ((awaitMatchOf key).task fun _ => .nothing)).apply (.giveWait key id)
  | .release barrier =>
      s.onHalf barrier (·.releaseHolder) fun key => s.apply (.release key)
  | .dropWait barrier =>
      s.onHalf barrier (·.waitHolder) fun key => s.apply (.dropWait key)
  | .dropRelease barrier =>
      s.onHalf barrier (·.releaseHolder) fun key => s.apply (.dropRelease key)
  | .abort task =>
      match s.tasks.lookup task with
      | some id => (.nothing, s.apply (.abort id))
      | none => (.bad, s)
  | .invoke task words ctx => s.invoke task words ctx
  | .batch steps => (.nothing, stepAll s steps)
  | .unknown => (.bad, s)

/-- Does steps one after the other. -/
def stepAll (s : State) : List Step → State
  | [] => s
  | step :: rest => stepAll (State.step s step).2 rest
end

end State

/-! ### Answers -/

/-- The text that stands for the id of the request in an answer. -/
def idMark : String := "$id"

/-- An answer with the id of the request in its place. -/
def withId (id : Nat) : Json → Json
  | .object members =>
      .object <| members.map fun m =>
        match m with
        | ("id", .string text) => ("id", if text = idMark then .int id else .string text)
        | other => other
  | j => j

/-- The requests that were written, from a place in the trace on. -/
def written (w : World) (start : Nat) : List Request :=
  (w.trace.drop start).filterMap fun
    | .wrote _ request => some request
    | _ => none

/-- The browser makes a move in answer to the request with an id. -/
def makeMove (id : Nat) (s : State) : Move → State
  | .say message => s.apply (.inject (withId id message))
  | .leave => s.apply .disconnect

/-- The browser answers a request, if there is an answer left for its method. -/
def answerRequest (s : State) (r : Request) : State :=
  match s.replies.lookup r.method with
  | some (moves :: rest) =>
      moves.foldl (makeMove r.id) { s with replies := Names.bind s.replies r.method rest }
  | _ => s

/-- How many answers are left. -/
def repliesLeft (s : State) : Nat :=
  s.replies.foldr (fun entry left => entry.2.length + left) 0

/-- Runs to rest and lets the browser answer what was written from a place in the trace
on, until nothing more is written or answered; `rounds` bounds how often. -/
def settleWithAnswers : Nat → Nat → State → State
  | 0, _, s => s.settle
  | rounds + 1, start, s =>
      let s := s.settle
      if s.disconnected then s
      else
        let requests := written s.world start
        let answered := requests.foldl answerRequest s
        if repliesLeft answered = repliesLeft s then s
        else settleWithAnswers rounds s.world.trace.length answered

/-! ### Reports -/

/-- What became of one barrier: whether it is matched, while its wait is still there,
and whether it is released, while its release is. -/
structure BarrierReport where
  matched : Option Bool
  released : Option Bool
deriving Repr

/-- The state of one page. -/
structure PageReport where
  frame : Option FrameId
  listeners : Nat
deriving Repr

/-- How a task ended: with what, and what it had printed. -/
structure TaskReport where
  outcome : Outcome
  printed : String
deriving Repr

/-- What is reported after a step. -/
structure Report where
  step : StepValue
  sent : List Request
  ended : Names TaskReport
  pending : List String
  seen : Names (List (Event × Option FrameId))
  closed : Bool
  contexts : Names (Option Error)
  barriers : Names BarrierReport
  pages : Names PageReport

/-- What a task has printed. -/
def printedBy (w : World) (task : TaskId) : String :=
  String.join <| w.trace.filterMap fun
    | .printed by_ text => if by_ = task then some text else none
    | _ => none

/-- The tasks that have ended since a time, with the names they were started under. -/
def endedSince (before after : State) : Names TaskReport :=
  after.taskNames.zipIdx.filterMap fun (name, id) =>
    match (before.world.tasks[id]?).bind Task.outcome?,
        (after.world.tasks[id]?).bind Task.outcome? with
    | none, some outcome => some (name, { outcome, printed := printedBy after.world id })
    | _, _ => none

/-- Adds one thing to the list of a name. -/
def addTo (name : String) (value : α) : Names (List α) → Names (List α)
  | [] => [(name, [value])]
  | (other, values) :: rest =>
      if other = name then (other, values ++ [value]) :: rest
      else (other, values) :: addTo name value rest

/-- What recorders noted, from a place in the trace on. -/
def seenSince (w : World) (start : Nat) : Names (List (Event × Option FrameId)) :=
  (w.trace.drop start).foldl
    (fun seen o =>
      match o with
      | .heard recorder event frame => addTo recorder (event, frame) seen
      | _ => seen)
    []

/-- The report on a barrier. -/
def barrierReport (w : World) (key : BarrierKey) : BarrierReport :=
  match w.barriers[key]? with
  | none => { matched := none, released := none }
  | some b =>
      { matched := if b.waitHolder = some .caller then some b.matched else none
        released :=
          if b.releaseHolder = some .caller then some (w.scopes.isCancelled b.scope) else none }

/-- The report on a page. -/
def pageReport (w : World) (key : PageKey) : PageReport :=
  match w.pages[key]? with
  | none => { frame := none, listeners := 0 }
  | some p => { frame := p.frame, listeners := p.listeners.liveCount w.scopes }

/-- The report on what happened between two states. -/
def report (value : StepValue) (before after : State) : Report :=
  let w := after.world
  let start := before.world.trace.length
  { step := value
    sent := if after.disconnected then [] else written w start
    ended := endedSince before after
    pending :=
      (after.tasks.filter fun entry =>
        match w.tasks[entry.2]? with
        | some task => task.isRunning
        | none => false).map (·.1)
    seen := seenSince w start
    closed := w.connection.closed
    contexts := after.contexts.map fun entry => (entry.1, w.endOf entry.2)
    barriers := after.barriers.map fun entry => (entry.1, barrierReport w entry.2)
    pages := after.pages.map fun entry => (entry.1, pageReport w entry.2.key) }

/-- Does a step, runs everything to rest, and reports. -/
def stepAndReport (s : State) (step : Step) : Report × State :=
  let (value, next) := s.step step
  let rested := settleWithAnswers (repliesLeft next + 1) s.world.trace.length next
  (report value s rested, rested)

/-- The reports on all steps, with the state after the last one. -/
def runFrom (s : State) : List Step → List Report × State
  | [] => ([], s)
  | step :: rest =>
      let (report, next) := stepAndReport s step
      let (reports, last) := runFrom next rest
      (report :: reports, last)

/-- Runs a script. -/
def run (setup : Setup) (steps : List Step) : List Report × State :=
  runFrom (.initial setup) steps

end PagePilot.Scenario
