import PagePilot.Machine.Transition
/-!
# PagePilot.Proofs.Machine.Frame

What each doing leaves as it is. Whatever happens on pages leaves the connection, the
inbound side, the clocks and the tasks alone (`World.Aside`), and an act of a task leaves
all tasks alone: only the step around the act moves the task on.
-/

namespace PagePilot

open Wire

/-- Whether an act changes nothing but the trace. -/
def Act.isQuiet : Act → Bool
  | .allocate | .park _ | .unpark _ | .arm .. | .disarm _ | .openPage _ | .setFrame .. | .handOver _
    | .startReading | .save .. => false
  | _ => true

namespace World

/-! ### What happens on pages -/

/-- `w'` differs from `w` at most in pages, barriers, scopes and the trace. -/
structure Aside (w w' : World) : Prop where
  now : w'.now = w.now
  served : w'.served = w.served
  connection : w'.connection = w.connection
  inbound : w'.inbound = w.inbound
  refused : w'.refused = w.refused
  tasks : w'.tasks = w.tasks

namespace Aside

variable {w w' w'' : World}

theorem refl (w : World) : w.Aside w := ⟨rfl, rfl, rfl, rfl, rfl, rfl⟩

theorem trans (h : w.Aside w') (h' : w'.Aside w'') : w.Aside w'' where
  now := h'.now.trans h.now
  served := h'.served.trans h.served
  connection := h'.connection.trans h.connection
  inbound := h'.inbound.trans h.inbound
  refused := h'.refused.trans h.refused
  tasks := h'.tasks.trans h.tasks

end Aside

theorem note_aside (w : World) (o : Occurrence) : w.Aside (w.note o) := ⟨rfl, rfl, rfl, rfl, rfl, rfl⟩

theorem modifyPage_aside (w : World) (key : PageKey) (f : PageState → PageState) :
    w.Aside (w.modifyPage key f) := ⟨rfl, rfl, rfl, rfl, rfl, rfl⟩

theorem cancel_aside (w : World) (scope : ScopeId) : w.Aside (w.cancel scope) :=
  ⟨rfl, rfl, rfl, rfl, rfl, rfl⟩

theorem release_aside (w : World) (key : BarrierKey) : w.Aside (w.release key) := by
  unfold release
  split
  · exact cancel_aside ..
  · exact .refl w

theorem dropHoldings_aside (w : World) (holder : Holder) : w.Aside (w.dropHoldings holder) :=
  ⟨rfl, rfl, rfl, rfl, rfl, rfl⟩

theorem handle_aside (page : PageKey) (event : Event) (handler : Handler) (w : World) :
    w.Aside (handle page event handler w) := by
  cases handler with
  | recorder name => exact note_aside ..
  | barrier key wanted =>
    dsimp only [handle]
    split
    · exact ⟨rfl, rfl, rfl, rfl, rfl, rfl⟩
    · exact .refl w

theorem callAll_aside (page : PageKey) (event : Event) (regs : List (Registration Handler))
    (w : World) : w.Aside (Listeners.callAll (·.scopes) (handle page event) regs w) := by
  induction regs generalizing w with
  | nil => exact .refl w
  | cons r rest ih =>
    unfold Listeners.callAll
    split
    · exact ih w
    · exact (handle_aside ..).trans (ih _)

/-- The world in which a page has followed its main frame. -/
def follow (w : World) (page : PageKey) (event : Event) : World :=
  match event.mainFrame? with
  | some frame => w.modifyPage page fun p => { p with frame := some frame }
  | none => w

/-- The calls of those who listen on a page. -/
def callListeners (w : World) (page : PageKey) (event : Event) : World :=
  match w.pages[page]? with
  | none => w
  | some p =>
      Listeners.callAll (·.scopes) (handle page event) (p.listeners.live w.scopes)
        (w.modifyPage page fun p => { p with listeners := p.listeners.prune w.scopes })

/-- The page itself comes first, then those who listen. -/
theorem deliver_eq_callListeners (w : World) (page : PageKey) (event : Event) :
    w.deliver page event = (w.follow page event).callListeners page event := rfl

theorem deliver_aside (w : World) (page : PageKey) (event : Event) :
    w.Aside (w.deliver page event) := by
  have hfollow : w.Aside (w.follow page event) := by
    unfold follow
    split
    · exact modifyPage_aside ..
    · exact .refl w
  rw [deliver_eq_callListeners]
  refine hfollow.trans ?_
  unfold callListeners
  split
  · exact .refl _
  · exact (modifyPage_aside ..).trans (callAll_aside ..)

/-! ### Acts -/

/-- What an act does to the requests of a connection. -/
def onRequests : Act → Connection → Connection
  | .allocate, c => c.allocate
  | .park id, c => c.park id
  | .unpark id, c => c.unpark id
  | _, c => c

theorem onRequests_of_isQuiet {a : Act} (h : a.isQuiet = true) (c : Connection) :
    onRequests a c = c := by
  cases a <;> first | rfl | cases h

/-- What becomes of the world by an act of a task. -/
inductive Performed (w : World) (task : TaskId) : Act → World → Prop
  /-- Nothing: the task only learns something. -/
  | learn {a : Act} (h : a.isQuiet = true) : Performed w task a w
  | note {a : Act} (h : a.isQuiet = true) (o : Occurrence) :
      Performed w task a (w.note o)
  | allocate : Performed w task .allocate (w.modifyConnection (·.allocate))
  | park (id : Nat) : Performed w task (.park id) (w.modifyConnection (·.park id))
  | unpark (id : Nat) : Performed w task (.unpark id) (w.modifyConnection (·.unpark id))
  | arm (page : PageKey) (ctx : Context) (milestone : String) :
      Performed w task (.arm page ctx milestone) (w.armMilestone page ctx milestone (.task task))
  | disarm (key : BarrierKey) :
      Performed w task (.disarm key) (w.regrip key (·.dropHalves (.task task)))
  | openPage (session : SessionId) :
      Performed w task (.openPage session)
        ((w.openPage (some session) none (.task task)).modifyConnection
          (·.route (some session) w.pages.length))
  | setFrame (page : PageKey) (frame : FrameId) :
      Performed w task (.setFrame page frame)
        (w.modifyPage page fun p => { p with frame := some frame })
  | handOver (page : PageKey) :
      Performed w task (.handOver page)
        (w.modifyPage page fun p => { p with holders := p.holders ++ [.caller] })
  | startReading : Performed w task .startReading (w.startReading (some task)).2
  | save (path : String) (bytes : List UInt8) :
      Performed w task (.save path bytes) (w.save path bytes).2

theorem performed_of_perform {w w' : World} {task : TaskId} {a : Act} {reply : a.Reply}
    (h : w.perform task a = some (reply, w')) : w.Performed task a w' := by
  cases a
  case endOf | clock | isClosed | connect =>
    cases h
    exact .learn rfl
  case awaitEnd | sleep | awaitReply | awaitMatch =>
    obtain ⟨_, -, h⟩ := Option.map_eq_some_iff.mp h
    cases h
    exact .learn rfl
  case awaitReader =>
    simp only [perform] at h
    split at h
    · cases h
      exact .learn rfl
    · cases h
  case print | log =>
    cases h
    exact .note rfl _
  case write request =>
    obtain rfl : (w.write task request).2 = w' := congrArg Prod.snd (Option.some.inj h)
    unfold write
    split
    · exact .learn rfl
    · exact .note rfl _
  case get origin path =>
    obtain rfl : (w.get origin path).2 = w' := congrArg Prod.snd (Option.some.inj h)
    unfold get
    split
    · exact .learn rfl
    · exact .note rfl _
  case startReading =>
    obtain rfl : (w.startReading (some task)).2 = w' := congrArg Prod.snd (Option.some.inj h)
    exact .startReading
  case save path bytes =>
    obtain rfl : (w.save path bytes).2 = w' := congrArg Prod.snd (Option.some.inj h)
    exact .save path bytes
  all_goals
    cases h
    constructor

theorem startReading_tasks (w : World) (owner : Option TaskId) :
    (w.startReading owner).2.tasks = w.tasks := by
  unfold startReading
  split <;> rfl

/-- No act moves a task on, not even the one that does it. -/
theorem perform_tasks {w w' : World} {task : TaskId} {a : Act} {reply : a.Reply}
    (h : w.perform task a = some (reply, w')) : w'.tasks = w.tasks := by
  cases performed_of_perform h with
  | startReading => exact startReading_tasks ..
  | learn | note | allocate | park | unpark | arm | disarm | openPage | setFrame | handOver | save =>
    rfl

end World

end PagePilot
