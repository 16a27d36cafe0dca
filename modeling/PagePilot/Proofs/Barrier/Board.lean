import PagePilot.Proofs.Machine.Step
/-!
# PagePilot.Proofs.Barrier.Board

The part of the world that barriers live in: scopes, barriers and listeners
(`World.board`). Of all that can happen only a few things concern it, and
`apply_board` lists them. What is proved of barriers is proved for each of these
(`BoardStep`), and for nothing else.

* `World.arming?` is the barrier that is armed by a transition, with its page, its context
  and the events it waits for;
* `World.delivered?` is the event that reaches a page by a transition.
-/

namespace PagePilot

open Wire

/-- What a barrier was armed for. -/
structure Arming where
  page : PageKey
  ctx : Context
  wanted : Event → Bool

/-- What barriers live in. -/
structure Board where
  scopes : Scopes
  barriers : List Barrier
  listeners : PageKey → Option (Listeners Handler)

/-- A board on which the listeners of one page have changed. -/
def Board.onPage (b : Board) (page : PageKey) (f : Listeners Handler → Listeners Handler) :
    Board :=
  { b with
    listeners := fun page' =>
      if page' = page then (b.listeners page').map f else b.listeners page' }

/-- Whether an act arms a barrier. -/
def Act.arms : Act → Bool
  | .arm .. => true
  | _ => false

/-- Whether a transition cancels a context or releases a barrier. -/
def Transition.cuts : Transition → Bool
  | .cancel _ | .release _ => true
  | _ => false

namespace World

/-- The board of a world. -/
def board (w : World) : Board where
  scopes := w.scopes
  barriers := w.barriers
  listeners page := w.pages[page]?.map (·.listeners)

/-- The frame that a navigation on a page would load into. -/
def frameOf (w : World) (page : PageKey) : FrameId :=
  match w.pages[page]? with
  | some p => p.navigatedFrame
  | none => .unknown

/-- The barrier that is armed by a transition. -/
def arming? (w : World) (t : Transition) : Option (BarrierKey × Arming) :=
  match t with
  | .arm page ctx wanted => some (w.barriers.length, ⟨page, ctx, wanted⟩)
  | .armMilestone page ctx milestone =>
      some (w.barriers.length, ⟨page, ctx, Event.isMilestone (w.frameOf page) milestone⟩)
  | .step task =>
      match w.deed? (.step task) with
      | some (_, ⟨.arm page ctx milestone, key⟩) =>
          some (key, ⟨page, ctx, Event.isMilestone (w.frameOf page) milestone⟩)
      | _ => none
  | _ => none

/-- The event that reaches a page by a transition. -/
def delivered? (w : World) (t : Transition) : Option (PageKey × Event) :=
  match t with
  | .deliver page event => some (page, event)
  | .read =>
      match w.incoming? .read with
      | some (.event e) =>
          match w.connection.routeOf? e.sessionId with
          | some page => if w.isAlive page then some (page, .decode e.method e.params) else none
          | none => none
      | _ => none
  | _ => none

/-- The ways to arm a barrier. -/
inductive ArmsBy (w : World) : Transition → Arming → Prop
  | caller (page : PageKey) (ctx : Context) (wanted : Event → Bool) :
      ArmsBy w (.arm page ctx wanted) ⟨page, ctx, wanted⟩
  | milestone (page : PageKey) (ctx : Context) (milestone : String) :
      ArmsBy w (.armMilestone page ctx milestone)
        ⟨page, ctx, Event.isMilestone (w.frameOf page) milestone⟩
  | task {task : TaskId} {page : PageKey} {ctx : Context} {milestone : String}
      {next : BarrierKey → Program Outcome}
      (h : w.tasks[task]? = some (.running (.act (.arm page ctx milestone) next))) :
      ArmsBy w (.step task) ⟨page, ctx, Event.isMilestone (w.frameOf page) milestone⟩

/-- Barriers are numbered in the order of their arming. -/
theorem armsBy_of_arming {w : World} {t : Transition} {key : BarrierKey} {a : Arming}
    (h : w.arming? t = some (key, a)) : key = w.barriers.length ∧ w.ArmsBy t a := by
  cases t
  case arm | armMilestone =>
    cases h
    exact ⟨rfl, by constructor⟩
  case step task =>
    simp only [arming?] at h
    split at h
    next task' page ctx milestone key' hd =>
      cases h
      obtain ⟨heq, next, w', hrest, hp⟩ := deed?_eq_some hd
      cases heq
      cases hp
      exact ⟨rfl, .task hrest⟩
    next => cases h
  all_goals cases h

/-- Nothing is armed, cancelled, released or delivered by a transition. -/
structure Plain (w : World) (t : Transition) : Prop where
  arming : w.arming? t = none
  delivered : w.delivered? t = none
  uncut : t.cuts = false

theorem Plain.cancel {w : World} {t : Transition} (h : w.Plain t) (scope : ScopeId) :
    t ≠ .cancel scope := by
  rintro rfl
  cases h.uncut

theorem Plain.release {w : World} {t : Transition} (h : w.Plain t) (key : BarrierKey) :
    t ≠ .release key := by
  rintro rfl
  cases h.uncut

/-- The ways to let go of a half of a barrier. -/
inductive Loosens (w : World) : Transition → BarrierKey → (Barrier → Barrier) → Prop
  | disarm {t : Transition} {task : TaskId} {key : BarrierKey}
      (h : w.deed? t = some (task, ⟨.disarm key, ()⟩)) :
      Loosens w t key (·.dropHalves (.task task))
  | dropHalves (key : BarrierKey) : Loosens w (.dropHalves key) key (·.dropHalves .caller)
  | dropWait (key : BarrierKey) :
      Loosens w (.dropWait key) key fun b => { b with waitHolder := none }
  | dropRelease (key : BarrierKey) :
      Loosens w (.dropRelease key) key fun b => { b with releaseHolder := none }

/-- A task that is running ends, or is dropped. -/
inductive Retires (w : World) : Transition → TaskId → Prop
  | finish {task : TaskId} {outcome : Outcome}
      (h : w.tasks[task]? = some (.running (.done outcome))) : Retires w (.step task) task
  | abort {task : TaskId} {p : Program Outcome} (h : w.tasks[task]? = some (.running p)) :
      Retires w (.abort task) task

/-- What a transition does to the board, from a world with the same board. -/
inductive BoardStep (w : World) (t : Transition) (w₀ : World) : World → Prop
  | rest (h : w.Plain t) : BoardStep w t w₀ w₀
  | newScope (parent : Option ScopeId) (ht : t = .newScope parent) :
      BoardStep w t w₀ (w₀.newScope parent)
  | cancel (scope : ScopeId) (ht : t = .cancel scope) : BoardStep w t w₀ (w₀.cancel scope)
  | openPage (session : Option SessionId) (frame : Option FrameId) (holder : Holder)
      (h : w.Plain t) : BoardStep w t w₀ (w₀.openPage session frame holder)
  | arm {a : Arming} (holder : Holder) (h : w.arming? t = some (w.barriers.length, a))
      (hholder : ∀ task d, w.deed? t = some (task, d) → holder = .task task) :
      BoardStep w t w₀ (w₀.arm a.page a.ctx a.wanted holder)
  | give (key : BarrierKey) (task : TaskId) (ht : t = .giveWait key task) :
      BoardStep w t w₀ (w₀.modifyBarrier key fun b => { b with waitHolder := some (.task task) })
  | release (key : BarrierKey) (ht : t = .release key) : BoardStep w t w₀ (w₀.release key)
  | loosen {key : BarrierKey} {f : Barrier → Barrier} (h : w.Loosens t key f) :
      BoardStep w t w₀ (w₀.regrip key f)
  | retire {task : TaskId} (h : w.Retires t task) : BoardStep w t w₀ (w₀.dropHoldings (.task task))
  | listen (page : PageKey) (scope : ScopeId) (recorder : String)
      (ht : t = .listen page scope recorder) :
      BoardStep w t w₀ (w₀.listen page scope (.recorder recorder))
  | deliver {page : PageKey} {event : Event} (h : w.delivered? t = some (page, event)) :
      BoardStep w t w₀ (w₀.deliver page event)

/-- What a transition does to the board, with the changes beside the board left out. -/
structure BoardSteps (w : World) (t : Transition) (w' : World) : Prop where
  step : ∃ w₀ w₁, w₀.board = w.board ∧ w.BoardStep t w₀ w₁ ∧ w'.board = w₁.board

theorem BoardSteps.of_eq {w w' : World} {t : Transition} (ht : w.Plain t)
    (h : w'.board = w.board) : w.BoardSteps t w' :=
  ⟨w, w, rfl, .rest ht, h⟩

theorem plain_of_deed {w : World} {task : TaskId} {d : Deed}
    (hd : w.deed? (.step task) = some (task, d)) (h : d.act.arms = false) :
    w.Plain (.step task) := by
  refine ⟨?_, rfl, rfl⟩
  simp only [arming?, hd]
  split
  · rename_i heq
    cases heq
    cases h
  · rfl

theorem plain_of_no_deed {w : World} {task : TaskId} (hd : w.deed? (.step task) = none) :
    w.Plain (.step task) :=
  ⟨by simp [arming?, hd], rfl, rfl⟩

theorem modifyPage_onPage (w : World) (page : PageKey) {f : PageState → PageState}
    {g : Listeners Handler → Listeners Handler} (h : ∀ p, (f p).listeners = g p.listeners) :
    (w.modifyPage page f).board = w.board.onPage page g := by
  refine congrArg (Board.mk w.scopes w.barriers) (funext ?_)
  intro page'
  simp only [modifyPage, List.getElem?_modify, board]
  cases w.pages[page']? with
  | none => simp
  | some p =>
    by_cases hpage : page = page'
    · simp [hpage, h]
    · simp [hpage, Ne.symm hpage]

theorem listen_board (w : World) (page : PageKey) (scope : ScopeId) (handler : Handler) :
    (w.listen page scope handler).board = w.board.onPage page (·.listen w.scopes scope handler) :=
  modifyPage_onPage w page fun _ => rfl

theorem modifyPage_board (w : World) (page : PageKey) {f : PageState → PageState}
    (h : ∀ p, (f p).listeners = p.listeners) : (w.modifyPage page f).board = w.board := by
  rw [modifyPage_onPage w page (g := fun l => l) h]
  refine congrArg (Board.mk w.scopes w.barriers) (funext ?_)
  intro page'
  split
  · exact Option.map_id'
  · rfl

theorem startReading_board (w : World) (owner : Option TaskId) :
    (w.startReading owner).2.board = w.board := by
  unfold startReading
  split <;> rfl

theorem answer_board (w : World) (r : Response) : (w.answer r).board = w.board := by
  unfold answer
  split <;> rfl

/-- The world in which a task lets go of what it holds at its end. -/
def retiring (w : World) (task : TaskId) (state : Task) : World :=
  { w.setTask task state with
    inbound := { w.inbound with reading := Reading.without task w.inbound.reading } }

theorem retire_board (w : World) {t : Transition} {task : TaskId} (state : Task)
    (h : w.Retires t task) : w.BoardSteps t (w.retire task state) :=
  ⟨w.retiring task state, (w.retiring task state).dropHoldings (.task task), rfl, .retire h, rfl⟩

theorem step_board (w : World) (task : TaskId) : w.BoardSteps (.step task) (w.step task) := by
  unfold step
  match htask : w.tasks[task]? with
  | some (.running (.done outcome)) => exact retire_board w (.ended outcome) (.finish htask)
  | some (.running (.act a next)) =>
    cases hp : w.perform task a with
    | none =>
      simp only [hp]
      exact .of_eq (plain_of_no_deed (by simp [deed?, htask, hp])) rfl
    | some r =>
      obtain ⟨reply, w'⟩ := r
      simp only [hp]
      have hd : w.deed? (.step task) = some (task, ⟨a, reply⟩) := by simp [deed?, htask, hp]
      cases performed_of_perform hp with
      | learn hquiet | note hquiet =>
        refine .of_eq (plain_of_deed hd ?_) rfl
        cases a <;> first | rfl | cases hquiet
      | allocate | park | unpark | save => exact .of_eq (plain_of_deed hd rfl) rfl
      | startReading => exact .of_eq (plain_of_deed hd rfl) (startReading_board ..)
      | setFrame page | handOver page =>
        exact .of_eq (plain_of_deed hd rfl) (modifyPage_board w page fun _ => rfl)
      | disarm key => exact ⟨w, _, rfl, .loosen (.disarm hd), rfl⟩
      | openPage session =>
        exact ⟨w, _, rfl, .openPage (some session) none (.task task) (plain_of_deed hd rfl), rfl⟩
      | arm page ctx milestone =>
        cases hp
        refine ⟨w, _, rfl, .arm (a := ⟨page, ctx, Event.isMilestone (w.frameOf page) milestone⟩)
          (.task task) ?_ ?_, rfl⟩
        · simp [arming?, hd]
        · intro task' d hd'
          cases hd.symm.trans hd'
          rfl
  | some (.ended _) | some .aborted | none =>
    exact .of_eq (plain_of_no_deed (by simp [deed?, htask])) rfl

/-- An event is handed to the page of its session, if that is still there. -/
theorem hand_board (w : World) (e : EventMessage) :
    (w.hand e).board = w.board ∧
        (∀ page, w.connection.routeOf? e.sessionId = some page → w.isAlive page = false) ∨
      ∃ page, w.connection.routeOf? e.sessionId = some page ∧ w.isAlive page = true ∧
        w.hand e = (w.note (.handed page e.method e.params)).deliver page
          (.decode e.method e.params) := by
  unfold hand
  cases w.connection.routeOf? e.sessionId with
  | none => exact .inl ⟨rfl, fun _ h => absurd h.symm (Option.some_ne_none _)⟩
  | some page =>
    cases halive : w.isAlive page with
    | true => exact .inr ⟨page, rfl, halive, by simp [halive]⟩
    | false =>
      refine .inl ⟨?_, ?_⟩
      · simp only [halive]
        rfl
      · intro page' h
        cases h
        exact halive

theorem delivered?_read {w : World} {owner : Option TaskId} {message : Json} {rest : List Json}
    (hreading : w.inbound.reading = .running owner) (hinbox : w.inbound.inbox = message :: rest) :
    w.delivered? .read = match Message.decode message with
      | .ok (.event e) =>
          match w.connection.routeOf? e.sessionId with
          | some page => if w.isAlive page then some (page, .decode e.method e.params) else none
          | none => none
      | _ => none := by
  simp only [delivered?, incoming?, hreading, hinbox]
  cases Message.decode message with
  | error cause => rfl
  | ok m => cases m <;> rfl

theorem plain_of_no_message {w : World} (h : w.incoming? .read = none) : w.Plain .read :=
  ⟨rfl, by simp [delivered?, h], rfl⟩

theorem read_board (w : World) : w.BoardSteps .read w.read := by
  unfold read
  cases hreading : w.inbound.reading with
  | notStarted | ended | stopped | closing =>
    exact .of_eq (plain_of_no_message (by simp [incoming?, hreading])) rfl
  | running owner =>
    cases hinbox : w.inbound.inbox with
    | nil =>
      have hplain : w.Plain .read := plain_of_no_message (by simp [incoming?, hreading, hinbox])
      dsimp only
      split <;> exact .of_eq hplain rfl
    | cons message rest =>
      have hdelivered := delivered?_read hreading hinbox
      dsimp only [take]
      cases hdecode : Message.decode message with
      | error cause => exact .of_eq ⟨rfl, by rw [hdelivered, hdecode], rfl⟩ rfl
      | ok m =>
        cases m with
        | response r => exact .of_eq ⟨rfl, by rw [hdelivered, hdecode], rfl⟩ (answer_board ..)
        | event e =>
          -- An event concerns the board only if the page of its session is still there.
          dsimp only
          rw [hdecode] at hdelivered
          dsimp only at hdelivered
          rcases hand_board { w with inbound := { w.inbound with inbox := rest } } e with
            ⟨h, hgone⟩ | ⟨page, hroute, halive, h⟩
          · refine .of_eq ⟨rfl, ?_, rfl⟩ h
            rw [hdelivered]
            split
            · rename_i page hroute
              exact if_neg (Bool.eq_false_iff.mp (hgone page hroute))
            · rfl
          · have hroute' : w.connection.routeOf? e.sessionId = some page := hroute
            rw [hroute'] at hdelivered
            rw [h]
            exact ⟨note { w with inbound := { w.inbound with inbox := rest } } _, _, rfl,
              .deliver (hdelivered.trans (if_pos halive)), rfl⟩

/-- All that a transition can do to the board. -/
theorem apply_board (w : World) (t : Transition) : w.BoardSteps t (w.apply t) := by
  cases t with
  | step task => exact step_board w task
  | read => exact read_board w
  | newScope parent => exact ⟨w, _, rfl, .newScope parent rfl, rfl⟩
  | cancel scope => exact ⟨w, _, rfl, .cancel scope rfl, rfl⟩
  | openPage session frame =>
    exact ⟨w, _, rfl, .openPage session frame .caller ⟨rfl, rfl, rfl⟩, rfl⟩
  | arm page ctx wanted =>
    exact ⟨w, _, rfl, .arm (a := ⟨page, ctx, wanted⟩) .caller rfl
      (fun _ _ h => nomatch (deed?_eq_some h).1), rfl⟩
  | armMilestone page ctx milestone =>
    exact ⟨w, _, rfl, .arm (a := ⟨page, ctx, Event.isMilestone (w.frameOf page) milestone⟩) .caller
      rfl (fun _ _ h => nomatch (deed?_eq_some h).1), rfl⟩
  | giveWait key task => exact ⟨w, _, rfl, .give key task rfl, rfl⟩
  | release key => exact ⟨w, _, rfl, .release key rfl, rfl⟩
  | dropHalves key => exact ⟨w, _, rfl, .loosen (.dropHalves key), rfl⟩
  | dropWait key => exact ⟨w, _, rfl, .loosen (.dropWait key), rfl⟩
  | dropRelease key => exact ⟨w, _, rfl, .loosen (.dropRelease key), rfl⟩
  | listen page scope recorder => exact ⟨w, _, rfl, .listen page scope recorder rfl, rfl⟩
  | deliver page event => exact ⟨w, _, rfl, .deliver rfl, rfl⟩
  | abort task =>
    simp only [apply, abort]
    split
    · rename_i p htask
      exact retire_board w .aborted (.abort htask)
    · exact .of_eq ⟨rfl, rfl, rfl⟩ rfl
  | startReading => exact .of_eq ⟨rfl, rfl, rfl⟩ (startReading_board ..)
  | inject message =>
    simp only [apply, inject]
    split <;> exact .of_eq ⟨rfl, rfl, rfl⟩ rfl
  | receive =>
    simp only [apply, receive]
    split <;> exact .of_eq ⟨rfl, rfl, rfl⟩ rfl
  | stopReading =>
    simp only [apply, stopReading]
    split <;> exact .of_eq ⟨rfl, rfl, rfl⟩ rfl
  | setFrame page | dropPage page | sharePage page =>
    exact .of_eq ⟨rfl, rfl, rfl⟩ (modifyPage_board w page fun _ => rfl)
  | tick | serve | spawn | disconnect | refuse | route | unroute =>
    exact .of_eq ⟨rfl, rfl, rfl⟩ rfl

end World

end PagePilot
