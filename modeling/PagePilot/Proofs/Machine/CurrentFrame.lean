import PagePilot.Proofs.Barrier.Delivery
/-!
# PagePilot.Proofs.Machine.CurrentFrame

The current frame of a page. It is written by the events of the main frame that reach the
page, by tasks that learn it from the browser, and from outside (`World.frameSet?`), and
by nothing else (`World.apply_currentFrame`).
-/

namespace PagePilot

open Wire

/-- The frame that an act writes, and the page that it writes it to. -/
def Act.frameSet? : Act → Option (PageKey × FrameId)
  | .setFrame page frame => some (page, frame)
  | _ => none

namespace World

/-- The frame that was last reported as the main one of a page. -/
def currentFrame (w : World) (page : PageKey) : Option FrameId :=
  w.pages[page]?.bind (·.frame)

/-- The frame that is written by a transition, and the page that it is written to. -/
def frameSet? (w : World) : Transition → Option (PageKey × FrameId)
  | .setFrame page frame => some (page, frame)
  | .step task => (w.deed? (.step task)).bind fun d => d.2.act.frameSet?
  | t => (w.delivered? t).bind fun d => d.2.mainFrame?.map (d.1, ·)

/-- The current frame of a page after one was written, or none. -/
def frameAfter (w : World) (set : Option (PageKey × FrameId)) (page : PageKey) : Option FrameId :=
  match set with
  | some (page', frame) => if page' = page then some frame else w.currentFrame page
  | none => w.currentFrame page

variable {w : World} {page page' : PageKey}

theorem currentFrame_modifyPage {f : PageState → PageState} (h : ∀ p, (f p).frame = p.frame) :
    (w.modifyPage page' f).currentFrame page = w.currentFrame page := by
  simp only [currentFrame, modifyPage, List.getElem?_modify]
  cases w.pages[page]? with
  | none => rfl
  | some p =>
    by_cases hpage : page' = page
    · simp [hpage, h]
    · simp [hpage]

theorem currentFrame_setFrame (h : page < w.pages.length) (frame : FrameId) :
    (w.modifyPage page' fun p => { p with frame := some frame }).currentFrame page =
      w.frameAfter (some (page', frame)) page := by
  simp only [currentFrame, frameAfter, modifyPage, List.getElem?_modify,
    List.getElem?_eq_getElem h]
  by_cases hpage : page' = page
  · simp [hpage]
  · simp [hpage]

theorem currentFrame_callListeners (event : Event) :
    (w.callListeners page' event).currentFrame page = w.currentFrame page := by
  unfold callListeners
  split
  · rfl
  · unfold currentFrame
    rw [callAll_pages]
    exact currentFrame_modifyPage fun _ => rfl

theorem currentFrame_deliver (h : page < w.pages.length) (event : Event) :
    (w.deliver page' event).currentFrame page =
      w.frameAfter (event.mainFrame?.map (page', ·)) page := by
  rw [deliver_eq_callListeners, currentFrame_callListeners, follow]
  cases event.mainFrame? with
  | none => rfl
  | some frame => exact currentFrame_setFrame h frame

theorem currentFrame_openPage (h : page < w.pages.length) (session : Option SessionId)
    (frame : Option FrameId) (holder : Holder) :
    (w.openPage session frame holder).currentFrame page = w.currentFrame page := by
  simp only [currentFrame, openPage]
  rw [List.getElem?_append_left h]

theorem currentFrame_dropHoldings (holder : Holder) :
    (w.dropHoldings holder).currentFrame page = w.currentFrame page := by
  simp only [currentFrame, dropHoldings, releaseAbandoned, List.getElem?_map]
  cases w.pages[page]? <;> rfl

theorem currentFrame_perform {w' : World} {task : TaskId} {a : Act} {reply : a.Reply}
    (h : page < w.pages.length) (hp : w.perform task a = some (reply, w')) :
    w'.currentFrame page = w.frameAfter a.frameSet? page := by
  cases performed_of_perform hp with
  | learn hquiet | note hquiet => cases a <;> first | rfl | cases hquiet
  | allocate | park | unpark | disarm | save => rfl
  | startReading =>
    unfold startReading
    cases w.inbound.reading <;> rfl
  | setFrame page' frame => exact currentFrame_setFrame h frame
  | handOver page' => exact currentFrame_modifyPage fun _ => rfl
  | arm => exact currentFrame_modifyPage fun _ => rfl
  | openPage session => exact currentFrame_openPage h ..

theorem currentFrame_step (h : page < w.pages.length) (task : TaskId) :
    (w.step task).currentFrame page = w.frameAfter (w.frameSet? (.step task)) page := by
  match htask : w.tasks[task]? with
  | some (.running (.done outcome)) =>
    simp only [step, frameSet?, deed?, htask]
    exact currentFrame_dropHoldings ..
  | some (.running (.act a next)) =>
    cases hp : w.perform task a with
    | none => simp [step, frameSet?, deed?, htask, hp, frameAfter]
    | some result =>
      have hframe := currentFrame_perform h hp
      simp only [step, frameSet?, deed?, htask, hp]
      exact hframe
  | some (.ended _) | some .aborted | none => simp [step, frameSet?, deed?, htask, frameAfter]

/-- An event that is taken in writes a frame if the page of its session is still there. -/
theorem currentFrame_hand (h : page < w.pages.length) (e : EventMessage) :
    (w.hand e).currentFrame page = w.frameAfter
      ((match w.connection.routeOf? e.sessionId with
        | some page => if w.isAlive page then some (page, Event.decode e.method e.params) else none
        | none => none).bind fun d => d.2.mainFrame?.map (d.1, ·)) page := by
  unfold hand
  cases w.connection.routeOf? e.sessionId with
  | none => rfl
  | some page' =>
    dsimp only
    split
    · exact currentFrame_deliver (w := w.note (.handed page' e.method e.params)) h _
    · rfl

theorem currentFrame_read (h : page < w.pages.length) :
    w.read.currentFrame page = w.frameAfter (w.frameSet? .read) page := by
  unfold read
  cases hreading : w.inbound.reading with
  | notStarted | ended | stopped | closing =>
    simp only [frameSet?, delivered?, incoming?, hreading]
    rfl
  | running owner =>
    cases hinbox : w.inbound.inbox with
    | nil =>
      simp only [frameSet?, delivered?, incoming?, hreading, hinbox]
      split <;> rfl
    | cons message rest =>
      have hdelivered := delivered?_read hreading hinbox
      dsimp only [take, frameSet?]
      rw [hdelivered]
      cases Message.decode message with
      | error cause => rfl
      | ok m =>
        cases m with
        | response response =>
          dsimp only [answer]
          split <;> rfl
        | event e =>
          exact currentFrame_hand (w := { w with inbound := { w.inbound with inbox := rest } }) h e

/-- Nothing else writes the current frame of a page. -/
theorem apply_currentFrame (h : page < w.pages.length) (t : Transition) :
    (w.apply t).currentFrame page = w.frameAfter (w.frameSet? t) page := by
  cases t with
  | step task => exact currentFrame_step h task
  | read => exact currentFrame_read h
  | deliver page' event => exact currentFrame_deliver h event
  | setFrame page' frame => exact currentFrame_setFrame h frame
  | openPage session frame => exact currentFrame_openPage h ..
  | dropPage | sharePage | arm | armMilestone | listen => exact currentFrame_modifyPage fun _ => rfl
  | abort task =>
    simp only [apply, abort]
    split
    · exact currentFrame_dropHoldings ..
    · rfl
  | release key =>
    simp only [apply, release]
    split <;> rfl
  | inject message =>
    simp only [apply, inject]
    split <;> rfl
  | receive =>
    simp only [apply, receive]
    split <;> rfl
  | startReading =>
    simp only [apply, startReading]
    split <;> rfl
  | stopReading =>
    simp only [apply, stopReading]
    split <;> rfl
  | _ => rfl

end World

end PagePilot
