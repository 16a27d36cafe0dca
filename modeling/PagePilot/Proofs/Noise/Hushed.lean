import PagePilot.Proofs.Machine.Frame
/-!
# PagePilot.Proofs.Noise.Hushed

What noise cannot change of the world. A message that concerns nobody is on the way for a while, it
is complained about in the log, and if it is an event for a page that is gone, the page is struck
out of the routes. The world without all that is hushed (`World.hushed`), and what happens there is
what happens in the world itself:

* `World.hushed_deliver` says it of events on pages, `World.hushed_perform` of the acts of tasks;
* `World.hushed_apply` says it of all transitions but those of the reader, who looks at the
  messages and at the routes.
-/

namespace PagePilot

open Wire

/-- Whether an occurrence is a record in the log about a message that came in. -/
def Occurrence.isComplaint : Occurrence → Bool
  | .logged record => record.source == World.messageSource
  | _ => false

namespace World

/-- The world without what noise can change: the messages on the way, the routes and the
complaints. -/
def hushed (w : World) : World :=
  { w with
    connection := { w.connection with routes := [] }
    inbound := { w.inbound with wire := [], inbox := [] }
    trace := w.trace.filter fun o => !o.isComplaint }

variable (w : World)

theorem hushed_hushed : w.hushed.hushed = w.hushed := by
  simp [hushed]

theorem hushed_note {o : Occurrence} (h : o.isComplaint = false) :
    (w.note o).hushed = w.hushed.note o := by
  simp [hushed, note, h]

theorem hushed_complain {o : Occurrence} (h : o.isComplaint = true) :
    (w.note o).hushed = w.hushed := by
  simp [hushed, note, h]

theorem hushed_handle (page : PageKey) (event : Event) (handler : Handler) :
    (handle page event handler w).hushed = handle page event handler w.hushed := by
  cases handler with
  | recorder name => exact hushed_note w rfl
  | barrier key wanted =>
    have hbarriers : w.hushed.barriers = w.barriers := rfl
    have hmatched : ∀ scope f, (((w.modifyBarrier key f).note (.matched key)).cancel scope).hushed =
        ((w.hushed.modifyBarrier key f).note (.matched key)).cancel scope := by
      intro scope f
      exact congrArg (·.cancel scope) (hushed_note _ (o := .matched key) rfl)
    simp only [handle, hbarriers]
    split
    · exact hmatched ..
    · rfl

theorem hushed_callAll (page : PageKey) (event : Event) (regs : List (Registration Handler)) :
    (Listeners.callAll (·.scopes) (handle page event) regs w).hushed =
      Listeners.callAll (·.scopes) (handle page event) regs w.hushed := by
  induction regs generalizing w with
  | nil => rfl
  | cons reg rest ih =>
    show (Listeners.callAll _ _ rest (if w.scopes.isCancelled reg.scope then w else _)).hushed =
      Listeners.callAll _ _ rest (if w.scopes.isCancelled reg.scope then w.hushed else _)
    rw [ih]
    split
    · rfl
    · rw [hushed_handle]

theorem hushed_follow (page : PageKey) (event : Event) :
    (w.follow page event).hushed = w.hushed.follow page event := by
  unfold follow
  split <;> rfl

theorem hushed_callListeners (page : PageKey) (event : Event) :
    (w.callListeners page event).hushed = w.hushed.callListeners page event := by
  have hpages : w.hushed.pages = w.pages := rfl
  unfold callListeners
  rw [hpages]
  cases w.pages[page]? with
  | none => rfl
  | some p => exact hushed_callAll ..

theorem hushed_deliver (page : PageKey) (event : Event) :
    (w.deliver page event).hushed = w.hushed.deliver page event := by
  rw [deliver_eq_callListeners, deliver_eq_callListeners, hushed_callListeners, hushed_follow]

theorem hushed_release (key : BarrierKey) : (w.release key).hushed = w.hushed.release key := by
  have hbarriers : w.hushed.barriers = w.barriers := rfl
  unfold release
  rw [hbarriers]
  cases w.barriers[key]? <;> rfl

theorem hushed_startReading (owner : Option TaskId) :
    w.hushed.startReading owner = ((w.startReading owner).1, (w.startReading owner).2.hushed) := by
  have hreading : w.hushed.inbound.reading = w.inbound.reading := rfl
  unfold startReading
  rw [hreading]
  cases w.inbound.reading <;> rfl

theorem hushed_write (task : TaskId) (request : Request) :
    w.hushed.write task request = ((w.write task request).1, (w.write task request).2.hushed) := by
  have hrefused : w.hushed.refused = w.refused := rfl
  unfold write
  rw [hrefused]
  split
  · rfl
  · rw [hushed_note w rfl]

theorem hushed_get (origin path : String) :
    w.hushed.get origin path = ((w.get origin path).1, (w.get origin path).2.hushed) := by
  have hnetwork : w.hushed.network = w.network := rfl
  unfold get
  rw [hnetwork]
  split
  · rfl
  · rw [hushed_note w rfl]

/-- An act gives a task the same, and does the same. -/
theorem hushed_perform (task : TaskId) (a : Act) :
    (w.hushed.perform task a).map (Prod.map id hushed) =
      (w.perform task a).map (Prod.map id hushed) := by
  have hsame : w.hushed.perform task a = (w.perform task a).map (Prod.map id hushed) →
      (w.hushed.perform task a).map (Prod.map id hushed) =
        (w.perform task a).map (Prod.map id hushed) := by
    intro h
    rw [h, Option.map_map]
    congr 1
    funext result
    exact Prod.ext rfl (hushed_hushed _)
  cases a
  case awaitEnd | sleep | awaitReply | awaitMatch =>
    refine hsame ?_
    simp only [perform, Option.map_map]
    rfl
  case write request => exact hsame (congrArg some (hushed_write ..))
  case startReading => exact hsame (congrArg some (hushed_startReading ..))
  case get origin path => exact hsame (congrArg some (hushed_get ..))
  case awaitReader =>
    refine hsame ?_
    have hended : w.hushed.readerEnded = w.readerEnded := rfl
    simp only [perform, hended]
    split <;> rfl
  case print text => exact hsame (congrArg (fun w => some ((), w)) (hushed_note w rfl).symm)
  case log record =>
    simp [perform, hushed, note]
  case openPage session =>
    simp [perform, hushed, openPage, modifyConnection, Connection.route, Connection.unroute]
  all_goals exact hsame rfl

theorem hushed_of_hushed {w' : World} (h : w' = w.hushed) : w'.hushed = w.hushed := by
  rw [h, hushed_hushed]

theorem hushed_step (task : TaskId) : (w.hushed.step task).hushed = (w.step task).hushed := by
  have htasks : w.hushed.tasks = w.tasks := rfl
  unfold step
  rw [htasks]
  split
  · exact hushed_of_hushed _ rfl
  · next a next _ =>
    have hperform := hushed_perform w task a
    cases hp : w.perform task a with
    | none =>
      rw [hp] at hperform
      rw [Option.map_eq_none_iff.mp hperform]
      exact hushed_hushed w
    | some result =>
      rw [hp] at hperform
      obtain ⟨⟨reply, w'⟩, hp', hresult⟩ := Option.map_eq_some_iff.mp hperform
      obtain ⟨hreply, hworld⟩ := Prod.mk.inj hresult
      obtain rfl : reply = result.1 := hreply
      rw [hp']
      exact congrArg (·.setTask task (.running (next result.1))) hworld
  · exact hushed_hushed w

theorem hushed_apply {t : Transition} (ht : t ≠ .read) :
    (w.hushed.apply t).hushed = (w.apply t).hushed := by
  cases t
  case step task => exact hushed_step w task
  case read => exact absurd rfl ht
  case deliver page event => exact hushed_of_hushed _ (hushed_deliver ..).symm
  case release key => exact hushed_of_hushed _ (hushed_release ..).symm
  case startReading => exact hushed_of_hushed _ (congrArg Prod.snd (hushed_startReading ..))
  case abort task =>
    have htasks : w.hushed.tasks = w.tasks := rfl
    simp only [apply, abort, htasks]
    split
    · exact hushed_of_hushed _ rfl
    · exact hushed_hushed w
  case inject message =>
    have hopen : w.hushed.inbound.wireOpen = w.inbound.wireOpen := rfl
    simp only [apply, inject, hopen]
    split <;> simp [hushed]
  case receive =>
    have hreceiving : w.hushed.inbound.receiving = w.inbound.receiving := rfl
    simp only [apply, receive, hreceiving]
    split <;> simp [hushed]
  case stopReading =>
    have hreading : w.hushed.inbound.reading = w.inbound.reading := rfl
    simp only [apply, stopReading, hreading]
    split <;> simp [hushed, setReading]
  case route | unroute =>
    simp [apply, hushed, modifyConnection, Connection.route, Connection.unroute]
  all_goals exact hushed_of_hushed _ rfl

end World

end PagePilot
