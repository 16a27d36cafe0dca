import PagePilot.Proofs.Connection.Routes
import PagePilot.Proofs.Machine.Trace
import PagePilot.Proofs.Positions
/-!
# PagePilot.Proofs.Connection.Handing

What comes in on a connection and what of it is handed to pages, by one transition:

* `World.handing?` is the event that is handed to a page, and `apply_handings` says that
  nothing else is;
* `World.taken?` and `World.sent?` are the message that the reader takes and the one that the
  browser sends, and `apply_pending` says that those between are a queue.
-/

namespace PagePilot

open Wire

/-- An event that was handed to a page, as it came. -/
structure Handing where
  page : PageKey
  method : String
  params : Json

/-- The event that was handed to a page. -/
def Occurrence.handing? : Occurrence → Option Handing
  | .handed page method params => some ⟨page, method, params⟩
  | _ => none

namespace World

/-- The event that is handed to a page by a transition. -/
def handing? (w : World) (t : Transition) : Option Handing :=
  match w.routed? t with
  | some (e, page) => if w.isAlive page then some ⟨page, e.method, e.params⟩ else none
  | none => none

/-- The events that were handed to pages so far. -/
def handings (w : World) : List Handing :=
  w.trace.filterMap Occurrence.handing?

/-- The message that the reader takes by a transition. -/
def taken? (w : World) : Transition → Option Json
  | .read =>
      match w.inbound.reading, w.inbound.inbox with
      | .running _, message :: _ => some message
      | _, _ => none
  | _ => none

/-- The message that the browser sends by a transition. -/
def sent? (w : World) : Transition → Option Json
  | .inject message => if w.inbound.wireOpen then some message else none
  | _ => none

/-- The messages that were sent and not taken yet, in order. -/
def pending (w : World) : List Json :=
  w.inbound.inbox ++ w.inbound.wire

/-- The world in which the reader has taken a message, and these are left. -/
def withInbox (w : World) (rest : List Json) : World :=
  { w with inbound := { w.inbound with inbox := rest } }

variable {w w' : World}

theorem handing?_eq_some {t : Transition} {h : Handing} : w.handing? t = some h ↔
    ∃ e page, w.incoming? t = some (.event e) ∧ w.connection.routeOf? e.sessionId = some page ∧
      w.isAlive page = true ∧ h = ⟨page, e.method, e.params⟩ := by
  unfold handing?
  split
  next e page hrouted =>
    obtain ⟨hincoming, hroute⟩ := routed?_eq_some.mp hrouted
    constructor
    · intro hhanded
      split at hhanded
      next halive => exact ⟨e, page, hincoming, hroute, halive, (Option.some.inj hhanded).symm⟩
      next => cases hhanded
    · rintro ⟨e', page', hincoming', hroute', halive, rfl⟩
      cases hrouted.symm.trans (routed?_eq_some.mpr ⟨hincoming', hroute'⟩)
      exact if_pos halive
  next hnone =>
    constructor
    · rintro ⟨⟩
    · rintro ⟨e, page, hincoming, hroute, -, -⟩
      cases hnone.symm.trans (routed?_eq_some.mpr ⟨hincoming, hroute⟩)

theorem taken?_eq_some {t : Transition} {j : Json} : w.taken? t = some j ↔
    t = .read ∧ ∃ owner rest, w.inbound.reading = .running owner ∧ w.inbound.inbox = j :: rest := by
  constructor
  · intro h
    cases t
    case read =>
      simp only [taken?] at h
      split at h
      next owner message rest hreading hinbox =>
        cases h
        exact ⟨rfl, owner, rest, hreading, hinbox⟩
      next => cases h
    all_goals cases h
  · rintro ⟨rfl, owner, rest, hreading, hinbox⟩
    simp [taken?, hreading, hinbox]

theorem sent?_eq_some {t : Transition} {j : Json} :
    w.sent? t = some j ↔ t = .inject j ∧ w.inbound.wireOpen = true := by
  constructor
  · intro h
    cases t
    case inject message =>
      simp only [sent?] at h
      split at h
      next hopen =>
        cases h
        exact ⟨rfl, hopen⟩
      next => cases h
    all_goals cases h
  · rintro ⟨rfl, hopen⟩
    simp [sent?, hopen]

/-- What is taken in is the message that is taken, if it reads as one. -/
theorem incoming?_eq_bind (w : World) (t : Transition) :
    w.incoming? t = (w.taken? t).bind fun j => (Message.decode j).toOption := by
  cases t
  case read =>
    simp only [incoming?, taken?]
    cases w.inbound.reading <;> cases w.inbound.inbox <;> rfl
  all_goals rfl

theorem apply_read_of_message {owner : Option TaskId} {message : Json} {rest : List Json}
    (hreading : w.inbound.reading = .running owner) (hinbox : w.inbound.inbox = message :: rest) :
    w.apply .read = (w.withInbox rest).take message := by
  simp only [apply, read, hreading, hinbox, withInbox]

theorem taken?_of_incoming? {t : Transition} {message : Message}
    (h : w.incoming? t = some message) :
    ∃ j, w.taken? t = some j ∧ Message.decode j = .ok message := by
  rw [incoming?_eq_bind] at h
  obtain ⟨j, hj, hdecode⟩ := Option.bind_eq_some_iff.mp h
  refine ⟨j, hj, ?_⟩
  cases hread : Message.decode j with
  | error cause => simp [hread, Except.toOption] at hdecode
  | ok m => simpa [hread, Except.toOption] using hdecode

/-- An event that is handed to a page is taken from the inbox, and delivered there. -/
theorem apply_read_of_handing {h : Handing} (hh : w.handing? .read = some h) :
    ∃ message rest, w.inbound.inbox = message :: rest ∧
      w.apply .read = ((w.withInbox rest).note (.handed h.page h.method h.params)).deliver h.page
        (.decode h.method h.params) := by
  obtain ⟨e, page, hincoming, hroute, halive, rfl⟩ := handing?_eq_some.mp hh
  obtain ⟨message, htaken, hdecode⟩ := taken?_of_incoming? hincoming
  obtain ⟨-, owner, rest, hreading, hinbox⟩ := taken?_eq_some.mp htaken
  refine ⟨message, rest, hinbox, ?_⟩
  have hroute' : (w.withInbox rest).connection.routeOf? e.sessionId = some page := hroute
  have halive' : (w.withInbox rest).isAlive page = true := halive
  rw [apply_read_of_message hreading hinbox]
  simp only [take, hdecode, hand, hroute', halive', if_true]

/-- What reaches a page by a message is what is handed to it. -/
theorem delivered?_read_eq_map (w : World) : w.delivered? .read =
    (w.handing? .read).map fun h => (h.page, .decode h.method h.params) := by
  unfold delivered? handing? routed?
  dsimp only
  cases w.incoming? .read with
  | none => rfl
  | some message =>
    cases message with
    | response response => rfl
    | event e =>
      dsimp only
      cases w.connection.routeOf? e.sessionId with
      | none => rfl
      | some page =>
        dsimp only [Option.map_some]
        split <;> rfl

/-! ### What is handed to pages -/

theorem handings_note (w : World) (o : Occurrence) :
    (w.note o).handings = w.handings ++ o.handing?.toList := by
  unfold handings note
  rw [List.filterMap_append]
  cases h : o.handing? <;> simp [h]

theorem handle_handings (page : PageKey) (event : Event) (handler : Handler) (w : World) :
    (handle page event handler w).handings = w.handings := by
  cases handler with
  | recorder name => exact (handings_note ..).trans (List.append_nil _)
  | barrier key wanted =>
    dsimp only [handle]
    split
    · exact (handings_note ..).trans (List.append_nil _)
    · rfl

theorem callAll_handings (page : PageKey) (event : Event) (regs : List (Registration Handler))
    (w : World) :
    (Listeners.callAll (·.scopes) (handle page event) regs w).handings = w.handings := by
  induction regs generalizing w with
  | nil => rfl
  | cons reg rest ih =>
    unfold Listeners.callAll
    split
    · exact ih w
    · exact (ih _).trans (handle_handings ..)

theorem deliver_handings (w : World) (page : PageKey) (event : Event) :
    (w.deliver page event).handings = w.handings := by
  rw [deliver_eq, callAll_handings]
  unfold opening follow
  split <;> rfl

/-- Nothing else is handed to pages. -/
theorem apply_handings (w : World) (t : Transition) :
    (w.apply t).handings = w.handings ++ (w.handing? t).toList := by
  have hsilent : w.delivered? t = none → w.handing? t = none →
      (w.apply t).handings = w.handings ++ (w.handing? t).toList := by
    intro hdelivered hhanding
    rw [hhanding, Option.toList_none, List.append_nil]
    refine (apply_silent w t hdelivered).filterMap fun o ho => ?_
    cases o <;> first | rfl | cases ho
  cases t
  case read =>
    cases hh : w.handing? .read with
    | none =>
      rw [← hh]
      exact hsilent (by rw [delivered?_read_eq_map, hh]; rfl) hh
    | some h =>
      obtain ⟨message, rest, -, hread⟩ := apply_read_of_handing hh
      rw [hread, deliver_handings, handings_note]
      rfl
  case deliver page event => exact (deliver_handings w page event).trans (List.append_nil _).symm
  all_goals exact hsilent rfl rfl

/-! ### What is on the way -/

theorem Aside.pending {w w' : World} (h : w.Aside w') : w'.pending = w.pending :=
  congrArg (fun i : Inbound => i.inbox ++ i.wire) h.inbound

/-- What is in the inbox after a transition: the receiver puts there what is on the wire, and the
reader takes the message at the front. -/
def inboxAfter (w : World) (t : Transition) : List Json :=
  match t with
  | .receive => if w.inbound.receiving then w.inbound.inbox ++ w.inbound.wire else w.inbound.inbox
  | t => w.inbound.inbox.drop (w.taken? t).toList.length

/-- What is on the wire after a transition: the browser puts a message at the end. -/
def wireAfter (w : World) (t : Transition) : List Json :=
  match t with
  | .receive => if w.inbound.receiving then [] else w.inbound.wire
  | t => w.inbound.wire ++ (w.sent? t).toList

theorem perform_queues {task : TaskId} {a : Act} {reply : a.Reply}
    (hp : w.perform task a = some (reply, w')) :
    w'.inbound.inbox = w.inbound.inbox ∧ w'.inbound.wire = w.inbound.wire := by
  cases performed_of_perform hp with
  | startReading =>
    unfold startReading
    split <;> exact ⟨rfl, rfl⟩
  | learn | note | allocate | park | unpark => exact ⟨rfl, rfl⟩
  | arm | disarm | openPage | setFrame | handOver | save => exact ⟨rfl, rfl⟩

/-- What becomes of the two queues. -/
theorem apply_queues (w : World) (t : Transition) :
    (w.apply t).inbound.inbox = w.inboxAfter t ∧ (w.apply t).inbound.wire = w.wireAfter t := by
  have hsame : ∀ w' : World, w'.inbound.inbox = w.inbound.inbox → w'.inbound.wire = w.inbound.wire →
      w'.inbound.inbox = w.inbound.inbox ∧ w'.inbound.wire = w.inbound.wire ++ [] :=
    fun w' hinbox hwire => ⟨hinbox, hwire.trans (List.append_nil _).symm⟩
  cases t with
  | read =>
    simp only [inboxAfter, wireAfter, taken?, sent?, apply, read]
    cases hreading : w.inbound.reading with
    | notStarted | ended | stopped | closing => exact hsame _ rfl rfl
    | running owner =>
      cases hinbox : w.inbound.inbox with
      | nil =>
        dsimp only
        split <;> simp [setReading, modifyConnection, hinbox]
      | cons message rest => simp [take_inbound]
  | inject message =>
    simp only [inboxAfter, wireAfter, taken?, sent?, apply, inject]
    cases w.inbound.wireOpen <;> simp
  | receive =>
    simp only [inboxAfter, wireAfter, apply, receive]
    split <;> exact ⟨rfl, rfl⟩
  | step task =>
    simp only [inboxAfter, wireAfter, taken?, sent?, apply, step]
    split
    · exact hsame _ rfl rfl
    · split
      next hp =>
        obtain ⟨hinbox, hwire⟩ := perform_queues hp
        exact hsame _ hinbox hwire
      next => exact hsame _ rfl rfl
    · exact hsame _ rfl rfl
  | abort task =>
    simp only [inboxAfter, wireAfter, taken?, sent?, apply, abort]
    split <;> exact hsame _ rfl rfl
  | deliver page event =>
    have hinbound := (deliver_aside w page event).inbound
    exact hsame _ (congrArg (·.inbox) hinbound) (congrArg (·.wire) hinbound)
  | release key =>
    have hinbound := (release_aside w key).inbound
    exact hsame _ (congrArg (·.inbox) hinbound) (congrArg (·.wire) hinbound)
  | startReading =>
    simp only [inboxAfter, wireAfter, taken?, sent?, apply, startReading]
    split <;> exact hsame _ rfl rfl
  | stopReading =>
    simp only [inboxAfter, wireAfter, taken?, sent?, apply, stopReading]
    split <;> exact hsame _ rfl rfl
  | _ => exact hsame _ rfl rfl

/-- Who takes a message takes the one at the front of the inbox. -/
theorem taken?_append_drop (w : World) (t : Transition) :
    (w.taken? t).toList ++ w.inbound.inbox.drop (w.taken? t).toList.length = w.inbound.inbox := by
  cases htaken : w.taken? t with
  | none => rfl
  | some message =>
    obtain ⟨-, -, rest, -, hinbox⟩ := taken?_eq_some.mp htaken
    rw [hinbox]
    rfl

/-- What was sent and not taken yet is a queue: the browser puts a message at its end, and the
reader takes the one at its front. -/
theorem apply_pending (w : World) (t : Transition) :
    (w.taken? t).toList ++ (w.apply t).pending = w.pending ++ (w.sent? t).toList := by
  have hqueue := taken?_append_drop w t
  obtain ⟨hinbox, hwire⟩ := apply_queues w t
  unfold pending
  rw [hinbox, hwire]
  cases t with
  | receive =>
    simp only [inboxAfter, wireAfter, taken?, sent?]
    split <;> simp
  | _ =>
    unfold inboxAfter wireAfter
    rw [← List.append_assoc, ← List.append_assoc, hqueue]

end World

end PagePilot
