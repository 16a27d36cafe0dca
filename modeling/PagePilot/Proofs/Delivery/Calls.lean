import PagePilot.Proofs.Delivery.Turns
import PagePilot.Proofs.Wire.Event
/-!
# PagePilot.Proofs.Delivery.Calls

Events from the wire to the handlers. A message goes through four stages: it is read, it is handed
to the page of its session, its parameters are read, and the listeners of the page are called with
what they read as. None of them loses an event, hands it on twice or puts it in another place.

* `Reception.call?` is the handler that is called at a position;
* `Reception.EventDelivery` says which calls there are, and `Reception.event_delivery` proves it
  of all runs, whatever is registered and cancelled between the turns.
-/

namespace PagePilot

open Wire

/-- A call of a handler, with an event on a page. -/
structure Call where
  page : PageKey
  event : Event
  handler : Handler

/-- What is noted by the call, if the handler is a recorder. -/
def Call.heard? (c : Call) : Option (String × Event) :=
  match c.handler with
  | .recorder name => some (name, c.event)
  | .barrier .. => none

/-- What a recorder has noted. -/
def Occurrence.heard? : Occurrence → Option (String × Event)
  | .heard recorder event _ => some (recorder, event)
  | _ => none

namespace World

/-- What recorders have noted so far. -/
def heard (w : World) : List (String × Event) :=
  w.trace.filterMap Occurrence.heard?

theorem heard_note (w : World) (o : Occurrence) :
    (w.note o).heard = w.heard ++ o.heard?.toList := by
  unfold heard note
  rw [List.filterMap_append]
  cases h : o.heard? <;> simp [h]

theorem Silent.heard {w w' : World} (h : w.Silent w') : w'.heard = w.heard := by
  refine h.filterMap fun o ho => ?_
  cases o <;> first | rfl | cases ho

theorem beginDelivery_heard (w : World) (h : Handing) : (w.beginDelivery h).heard = w.heard := by
  have hnoted : ((w.withInbox w.inbound.inbox.tail).note
      (.handed h.page h.method h.params)).heard = w.heard :=
    (heard_note ..).trans (List.append_nil _)
  rw [← hnoted]
  unfold beginDelivery opening follow
  split <;> rfl

theorem handle_heard (w : World) (c : Call) :
    (handle c.page c.event c.handler w).heard = w.heard ++ c.heard?.toList := by
  obtain ⟨page, event, handler⟩ := c
  cases handler with
  | recorder name => exact heard_note ..
  | barrier key wanted =>
    dsimp only [handle]
    split
    · exact heard_note ..
    · exact (List.append_nil _).symm

end World

namespace Reception

variable (r : Reception)

/-- The handler that is called at a position: that of the listener that has its turn, unless its
scope is cancelled. -/
def call? (k : Nat) : Option Call :=
  if r.isTurn k then
    match (r.state k).round with
    | some ⟨page, event, reg :: _⟩ =>
        if (r.world k).scopes.isCancelled reg.scope then none else some ⟨page, event, reg.handler⟩
    | _ => none
  else none

variable {r} {d k m τ : Nat} {h : Handing} {reg : Registration Handler} {c : Call}

theorem call?_of_idle (hidle : (r.state k).idle = true) : r.call? k = none := by
  unfold Reception.call?
  split
  · split
    next hround => simp [Intake.idle, hround] at hidle
    next => rfl
  · rfl

theorem call?_of_round {page : PageKey} {event : Event} {rest : List (Registration Handler)}
    (hturn : r.isTurn τ = true) (hround : (r.state τ).round = some ⟨page, event, reg :: rest⟩) :
    r.call? τ = if (r.world τ).scopes.isCancelled reg.scope then none
      else some ⟨page, event, reg.handler⟩ := by
  simp only [call?, hturn, if_true, hround]

theorem Turn.call? (hr : r.Admissible) (ht : r.Turn d τ m h reg) :
    r.call? τ = if (r.world τ).scopes.isCancelled reg.scope then none
      else some ⟨h.page, h.event, reg.handler⟩ := by
  obtain ⟨rest, hround⟩ := ht.round hr
  exact call?_of_round ht.turn hround

/-- Every call is that of a listener that has its turn. -/
theorem exists_turn_of_call (hr : r.Admissible) (hc : r.call? τ = some c) :
    ∃ d m h reg, r.Turn d τ m h reg ∧ (r.world τ).scopes.isCancelled reg.scope = false ∧
      c = ⟨h.page, h.event, reg.handler⟩ := by
  unfold Reception.call? at hc
  split at hc
  next hturn =>
    split at hc
    next page event reg rest hround =>
      split at hc
      next => cases hc
      next hlive =>
        cases hc
        obtain ⟨d, m, h, ht, rfl, rfl⟩ := turn_of_round hr hturn hround
        exact ⟨d, m, h, reg, ht, Bool.eq_false_iff.mpr hlive, rfl⟩
    next => cases hc
  next => cases hc

/-- The turn at a position calls the handler, or does nothing. -/
theorem world_succ_of_call (hr : r.Admissible) (hturn : r.isTurn k = true) :
    r.world (k + 1) = match r.call? k with
      | some c => World.handle c.page c.event c.handler (r.world k)
      | none => r.world k := by
  have hpass := r.passes hr k
  show (r.state (k + 1)).world = _
  generalize r.state (k + 1) = s at hpass ⊢
  cases hpass with
  | rest _ hover =>
    rw [call?_of_idle (hover hturn)]
    rfl
  | other ht => cases (isTurn_of_transition? ht).symm.trans hturn
  | hands hh => cases (isTurn_of_transition? hh.1).symm.trans hturn
  | turn _ _ hround =>
    rw [call?_of_round hturn hround]
    unfold World.giveTurn
    split <;> rfl

/-- Recorders note what they are called with, and nothing else. -/
theorem heard_succ (hr : r.Admissible) (k : Nat) : (r.world (k + 1)).heard =
    (r.world k).heard ++ ((r.call? k).bind Call.heard?).toList := by
  cases hturn : r.isTurn k with
  | true =>
    rw [world_succ_of_call hr hturn]
    cases r.call? k with
    | none => exact (List.append_nil _).symm
    | some c => exact World.handle_heard ..
  | false =>
    have hnone : r.call? k = none := by simp [Reception.call?, hturn]
    rw [hnone]
    refine Eq.trans ?_ (List.append_nil _).symm
    have hpass := r.passes hr k
    show (r.state (k + 1)).world.heard = _
    generalize r.state (k + 1) = s at hpass ⊢
    cases hpass with
    | rest => rfl
    | other ht hsilent => exact (World.apply_silent _ _ hsilent).heard
    | hands => exact World.beginDelivery_heard ..
    | turn h => cases hturn.symm.trans h

theorem heard_eq (hr : r.Admissible) (k : Nat) :
    (r.world k).heard = (List.range k).filterMap fun l => (r.call? l).bind Call.heard? := by
  induction k with
  | zero =>
    obtain ⟨refused, network, hstart⟩ := hr.initial
    show r.start.heard = []
    rw [hstart]
    rfl
  | succ k ih =>
    rw [heard_succ hr, ih, filterMap_range_succ]

/-- A page that gets an event was registered under its session, and the session was not touched
since. -/
theorem Hands.routed (hr : r.Admissible) (hh : r.Hands d h) :
    ∃ message e m, r.taken? d = some message ∧ Message.decode message = .ok (.event e) ∧
      h.method = e.method ∧ h.params = e.params ∧ (r.world d).isAlive h.page = true ∧ m < d ∧
        r.rerouted? m = some (e.sessionId, some h.page) ∧
          ∀ l, m < l → l < d → ∀ target, r.rerouted? l ≠ some (e.sessionId, target) := by
  obtain ⟨message, e, htaken, hdecode, hroute, halive, hmethod, hparams⟩ := hands_iff.mp hh
  obtain ⟨m, hmd, hput, hsince⟩ := (routeOf?_eq_some_iff hr).mp hroute
  exact ⟨message, e, m, htaken, hdecode, hmethod, hparams, halive, hmd, hput, hsince⟩

/-! ### All together -/

variable (r) in
/-- Which handlers are called with which events in a run, whatever else happens between the
turns. A listener is known by the position where it was registered, and a message by the position
where it is taken. -/
structure EventDelivery : Prop where
  /-- Messages are taken in the order in which the browser sent them, each once. -/
  received : ∀ k, (List.range k).filterMap r.taken? ++ (r.world k).pending =
    (List.range k).filterMap r.sent?
  /-- The page that is the sink of a session is handed every event of the session that is taken,
  with its method and its parameters. -/
  sink : ∀ m d session page message e, r.Sinks m d session page → r.taken? d = some message →
    Message.decode message = .ok (.event e) → e.sessionId = session →
      r.Hands d ⟨page, e.method, e.params⟩
  /-- And no other message is handed to a page: it is an event, the page was registered under its
  session, and since then the session was neither registered again nor unregistered. -/
  handed : ∀ d h, r.Hands d h →
    ∃ message e m, r.taken? d = some message ∧ Message.decode message = .ok (.event e) ∧
      h.method = e.method ∧ h.params = e.params ∧ (r.world d).isAlive h.page = true ∧ m < d ∧
        r.rerouted? m = some (e.sessionId, some h.page) ∧
          ∀ l, m < l → l < d → ∀ target, r.rerouted? l ≠ some (e.sessionId, target)
  /-- Method, parameters and session are those that the message has under their keys. Parameters
  that are absent are `null`, and a session that is `null` or absent is the level of the
  browser. -/
  wire : ∀ members e, (members.map Prod.fst).Nodup →
    Message.decode (.object members) = .ok (.event e) →
      Json.lookup "method" members = some (.string e.method) ∧
        e.params = (Json.lookup "params" members).getD .null ∧
          Json.given? "sessionId" members = e.sessionId.map SessionId.toJson
  /-- The event keeps the method of the message. It has a type when the method is one of those
  that have and the parameters read as its payload, and carries the parameters on otherwise. -/
  faithful : ∀ d h, r.Hands d h → h.event.Faithful h.method h.params
  /-- No message is taken before the turns with the one before are over. -/
  waits : ∀ d message, r.taken? d = some message → (r.state d).idle = true
  /-- With nothing between them, the taking of a message and the turns after it are what the reader
  does at one go. -/
  whole : ∀ d h, r.Hands d h →
    ((r.state d).run (.take ::
      List.replicate ((r.world d).board.liveAt h.page).length .turn)).world =
        (r.world d).apply .read
  /-- So whatever else can happen to a world, with messages taken at one go, can happen here. -/
  coarse : ∀ d transitions, (r.state d).idle = true →
    (∀ page event, .deliver page event ∉ transitions) →
      ∃ moves, ((r.state d).run moves).world = (r.world d).run transitions ∧
        ∀ t, .other t ∈ moves → t.feeds = false
  /-- Every listener that was registered on the page before has one turn with the event, unless
  its scope was cancelled by then. -/
  once : ∀ d k h m reg, r.Hands d h → d < k → (r.state k).idle = true → m < d →
    r.enrolled? m h.page = some reg → (r.world d).scopes.isCancelled reg.scope = false →
      ∃ τ < k, r.Turn d τ m h reg ∧ ∀ τ' h' reg', r.Turn d τ' m h' reg' → τ' = τ
  /-- In its turn it is called with the event, unless its scope is cancelled by that time. -/
  called : ∀ d τ m h reg, r.Turn d τ m h reg → r.call? τ =
    if (r.world τ).scopes.isCancelled reg.scope then none
      else some ⟨h.page, h.event, reg.handler⟩
  /-- There are no other calls: each is that of one listener, which was registered before the
  message was taken, and of that message. -/
  only : ∀ τ c, r.call? τ = some c → ∃ d m h reg, r.Turn d τ m h reg ∧ m < d ∧ d < τ ∧
    r.enrolled? m h.page = some reg ∧ (r.world τ).scopes.isCancelled reg.scope = false ∧
      c = ⟨h.page, h.event, reg.handler⟩ ∧
        ∀ d' m' h' reg', r.Turn d' τ m' h' reg' → d' = d ∧ m' = m
  /-- Turns come in the order of the messages, and with one message in the order of
  registration. -/
  ordered : ∀ d τ m h reg d' τ' m' h' reg', r.Turn d τ m h reg → r.Turn d' τ' m' h' reg' →
    d < d' ∨ d = d' ∧ m < m' → τ < τ'
  /-- A call is what the turn does to the world. -/
  done : ∀ k, r.isTurn k = true → r.world (k + 1) = match r.call? k with
    | some c => World.handle c.page c.event c.handler (r.world k)
    | none => r.world k
  /-- What recorders have noted are their calls, in order. -/
  heard : ∀ k, (r.world k).heard = (List.range k).filterMap fun l => (r.call? l).bind Call.heard?

/-- In every run, listeners are called with the events of their page, each once and in order. -/
theorem event_delivery (hr : r.Admissible) : r.EventDelivery where
  received := taken_append_pending hr
  sink _ _ _ _ _ _ hsinks htaken hdecode hsession := hsinks.hands hr htaken hdecode hsession
  handed _ _ := Hands.routed hr
  wire _ _ hkeys hdecode :=
    (EventMessage.decode_object hkeys).mp (Message.decode_event.mp hdecode).2
  faithful _ h _ := Event.decode_faithful h.method h.params
  waits d message htaken := by
    obtain ⟨t, ht, htaken⟩ := Option.bind_eq_some_iff.mp htaken
    obtain ⟨rfl, -⟩ := World.taken?_eq_some.mp htaken
    rcases transition?_eq_some ht with hmove | ⟨-, hidle, -⟩
    · cases hr.others d _ hmove
    · exact hidle
  whole _ _ hh := congrArg Intake.world (Intake.run_take (hh.begins hr).1 hh.2)
  coarse _ _ hidle hnone := Intake.exists_moves hidle hnone
  once d k h m reg hh hdk hidle hmd henrolled hlive := by
    obtain ⟨τ, hτk, ht⟩ := hh.exists_turn hr hdk hidle (mem_queue.mpr ⟨hmd, henrolled, hlive⟩)
    exact ⟨τ, hτk, ht, fun τ' h' reg' ht' => ht'.once ht⟩
  called _ _ _ _ _ ht := ht.call? hr
  only τ c hc := by
    obtain ⟨d, m, h, reg, ht, hlive, rfl⟩ := exists_turn_of_call hr hc
    obtain ⟨hmd, henrolled, -⟩ := mem_queue.mp ht.mem_queue
    refine ⟨d, m, h, reg, ht, hmd, ht.after, henrolled, hlive, rfl, fun d' m' h' reg' ht' => ?_⟩
    obtain ⟨hd, hm, -, -⟩ := ht'.unique hr ht
    exact ⟨hd, hm⟩
  ordered d τ m h reg d' τ' m' h' reg' ht ht' hbefore := by
    rcases hbefore with hlt | ⟨rfl, hlt⟩
    · exact ht.lt_of_lt hr ht' hlt
    · exact ht.lt_of_registered hr ht' hlt
  done _ := world_succ_of_call hr
  heard := heard_eq hr

/-- Three listeners on a page. When the first has had its turn with an event, the scope of the
second is cancelled and another one is registered; the next event does not read as the payload
that its method asks for, and the third one belongs to another session. -/
def interrupted : Reception where
  start := .initial [] .none
  moves :=
    [.other (.newScope none), .other (.newScope none), .other (.newScope none),
      .other (.openPage (some ⟨"S"⟩) none), .other .startReading, .other (.route (some ⟨"S"⟩) 0),
      .other (.listen 0 0 "a"), .other (.listen 0 1 "b"), .other (.listen 0 2 "c"),
      .other (.inject (.object [("method", .string "Page.lifecycleEvent"),
        ("params", .object [("frameId", .string "F"), ("loaderId", .string "L"),
          ("name", .string "load")]), ("sessionId", .string "S")])),
      .other (.inject (.object [("method", .string "Page.lifecycleEvent"),
        ("sessionId", .string "S")])),
      .other (.inject (.object [("method", .string "Page.lifecycleEvent"),
        ("sessionId", .string "T")])),
      .other .receive, .take, .turn, .other (.cancel 1), .other (.listen 0 0 "d"), .turn, .turn,
      .take, .turn, .turn, .turn, .take]

theorem interrupted_admissible : interrupted.Admissible where
  initial := ⟨[], .none, rfl⟩
  others k t ht := by
    have hall : interrupted.moves.all (fun | .other t => !t.feeds | _ => true) = true := rfl
    simpa using List.all_eq_true.mp hall _ (List.mem_of_getElem? ht)

example : (interrupted.world 24).heard.map (fun x => (x.1, x.2.isTyped)) =
    [("a", true), ("c", true), ("a", false), ("c", false), ("d", false)] := by
  decide

theorem event_delivery_interrupted : interrupted.Admissible ∧ interrupted.EventDelivery :=
  ⟨interrupted_admissible, event_delivery interrupted_admissible⟩

end Reception

end PagePilot
