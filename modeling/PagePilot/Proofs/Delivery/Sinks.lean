import PagePilot.Proofs.Barrier.Sound
import PagePilot.Proofs.Delivery.Intake
/-!
# PagePilot.Proofs.Delivery.Sinks

Which page a message is handed to. The table of the connection says where the events of a
session go. A page is put there when it is registered, and what is there stays until the session
is registered once more, or unregistered, or an event finds that the page is gone
(`Reception.routeOf?_eq_some_iff`). So the page that is registered under a session, and that
somebody keeps, gets its events as long as nobody else touches the session
(`Reception.Sinks.hands`).
-/

namespace PagePilot

open Wire

namespace World

variable {w : World} {session : Option SessionId} {h : Handing}

theorem rerouted?_read {target : Option PageKey}
    (hread : w.rerouted? .read = some (session, target)) :
    ∃ page, w.connection.routeOf? session = some page ∧ w.isAlive page = false := by
  simp only [rerouted?] at hread
  split at hread
  next e page hrouted =>
    obtain ⟨-, hroute⟩ := routed?_eq_some.mp hrouted
    split at hread
    next => cases hread
    next hgone =>
      cases hread
      exact ⟨page, hroute, Bool.eq_false_iff.mpr hgone⟩
  next => cases hread

theorem rerouted?_of_handing? (hh : w.handing? .read = some h) : w.rerouted? .read = none := by
  obtain ⟨e, page, hincoming, hroute, halive, -⟩ := handing?_eq_some.mp hh
  simp [rerouted?, routed?_eq_some.mpr ⟨hincoming, hroute⟩, halive]

theorem beginDelivery_connection (w : World) (h : Handing) :
    (w.beginDelivery h).connection = w.connection :=
  (opening_aside ..).connection

theorem beginDelivery_pending (w : World) (h : Handing) :
    (w.beginDelivery h).pending = w.inbound.inbox.tail ++ w.inbound.wire :=
  (opening_aside ..).pending

end World

namespace Reception

variable (r : Reception)

/-- The session whose events go elsewhere after a position, and where. -/
def rerouted? (k : Nat) : Option (Option SessionId × Option PageKey) :=
  (r.transition? k).bind (r.world k).rerouted?

/-- The message that the reader takes at a position. -/
def taken? (k : Nat) : Option Json :=
  (r.transition? k).bind (r.world k).taken?

/-- The message that the browser sends at a position. -/
def sent? (k : Nat) : Option Json :=
  (r.transition? k).bind (r.world k).sent?

/-- From position `m` up to `k` the page is the sink of the session: it is registered at `m`,
after that nobody registers a page under the session or unregisters it, and somebody keeps the
page. -/
structure Sinks (m k : Nat) (session : Option SessionId) (page : PageKey) : Prop where
  before : m < k
  registered : r.rerouted? m = some (session, some page)
  untouched : ∀ l t, m < l → l < k → r.moves[l]? = some (.other t) →
    ∀ target, (r.world l).rerouted? t ≠ some (session, target)
  kept : ∀ l, m < l → l ≤ k → (r.world l).isAlive page = true

variable {r} {k m : Nat} {session : Option SessionId} {page : PageKey}

/-- A move is the taking of a message, or anything else. -/
theorem transition?_eq_some {t : Transition} (h : r.transition? k = some t) :
    r.moves[k]? = some (.other t) ∨
      r.moves[k]? = some .take ∧ (r.state k).idle = true ∧ t = .read := by
  unfold transition? at h
  split at h
  next hmove =>
    cases h
    exact .inl hmove
  next hmove =>
    split at h
    next hidle =>
      cases h
      exact .inr ⟨hmove, hidle, rfl⟩
    next => cases h
  next => cases h

/-! ### The table -/

theorem routeOf?_succ (hr : r.Admissible) (k : Nat) (session : Option SessionId) :
    (r.world (k + 1)).connection.routeOf? session =
      (r.world k).routeAfter (r.rerouted? k) session := by
  have hpass := r.passes hr k
  show (r.state (k + 1)).world.connection.routeOf? session = _
  unfold rerouted?
  generalize r.state (k + 1) = s at hpass ⊢
  cases hpass with
  | rest hnone =>
    rw [hnone]
    rfl
  | other ht =>
    rw [ht]
    exact World.apply_routeOf? ..
  | hands hh =>
    rw [hh.1, Option.bind_some, World.rerouted?_of_handing? hh.2, World.beginDelivery_connection]
    rfl
  | turn _ hnone =>
    rw [hnone, (World.giveTurn_aside ..).connection]
    rfl

/-- What is in the table was put there, and nothing has changed it since. -/
theorem routeOf?_eq_some_iff (hr : r.Admissible) :
    (r.world k).connection.routeOf? session = some page ↔
      ∃ m < k, r.rerouted? m = some (session, some page) ∧
        ∀ l, m < l → l < k → ∀ target, r.rerouted? l ≠ some (session, target) := by
  refine World.routeOf?_history ?_ fun k => routeOf?_succ hr k session
  obtain ⟨refused, network, hstart⟩ := hr.initial
  show r.start.connection.routeOf? session = none
  rw [hstart]
  rfl

/-- A page that is the sink of a session is in the table: no event finds it gone. -/
theorem Sinks.routeOf? (hr : r.Admissible) (h : r.Sinks m k session page) :
    (r.world k).connection.routeOf? session = some page := by
  have hall : ∀ l, m < l → l ≤ k → (r.world l).connection.routeOf? session = some page := by
    intro l hml
    induction hml with
    | refl =>
      intro _
      rw [routeOf?_succ hr, h.registered, World.routeAfter_self]
    | @step l hml ih =>
      intro hlk
      have htable := ih (Nat.le_of_succ_le hlk)
      rw [routeOf?_succ hr, World.routeAfter_of_ne ?_, htable]
      intro target hchange
      obtain ⟨t, ht, hchange⟩ := Option.bind_eq_some_iff.mp hchange
      rcases transition?_eq_some ht with hmove | ⟨-, -, rfl⟩
      · exact h.untouched l t hml hlk hmove target hchange
      · obtain ⟨page', htable', hgone⟩ := World.rerouted?_read hchange
        cases htable.symm.trans htable'
        exact Bool.false_ne_true (hgone.symm.trans (h.kept l hml (Nat.le_of_succ_le hlk)))
  exact hall k h.before (Nat.le_refl k)

/-! ### Messages -/

/-- Messages are taken in the order in which they were sent, each once. -/
theorem taken_append_pending (hr : r.Admissible) (k : Nat) :
    (List.range k).filterMap r.taken? ++ (r.world k).pending =
      (List.range k).filterMap r.sent? := by
  refine @taken_append_left _ (fun k => (r.world k).pending) r.taken? r.sent? ?_ ?_ k
  · obtain ⟨refused, network, hstart⟩ := hr.initial
    show r.start.pending = []
    rw [hstart]
    rfl
  · intro k
    have hpass := r.passes hr k
    show (r.taken? k).toList ++ (r.state (k + 1)).world.pending = _
    unfold taken? sent?
    generalize r.state (k + 1) = s at hpass ⊢
    cases hpass with
    | rest hnone =>
      rw [hnone]
      exact (List.append_nil _).symm
    | other ht =>
      rw [ht]
      exact World.apply_pending ..
    | hands hh =>
      obtain ⟨e, page, hincoming, -⟩ := World.handing?_eq_some.mp hh.2
      obtain ⟨message, htaken, -⟩ := World.taken?_of_incoming? hincoming
      obtain ⟨-, owner, rest, -, hinbox⟩ := World.taken?_eq_some.mp htaken
      rw [hh.1, Option.bind_some, htaken, World.beginDelivery_pending]
      simp [World.pending, World.sent?, hinbox]
    | turn _ hnone =>
      rw [hnone, (World.giveTurn_aside ..).pending]
      exact (List.append_nil _).symm

/-- What is handed to a page is an event that the reader takes, and it is handed to the page that
the table has under its session, if somebody keeps that. -/
theorem hands_iff {h : Handing} : r.Hands k h ↔
    ∃ message e, r.taken? k = some message ∧ Message.decode message = .ok (.event e) ∧
      (r.world k).connection.routeOf? e.sessionId = some h.page ∧
        (r.world k).isAlive h.page = true ∧ h.method = e.method ∧ h.params = e.params := by
  unfold Hands taken?
  constructor
  · rintro ⟨ht, hh⟩
    obtain ⟨e, page, hincoming, hroute, halive, rfl⟩ := World.handing?_eq_some.mp hh
    obtain ⟨message, htaken, hdecode⟩ := World.taken?_of_incoming? hincoming
    exact ⟨message, e, by simp [ht, htaken], hdecode, hroute, halive, rfl, rfl⟩
  · rintro ⟨message, e, htaken, hdecode, hroute, halive, hmethod, hparams⟩
    obtain ⟨t, ht, htaken⟩ := Option.bind_eq_some_iff.mp htaken
    obtain ⟨rfl, -⟩ := World.taken?_eq_some.mp htaken
    have hincoming : (r.world k).incoming? .read = some (.event e) := by
      simp [World.incoming?_eq_bind, htaken, hdecode, Except.toOption]
    refine ⟨ht, World.handing?_eq_some.mpr ⟨e, h.page, hincoming, hroute, halive, ?_⟩⟩
    rw [← hmethod, ← hparams]

/-- The sink of a session is handed every event of the session. -/
theorem Sinks.hands (hr : r.Admissible) (h : r.Sinks m k session page) {message : Json}
    {e : EventMessage} (htaken : r.taken? k = some message)
    (hdecode : Message.decode message = .ok (.event e)) (hsession : e.sessionId = session) :
    r.Hands k ⟨page, e.method, e.params⟩ :=
  hands_iff.mpr ⟨message, e, htaken, hdecode, hsession ▸ h.routeOf? hr,
    h.kept k h.before (Nat.le_refl k), rfl, rfl⟩

end Reception

end PagePilot
