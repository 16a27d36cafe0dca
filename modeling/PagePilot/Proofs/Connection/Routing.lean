import PagePilot.Proofs.Connection.Handing
import PagePilot.Proofs.Machine.Run
import PagePilot.Proofs.Wire.Event
/-!
# PagePilot.Proofs.Connection.Routing

Who gets the events of a session. The connection keeps a table of pages by session, to which
pages are added and from which they are taken, and it looks into the table only when an event
comes. A page that is gone by then is struck out, so what is in the table at a position depends
on the events that came before. What an event finds does not:

* `Run.Serves` is the page that was registered most recently under a session and not
  unregistered since;
* `Run.Grounded` says that holds on pages come from holds on pages, so one that is gone does
  not come back;
* `Run.SessionRouting` says that an event is handed to the page that serves its session, if
  somebody still keeps it, and to no other, and `Run.session_routing` proves it of all runs.
-/

namespace PagePilot

open Wire

/-- The page that is registered from outside by a transition. -/
def Transition.registered? : Transition → Option PageKey
  | .route _ page => some page
  | _ => none

/-- A page is registered only when it is there, and only who has a hold on a page gives a hold
on it to somebody else. -/
def Transition.Grounded (w : World) (t : Transition) : Prop :=
  (∀ page ∈ t.registered?, page < w.pages.length) ∧ ∀ page ∈ w.adopted? t, w.isAlive page = true

instance (w : World) (t : Transition) : Decidable (t.Grounded w) :=
  inferInstanceAs (Decidable (_ ∧ _))

namespace Run

variable (r : Run)

/-! ### Registering -/

/-- From a position on the events of a session go to a page. It is registered from outside, or
by a task that has attached to the target. -/
inductive Routes (k : Nat) : Option SessionId → PageKey → Prop
  | caller {session : Option SessionId} {page : PageKey}
      (h : r.transitions[k]? = some (.route session page)) : Routes k session page
  | task {task : TaskId} {session : SessionId} {page : PageKey}
      (h : r.Does k task (.openPage session) page) : Routes k (some session) page

/-- From a position on the events of a session go nowhere. -/
def Unroutes (k : Nat) (session : Option SessionId) : Prop :=
  r.transitions[k]? = some (.unroute session)

/-- The page was registered under the session before a position, and it is the one that was
registered most recently; it was not unregistered since. -/
def Serves (k : Nat) (session : Option SessionId) (page : PageKey) : Prop :=
  ∃ m < k, r.Routes m session page ∧ ∀ l, m < l → l < k →
    (∀ page', ¬ r.Routes l session page') ∧ ¬ r.Unroutes l session

/-- An event of a session finds at a position that the page it goes to is gone. -/
def Forgets (k : Nat) (session : Option SessionId) : Prop :=
  ∃ e page, r.incoming? k = some (.event e) ∧ e.sessionId = session ∧
    (r.world k).connection.routeOf? session = some page ∧ (r.world k).isAlive page = false

/-- An event is handed to a page at a position. -/
def Hands (k : Nat) (h : Handing) : Prop :=
  (r.world (k + 1)).handings = (r.world k).handings ++ [h]

/-- The message that the reader takes at a position. -/
def taken? (k : Nat) : Option Json :=
  r.transitions[k]?.bind (r.world k).taken?

/-- The message that the browser sends at a position. -/
def sent? (k : Nat) : Option Json :=
  r.transitions[k]?.bind (r.world k).sent?

/-- A run from the beginning in which a page that is gone does not come back. -/
structure Grounded : Prop where
  initial : ∃ refused network, r.start = .initial refused network
  step : ∀ (k : Nat) (t : Transition), r.transitions[k]? = some t → t.Grounded (r.world k)

variable {r} {k l m n : Nat} {session : Option SessionId} {page page' : PageKey}

theorem Routes.unique (h : r.Routes k session page) (h' : r.Routes k session page') :
    page = page' := by
  cases h with
  | caller h =>
    cases h' with
    | caller h' =>
      cases h.symm.trans h'
      rfl
    | task h' => cases h.symm.trans h'.spec.1
  | task h =>
    cases h' with
    | caller h' => cases h'.symm.trans h.spec.1
    | task h' =>
      cases Option.some.inj (h.symm.trans h')
      rfl

theorem Serves.succ_iff : r.Serves (k + 1) session page ↔ r.Routes k session page ∨
    r.Serves k session page ∧ (∀ page', ¬ r.Routes k session page') ∧ ¬ r.Unroutes k session := by
  constructor
  · rintro ⟨m, hmk, hroutes, hsince⟩
    rcases Nat.lt_succ_iff_lt_or_eq.mp hmk with hlt | rfl
    · exact .inr ⟨⟨m, hlt, hroutes, fun l hml hlk => hsince l hml (Nat.lt_succ_of_lt hlk)⟩,
        hsince k hlt (Nat.lt_succ_self k)⟩
    · exact .inl hroutes
  · rintro (hroutes | ⟨⟨m, hmk, hroutes, hsince⟩, hkept⟩)
    · exact ⟨k, Nat.lt_succ_self k, hroutes, fun l hkl hlk => absurd hlk (by omega)⟩
    · refine ⟨m, Nat.lt_succ_of_lt hmk, hroutes, fun l hml hlk => ?_⟩
      rcases Nat.lt_succ_iff_lt_or_eq.mp hlk with hlt | rfl
      · exact hsince l hml hlt
      · exact hkept

/-- At most one page serves a session. -/
theorem Serves.unique (h : r.Serves k session page) (h' : r.Serves k session page') :
    page = page' := by
  obtain ⟨m, hmk, hroutes, hsince⟩ := h
  obtain ⟨m', hmk', hroutes', hsince'⟩ := h'
  rcases Nat.lt_trichotomy m m' with hlt | rfl | hlt
  · exact absurd hroutes' ((hsince m' hlt hmk').1 page')
  · exact hroutes.unique hroutes'
  · exact absurd hroutes ((hsince' m hlt hmk).1 page)

/-! ### The table -/

variable (r) in
/-- The session whose events go elsewhere after a position. -/
def rerouted? (k : Nat) : Option (Option SessionId × Option PageKey) :=
  r.transitions[k]?.bind (r.world k).rerouted?

theorem routeOf?_succ : (r.world (k + 1)).connection.routeOf? session =
    (r.world k).routeAfter (r.rerouted? k) session := by
  cases ht : r.transitions[k]? with
  | none => simp [world_succ_of_none ht, rerouted?, ht, World.routeAfter]
  | some t =>
    rw [world_succ ht, World.apply_routeOf?]
    simp [rerouted?, ht]

theorem incoming?_eq_some {message : Message} : r.incoming? k = some message ↔
    ∃ j, r.taken? k = some j ∧ Message.decode j = .ok message := by
  have hread : ∀ result : Except DecodeError Message,
      result.toOption = some message ↔ result = .ok message := by
    rintro (_ | _) <;> simp [Except.toOption]
  unfold incoming? taken?
  cases r.transitions[k]? with
  | none => simp
  | some t => simp [World.incoming?_eq_bind, Option.bind_eq_some_iff, hread]

/-- What changes the table is a registration, or an event that finds its page gone. -/
theorem rerouted?_eq_some {target : Option PageKey} : r.rerouted? k = some (session, target) ↔
    (∃ page, target = some page ∧ r.Routes k session page) ∨
      target = none ∧ (r.Unroutes k session ∨ r.Forgets k session) := by
  constructor
  · intro h
    obtain ⟨t, ht, h⟩ := Option.bind_eq_some_iff.mp h
    cases t
    case route =>
      cases h
      exact .inl ⟨_, rfl, .caller ht⟩
    case unroute =>
      cases h
      exact .inr ⟨rfl, .inl ht⟩
    case step task =>
      simp only [World.rerouted?] at h
      split at h
      next task' session' page hd =>
        cases h
        exact .inl ⟨page, rfl, .task (by simpa [Does, deed?, ht] using hd)⟩
      next => cases h
    case read =>
      simp only [World.rerouted?] at h
      split at h
      next e page hrouted =>
        obtain ⟨hincoming, hroute⟩ := World.routed?_eq_some.mp hrouted
        split at h
        next => cases h
        next hgone =>
          cases h
          exact .inr ⟨rfl, .inr ⟨e, page, by simpa [incoming?, ht] using hincoming, rfl, hroute,
            Bool.eq_false_iff.mpr hgone⟩⟩
      next => cases h
    all_goals cases h
  · rintro (⟨page, rfl, hroutes⟩ | ⟨rfl, hun | ⟨e, page, hincoming, rfl, hroute, hgone⟩⟩)
    · cases hroutes with
      | caller h => simp [rerouted?, h, World.rerouted?]
      | task h =>
        have ht := h.spec.1
        unfold Does deed? at h
        rw [ht, Option.bind_some] at h
        simp [rerouted?, ht, World.rerouted?, h]
    · have ht : r.transitions[k]? = some (.unroute session) := hun
      simp [rerouted?, ht, World.rerouted?]
    · obtain ⟨t, ht, hincoming⟩ := Option.bind_eq_some_iff.mp hincoming
      obtain ⟨rfl, -, -⟩ := World.running_of_incoming hincoming
      have hrouted := World.routed?_eq_some.mpr ⟨hincoming, hroute⟩
      simp [rerouted?, ht, World.rerouted?, hrouted, hgone]

/-- Nothing changes where the events of a session go. -/
theorem not_rerouted_iff : (∀ target, r.rerouted? k ≠ some (session, target)) ↔
    (∀ page', ¬ r.Routes k session page') ∧ ¬ r.Unroutes k session ∧ ¬ r.Forgets k session := by
  simp only [Ne, rerouted?_eq_some]
  constructor
  · intro h
    exact ⟨fun page' hroutes => h _ (.inl ⟨page', rfl, hroutes⟩),
      fun hun => h none (.inr ⟨rfl, .inl hun⟩), fun hforgets => h none (.inr ⟨rfl, .inr hforgets⟩)⟩
  · rintro ⟨hnone, hun, hforgets⟩ target (⟨page', -, hroutes⟩ | ⟨-, hstruck⟩)
    · exact hnone page' hroutes
    · exact hstruck.elim hun hforgets

theorem rerouted?_eq_some_page : r.rerouted? k = some (session, some page) ↔
    r.Routes k session page := by
  rw [rerouted?_eq_some]
  simp

/-- Only the session of the event is struck out. -/
theorem Forgets.strikes (h : r.Forgets k session) :
    (r.world (k + 1)).connection.routeOf? session = none ∧ ∀ session', session' ≠ session →
      (r.world (k + 1)).connection.routeOf? session' =
        (r.world k).connection.routeOf? session' := by
  have hchange := rerouted?_eq_some.mpr (.inr ⟨rfl, .inr h⟩)
  refine ⟨?_, fun session' hne => ?_⟩
  · rw [routeOf?_succ, hchange, World.routeAfter_self]
  · rw [routeOf?_succ, hchange]
    exact if_neg (Ne.symm hne)

theorem Grounded.routeOf?_start (hr : r.Grounded) :
    (r.world 0).connection.routeOf? session = none := by
  obtain ⟨refused, network, hstart⟩ := hr.initial
  rw [world_zero, hstart]
  rfl

/-- What is in the table was registered, and since then nothing has changed it. -/
theorem routeOf?_eq_some_iff (hr : r.Grounded) :
    (r.world k).connection.routeOf? session = some page ↔ ∃ m < k, r.Routes m session page ∧
      ∀ l, m < l → l < k → (∀ page', ¬ r.Routes l session page') ∧ ¬ r.Unroutes l session ∧
        ¬ r.Forgets l session := by
  rw [World.routeOf?_history hr.routeOf?_start fun _ => routeOf?_succ]
  simp only [rerouted?_eq_some_page, not_rerouted_iff]

/-- What is in the table serves its session. -/
theorem serves_of_routeOf? (hr : r.Grounded)
    (h : (r.world k).connection.routeOf? session = some page) : r.Serves k session page := by
  obtain ⟨m, hmk, hroutes, hsince⟩ := (routeOf?_eq_some_iff hr).mp h
  refine ⟨m, hmk, hroutes, fun l hml hlk => ?_⟩
  obtain ⟨hnone, hun, -⟩ := hsince l hml hlk
  exact ⟨hnone, hun⟩

/-! ### Pages that are gone -/

/-- A page stays, and it is kept by somebody only if it was before. -/
theorem Grounded.page_succ (hr : r.Grounded) {p : PageState}
    (h : (r.world k).pages[page]? = some p) : ∃ p', (r.world (k + 1)).pages[page]? = some p' ∧
      (p'.alive = true → p.alive = true) := by
  cases ht : r.transitions[k]? with
  | none => exact ⟨p, (world_succ_of_none ht).symm ▸ h, fun halive => halive⟩
  | some t =>
    rw [world_succ ht]
    obtain ⟨p', hp', hback⟩ := World.apply_page t h
    refine ⟨p', hp', fun halive => ?_⟩
    rcases hback halive with hbefore | hadopted
    · exact hbefore
    · -- Whoever takes hold of the page has it from somebody who keeps it.
      obtain ⟨p'', hp'', hkept⟩ := World.isAlive_eq_true.mp ((hr.step k t ht).2 page hadopted)
      cases h.symm.trans hp''
      exact hkept

theorem Grounded.page_mono (hr : r.Grounded) (hmn : m ≤ n) {p : PageState}
    (h : (r.world m).pages[page]? = some p) : ∃ p', (r.world n).pages[page]? = some p' ∧
      (p'.alive = true → p.alive = true) := by
  induction hmn with
  | refl => exact ⟨p, h, fun halive => halive⟩
  | step _ ih =>
    obtain ⟨p', hp', hback⟩ := ih
    obtain ⟨p'', hp'', hback'⟩ := hr.page_succ hp'
    exact ⟨p'', hp'', hback ∘ hback'⟩

/-- A page that is registered is there. -/
theorem Routes.there (hr : r.Grounded) (h : r.Routes k session page) :
    ∃ p, (r.world (k + 1)).pages[page]? = some p := by
  cases h with
  | caller h =>
    have hlt : page < (r.world k).pages.length := (hr.step k _ h).1 page rfl
    obtain ⟨p', hp', -⟩ := hr.page_succ (List.getElem?_eq_getElem hlt)
    exact ⟨p', hp'⟩
  | task h => exact ⟨_, List.getElem?_eq_getElem h.opens⟩

/-- The page that serves a session is in the table unless it is gone: it is struck out only
when it is found to be gone, and then it stays gone. -/
theorem Serves.routeOf? (hr : r.Grounded) (h : r.Serves k session page) :
    ∃ p, (r.world k).pages[page]? = some p ∧
      ((r.world k).connection.routeOf? session = some page ∨ p.alive = false) := by
  induction k with
  | zero =>
    obtain ⟨m, hm, -⟩ := h
    cases hm
  | succ k ih =>
    rcases Serves.succ_iff.mp h with hroutes | ⟨hserves, hnone, hun⟩
    · obtain ⟨p, hp⟩ := hroutes.there hr
      refine ⟨p, hp, .inl ?_⟩
      rw [routeOf?_succ, rerouted?_eq_some_page.mpr hroutes, World.routeAfter_self]
    · obtain ⟨p, hp, htable⟩ := ih hserves
      obtain ⟨p', hp', hback⟩ := hr.page_succ hp
      refine ⟨p', hp', ?_⟩
      have hgone : p.alive = false → p'.alive = false := fun hp =>
        Bool.eq_false_iff.mpr fun halive => Bool.false_ne_true (hp.symm.trans (hback halive))
      rcases htable with htable | hdead
      · by_cases hforgets : r.Forgets k session
        · obtain ⟨-, page', -, -, htable', hdead⟩ := hforgets
          cases htable.symm.trans htable'
          refine .inr (hgone (Bool.eq_false_iff.mpr fun halive => ?_))
          exact Bool.false_ne_true (hdead.symm.trans (World.isAlive_eq_true.mpr ⟨p, hp, halive⟩))
        · refine .inl ?_
          rw [routeOf?_succ, World.routeAfter_of_ne (not_rerouted_iff.mpr ⟨hnone, hun, hforgets⟩),
            htable]
      · exact .inr (hgone hdead)

theorem Serves.routeOf?_of_isAlive (hr : r.Grounded) (h : r.Serves k session page)
    (halive : (r.world k).isAlive page = true) :
    (r.world k).connection.routeOf? session = some page := by
  obtain ⟨p, hp, htable⟩ := h.routeOf? hr
  obtain ⟨p', hp', hkept⟩ := World.isAlive_eq_true.mp halive
  cases hp.symm.trans hp'
  rcases htable with htable | hdead
  · exact htable
  · cases hkept.symm.trans hdead

/-! ### What is handed to pages -/

variable (r) in
/-- The event that is handed to a page at a position. -/
def handing? (k : Nat) : Option Handing :=
  r.transitions[k]?.bind (r.world k).handing?

theorem handings_succ :
    (r.world (k + 1)).handings = (r.world k).handings ++ (r.handing? k).toList := by
  cases ht : r.transitions[k]? with
  | none => simp [world_succ_of_none ht, handing?, ht]
  | some t =>
    rw [world_succ ht, World.apply_handings]
    simp [handing?, ht]

theorem hands_iff_handing? {h : Handing} : r.Hands k h ↔ r.handing? k = some h := by
  unfold Hands
  rw [handings_succ, List.append_cancel_left_eq]
  cases r.handing? k <;> simp

theorem handing?_eq_some {h : Handing} : r.handing? k = some h ↔
    ∃ e page, r.incoming? k = some (.event e) ∧
      (r.world k).connection.routeOf? e.sessionId = some page ∧
        (r.world k).isAlive page = true ∧ h = ⟨page, e.method, e.params⟩ := by
  unfold handing? incoming?
  cases r.transitions[k]? with
  | none => simp
  | some t => exact World.handing?_eq_some

/-- An event is handed to the page that serves its session, if that is still there, and to no
other. -/
theorem hands_iff (hr : r.Grounded) {h : Handing} : r.Hands k h ↔
    ∃ e page, r.incoming? k = some (.event e) ∧ r.Serves k e.sessionId page ∧
      (r.world k).isAlive page = true ∧ h = ⟨page, e.method, e.params⟩ := by
  rw [hands_iff_handing?, handing?_eq_some]
  constructor
  · rintro ⟨e, page, hincoming, hroute, halive, heq⟩
    exact ⟨e, page, hincoming, serves_of_routeOf? hr hroute, halive, heq⟩
  · rintro ⟨e, page, hincoming, hserves, halive, heq⟩
    exact ⟨e, page, hincoming, hserves.routeOf?_of_isAlive hr halive, halive, heq⟩

/-- A message that is handed to a page is delivered there, as what it reads as. -/
theorem Hands.delivered {method : String} {params : Json} (h : r.Hands k ⟨page, method, params⟩) :
    ∃ message rest, (r.world k).inbound.inbox = message :: rest ∧ r.world (k + 1) =
      (((r.world k).withInbox rest).note (.handed page method params)).deliver page
        (.decode method params) := by
  obtain ⟨t, ht, hh⟩ := Option.bind_eq_some_iff.mp (hands_iff_handing?.mp h)
  obtain ⟨e, page', hincoming, -⟩ := World.handing?_eq_some.mp hh
  obtain ⟨rfl, -⟩ := World.running_of_incoming hincoming
  rw [world_succ ht]
  exact World.apply_read_of_handing hh

/-- A message that is not handed to a page does nothing to pages. -/
theorem pages_of_not_hands {message : Json} (htaken : r.taken? k = some message)
    (h : ∀ handing, ¬ r.Hands k handing) : (r.world (k + 1)).pages = (r.world k).pages := by
  obtain ⟨t, ht, htaken'⟩ := Option.bind_eq_some_iff.mp htaken
  obtain ⟨rfl, owner, rest, hreading, hinbox⟩ := World.taken?_eq_some.mp htaken'
  rw [world_succ ht, World.apply_read_of_message hreading hinbox]
  unfold World.take
  split
  next response _ =>
    unfold World.answer
    split <;> rfl
  next e hdecode =>
    have hincoming := incoming?_eq_some.mpr ⟨message, htaken, hdecode⟩
    unfold World.hand
    split
    next => rfl
    next page hroute =>
      split
      next halive =>
        have hhanded := handing?_eq_some.mpr ⟨e, page, hincoming, hroute, halive, rfl⟩
        exact absurd (hands_iff_handing?.mpr hhanded) (h _)
      next => rfl
  next => rfl

/-! ### All together -/

variable (r) in
/-- The messages that the reader takes before a position, in order. -/
def takenBefore (k : Nat) : List Json :=
  (List.range k).filterMap r.taken?

variable (r) in
/-- The messages that the browser sends before a position, in order. -/
def sentBefore (k : Nat) : List Json :=
  (List.range k).filterMap r.sent?

/-- The messages are taken in the order in which they were sent, each once. -/
theorem takenBefore_append_pending (hr : r.Grounded) :
    r.takenBefore k ++ (r.world k).pending = r.sentBefore k := by
  refine @taken_append_left _ (fun k => (r.world k).pending) r.taken? r.sent? ?_ ?_ k
  · obtain ⟨refused, network, hstart⟩ := hr.initial
    simp only [world_zero, hstart]
    rfl
  · intro k
    cases ht : r.transitions[k]? with
    | none => simp [world_succ_of_none ht, taken?, sent?, ht]
    | some t =>
      have hqueue := World.apply_pending (r.world k) t
      simpa [taken?, sent?, ht, world_succ ht] using hqueue

variable (r) in
/-- What becomes of the messages of a run, whoever registers and unregisters pages and lets go
of them, and in whatever order. -/
structure SessionRouting : Prop where
  /-- Messages are taken in the order in which the browser sent them, each once. -/
  received : ∀ k, r.takenBefore k ++ (r.world k).pending = r.sentBefore k
  /-- What is handed to a page is an event, with its method and its parameters. It is handed to
  the page that was registered most recently under its session, if that was not unregistered
  since and somebody still keeps it, and then it is handed to it. -/
  handed : ∀ k handing, r.Hands k handing ↔
    ∃ message e page, r.taken? k = some message ∧ Message.decode message = .ok (.event e) ∧
      r.Serves k e.sessionId page ∧ (r.world k).isAlive page = true ∧
        handing = ⟨page, e.method, e.params⟩
  /-- At most one page serves a session. -/
  served : ∀ k session page page', r.Serves k session page → r.Serves k session page' → page = page'
  /-- At every position at most one event is handed to a page. -/
  single : ∀ k, (∃ handing, r.Hands k handing) ∨
    (r.world (k + 1)).handings = (r.world k).handings
  /-- An event that is handed to a page is delivered there. -/
  delivered : ∀ k page method params, r.Hands k ⟨page, method, params⟩ →
    ∃ message rest, (r.world k).inbound.inbox = message :: rest ∧ r.world (k + 1) =
      (((r.world k).withInbox rest).note (.handed page method params)).deliver page
        (.decode method params)
  /-- A message that is not handed to a page does nothing to any page. -/
  unserved : ∀ k message, r.taken? k = some message → (∀ handing, ¬ r.Hands k handing) →
    (r.world (k + 1)).pages = (r.world k).pages
  /-- An answer is handed to no page. -/
  responses : ∀ k message response, r.taken? k = some message →
    Message.decode message = .ok (.response response) → ∀ handing, ¬ r.Hands k handing
  /-- The table has a page under a session when it was registered, and since then the session was
  neither registered again nor unregistered, and no event of this session found its page gone.
  So an event that finds a page gone takes no page of another session from the table, and none
  that is registered later. -/
  table : ∀ k session page, (r.world k).connection.routeOf? session = some page ↔
    ∃ m < k, r.Routes m session page ∧ ∀ l, m < l → l < k →
      (∀ page', ¬ r.Routes l session page') ∧ ¬ r.Unroutes l session ∧ ¬ r.Forgets l session
  /-- An event that finds its page gone strikes out its own session, and no other. -/
  forgetting : ∀ k session, r.Forgets k session →
    (r.world (k + 1)).connection.routeOf? session = none ∧ ∀ session', session' ≠ session →
      (r.world (k + 1)).connection.routeOf? session' = (r.world k).connection.routeOf? session'
  /-- The session of an event is the text under its key; when the key is absent, or `null` is
  under it, the event is of the level of the browser. Parameters that are absent are `null`. -/
  key : ∀ members e, (members.map Prod.fst).Nodup →
    Message.decode (.object members) = .ok (.event e) →
      Json.lookup "method" members = some (.string e.method) ∧
        e.params = (Json.lookup "params" members).getD .null ∧
          Json.given? "sessionId" members = e.sessionId.map SessionId.toJson

/-- In every run, events go to the pages that serve their sessions, and to no others. -/
theorem session_routing (hr : r.Grounded) : r.SessionRouting where
  received _ := takenBefore_append_pending hr
  handed k handing := by
    rw [hands_iff hr]
    constructor
    · rintro ⟨e, page, hincoming, hrest⟩
      obtain ⟨message, htaken, hdecode⟩ := incoming?_eq_some.mp hincoming
      exact ⟨message, e, page, htaken, hdecode, hrest⟩
    · rintro ⟨message, e, page, htaken, hdecode, hrest⟩
      exact ⟨e, page, incoming?_eq_some.mpr ⟨message, htaken, hdecode⟩, hrest⟩
  served _ _ _ _ := Serves.unique
  single k := by
    cases h : r.handing? k with
    | none => exact .inr (by rw [handings_succ, h]; exact List.append_nil _)
    | some handing => exact .inl ⟨handing, hands_iff_handing?.mpr h⟩
  delivered _ _ _ _ := Hands.delivered
  unserved _ _ := pages_of_not_hands
  responses k message response htaken hdecode handing h := by
    obtain ⟨e, page, hincoming, -⟩ := (hands_iff hr).mp h
    cases hincoming.symm.trans (incoming?_eq_some.mpr ⟨message, htaken, hdecode⟩)
  table _ _ _ := routeOf?_eq_some_iff hr
  forgetting _ _ := Forgets.strikes
  key _ _ hkeys hdecode :=
    (EventMessage.decode_object hkeys).mp (Message.decode_event.mp hdecode).2

/-- A notice of a session, or of the level of the browser. -/
def notice (method : String) (session : Json) : Json :=
  .object [("method", .string method), ("sessionId", session)]

/-- A page is replaced under its session, and the one in its place is let go of; an event finds
it gone. Then the first is registered once more. -/
def replaced : Run where
  start := .initial [] .none
  transitions :=
    [.openPage (some ⟨"S"⟩) none, .openPage (some ⟨"S"⟩) none, .startReading,
      .route (some ⟨"S"⟩) 0, .route none 0, .inject (notice "a" (.string "S")),
      .inject (notice "b" (.string "S")), .inject (notice "c" (.string "S")),
      .inject (notice "d" .null), .inject (notice "e" (.string "S")), .receive,
      .read, .route (some ⟨"S"⟩) 1, .read, .dropPage 1, .read, .read, .route (some ⟨"S"⟩) 0, .read]

theorem replaced_grounded : replaced.Grounded where
  initial := ⟨[], .none, rfl⟩
  step k t ht := by
    have hall : ∀ k < 19, ∀ t ∈ replaced.transitions[k]?, t.Grounded (replaced.world k) := by
      decide
    exact hall k (List.getElem?_eq_some_iff.mp ht).1 t ht

example : (replaced.world 19).handings.map (fun h => (h.page, h.method)) =
    [(0, "a"), (1, "b"), (0, "d"), (0, "e")] := by
  decide

theorem session_routing_replaced : replaced.Grounded ∧ replaced.SessionRouting :=
  ⟨replaced_grounded, session_routing replaced_grounded⟩

end Run

end PagePilot
