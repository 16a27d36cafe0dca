import PagePilot.Proofs.Connection.Routing
import PagePilot.Proofs.Noise.Hushed
/-!
# PagePilot.Proofs.Noise.Messages

Which messages are noise, and what the reader does with messages in two worlds that differ in noise:

* `World.ignores` is noise as the world sees it when it takes the message;
* `World.hushed_take_of_ignores` says that noise changes nothing, and `World.hushed_take_congr`
  that any other message does the same in both worlds, as long as the same pages get the events;
* `World.RoutesAlike` is what noise leaves of the routes: it may strike out pages that are gone, so
  without it they may be there a while longer, and nothing else ever differs
  (`World.RoutesAlike.apply`, `World.RoutesAlike.apply_noise`).
-/

namespace PagePilot

open Wire

namespace World

/-- The page that gets the events of a session now: the one they go to, if anybody keeps it. -/
def sinkOf? (w : World) (session : Option SessionId) : Option PageKey :=
  (w.connection.routeOf? session).filter w.isAlive

/-- Whether a message is noise: it does not read as one, or it answers a request that does not wait,
or it is an event of a session that no page gets the events of. -/
def ignores (w : World) (message : Json) : Bool :=
  match Message.decode message with
  | .error _ => true
  | .ok (.response r) => decide (r.id ∉ w.connection.parked)
  | .ok (.event e) => (w.sinkOf? e.sessionId).isNone

variable {w w' : World} {message : Json}

/-! ### Messages -/

theorem hushed_complaint (w : World) (record : Log.Record) (h : record.source = messageSource) :
    (w.note (.logged record)).hushed = w.hushed :=
  hushed_complain w (by simp [Occurrence.isComplaint, h])

theorem hushed_answer (w : World) (r : Response) : (w.answer r).hushed =
    if r.id ∈ w.connection.parked then
      (w.hushed.modifyConnection (·.answer r)).note (.answered r.id)
    else w.hushed := by
  unfold answer
  split
  · next hparked =>
    rw [hushed_note _ rfl]
    simp [hushed, modifyConnection, Connection.answer, Connection.unpark, hparked]
  · exact hushed_complaint w _ rfl

/-- What an event does depends on who gets it. -/
theorem hushed_hand (w : World) (e : EventMessage) : (w.hand e).hushed =
    match w.sinkOf? e.sessionId with
    | some page =>
        (w.hushed.note (.handed page e.method e.params)).deliver page (.decode e.method e.params)
    | none => w.hushed := by
  unfold hand sinkOf?
  cases w.connection.routeOf? e.sessionId with
  | none => rfl
  | some page =>
    by_cases halive : w.isAlive page = true
    · simp only [Option.filter_some, halive, if_true]
      rw [hushed_deliver, hushed_note _ rfl]
    · simp only [Option.filter_some, halive]
      simp [hushed, modifyConnection, Connection.unroute]

theorem hushed_withInbox (w : World) (rest : List Json) : (w.withInbox rest).hushed = w.hushed :=
  rfl

/-- Noise changes nothing. -/
theorem hushed_take_of_ignores (h : w.ignores message = true) :
    (w.take message).hushed = w.hushed := by
  unfold ignores at h
  unfold take
  cases hdecode : Message.decode message with
  | error cause => exact hushed_complaint w _ rfl
  | ok m =>
    rw [hdecode] at h
    cases m with
    | response r =>
      have hparked : r.id ∉ w.connection.parked := of_decide_eq_true h
      exact (hushed_answer w r).trans (if_neg hparked)
    | event e =>
      have hsink : w.sinkOf? e.sessionId = none := Option.isNone_iff_eq_none.mp h
      have hhand := hushed_hand w e
      rwa [hsink] at hhand

/-- Two worlds that differ in noise, and in which the same pages get the same events, take a
message alike. -/
theorem hushed_take_congr (h : w'.hushed = w.hushed)
    (hsinks : ∀ session, w'.sinkOf? session = w.sinkOf? session) (message : Json) :
    (w'.take message).hushed = (w.take message).hushed := by
  unfold take
  cases Message.decode message with
  | error cause => exact (hushed_complaint w' _ rfl).trans (h.trans (hushed_complaint w _ rfl).symm)
  | ok m =>
    cases m with
    | response r =>
      have hparked : w'.connection.parked = w.connection.parked :=
        congrArg (·.connection.parked) h
      show (w'.answer r).hushed = (w.answer r).hushed
      rw [hushed_answer, hushed_answer, h, hparked]
    | event e =>
      show (w'.hand e).hushed = (w.hand e).hushed
      rw [hushed_hand, hushed_hand, h, hsinks]

/-- The reader goes on to the end, or has nothing to do. -/
theorem hushed_read_of_none (h : w.taken? .read = none) : w.read.hushed = w.hushed.read := by
  have hsame : w.hushed.inbound.reading = w.inbound.reading := rfl
  unfold taken? at h
  unfold read
  rw [hsame]
  cases hreading : w.inbound.reading with
  | running owner =>
    cases hinbox : w.inbound.inbox with
    | cons message rest => simp [hreading, hinbox] at h
    | nil =>
      show _ = if w.inbound.inboxOpen then w.hushed else _
      dsimp only
      split <;> rfl
  | _ => rfl

/-! ### Routes -/

/-- The routes of `w'` are those of `w`, and besides there may be some to pages that are gone. -/
def RoutesAlike (w w' : World) : Prop :=
  ∀ session, w'.connection.routeOf? session = w.connection.routeOf? session ∨
    (w.connection.routeOf? session = none ∧ ∃ page p,
      w'.connection.routeOf? session = some page ∧ w.pages[page]? = some p ∧ p.alive = false)

theorem isAlive_of_pages (h : w'.pages = w.pages) : w'.isAlive = w.isAlive := by
  funext page
  unfold isAlive
  rw [h]

theorem RoutesAlike.refl (w : World) : w.RoutesAlike w :=
  fun _ => .inl rfl

theorem RoutesAlike.sinkOf?_eq (h : w.RoutesAlike w') (hpages : w'.pages = w.pages)
    (session : Option SessionId) : w'.sinkOf? session = w.sinkOf? session := by
  unfold sinkOf?
  rw [isAlive_of_pages hpages]
  rcases h session with hsame | ⟨hnone, page, p, hroute, hp, hgone⟩
  · rw [hsame]
  · have hdead : w.isAlive page = false := by simpa [isAlive, hp] using hgone
    rw [hnone, hroute]
    simp [hdead]

/-- Tasks do the same acts, with the same replies. -/
theorem deed?_congr (h : w'.hushed = w.hushed) (t : Transition) : w'.deed? t = w.deed? t := by
  have hreply : ∀ (v : World) task (a : Act), (v.perform task a).map Prod.fst =
      (v.hushed.perform task a).map Prod.fst := by
    intro v task a
    have hfst := congrArg (Option.map Prod.fst) (hushed_perform v task a)
    simp only [Option.map_map] at hfst
    exact hfst.symm
  cases t
  case step task =>
    have htasks : w'.tasks = w.tasks := congrArg (·.tasks) h
    simp only [deed?, htasks]
    split
    next a next hrest =>
      have hsame := (hreply w' task a).trans (h ▸ (hreply w task a).symm)
      have hpair := congrArg (Option.map fun reply => (task, (⟨a, reply⟩ : Deed))) hsame
      rw [Option.map_map, Option.map_map] at hpair
      exact hpair
    next => rfl
  all_goals rfl

theorem adopted?_congr (h : w'.hushed = w.hushed) (t : Transition) :
    w'.adopted? t = w.adopted? t := by
  cases t
  case step task => simp only [adopted?, deed?_congr h]
  all_goals rfl

/-- What makes sense in a world does so in one that differs in noise. -/
theorem grounded_congr (h : w'.hushed = w.hushed) {t : Transition} (ht : t.Grounded w) :
    t.Grounded w' := by
  have hpages : w'.pages = w.pages := congrArg (·.pages) h
  unfold Transition.Grounded at ht ⊢
  rwa [adopted?_congr h, hpages, isAlive_of_pages hpages]

/-- What the same transition does to the routes of two worlds that are alike. -/
theorem rerouted?_congr (h : w.RoutesAlike w') (hhushed : w'.hushed = w.hushed) {t : Transition}
    (hincoming : w'.incoming? t = w.incoming? t) : w'.rerouted? t = w.rerouted? t ∨
      w.rerouted? t = none ∧ ∃ session, w'.rerouted? t = some (session, none) ∧
        w.connection.routeOf? session = none := by
  have hpages : w'.pages = w.pages := congrArg (·.pages) hhushed
  cases t
  case step task =>
    refine .inl ?_
    simp only [rerouted?, deed?_congr hhushed]
  case read =>
    unfold rerouted? routed?
    dsimp only
    rw [hincoming]
    cases w.incoming? .read with
    | none => exact .inl rfl
    | some m =>
      cases m with
      | response r => exact .inl rfl
      | event e =>
        dsimp only
        rw [isAlive_of_pages hpages]
        rcases h e.sessionId with hsame | ⟨hnone, page, p, hroute, hp, hgone⟩
        · rw [hsame]
          exact .inl rfl
        · have hdead : w.isAlive page = false := by simpa [isAlive, hp] using hgone
          refine .inr ⟨by rw [hnone]; rfl, e.sessionId, ?_, hnone⟩
          rw [hroute]
          simp [hdead]
  all_goals exact .inl rfl

/-- A page that is gone does not come back. -/
theorem gone_apply {t : Transition} (ht : t.Grounded w) {page : PageKey} {p : PageState}
    (hp : w.pages[page]? = some p) (hgone : p.alive = false) :
    ∃ p', (w.apply t).pages[page]? = some p' ∧ p'.alive = false := by
  obtain ⟨p', hp', hback⟩ := apply_page t hp
  refine ⟨p', hp', Bool.eq_false_iff.mpr fun halive => ?_⟩
  rcases hback halive with hbefore | hadopted
  · rw [hgone] at hbefore
    cases hbefore
  · have hdead : w.isAlive page = false := by simpa [isAlive, hp] using hgone
    rw [ht.2 page hadopted] at hdead
    cases hdead

theorem RoutesAlike.apply (h : w.RoutesAlike w') (hhushed : w'.hushed = w.hushed) {t : Transition}
    (ht : t.Grounded w) (hincoming : w'.incoming? t = w.incoming? t) :
    (w.apply t).RoutesAlike (w'.apply t) := by
  intro session
  rw [apply_routeOf?, apply_routeOf?]
  -- What is not changed is alike as before.
  have hkept : w'.connection.routeOf? session = w.connection.routeOf? session ∨
      (w.connection.routeOf? session = none ∧ ∃ page p,
        w'.connection.routeOf? session = some page ∧ (w.apply t).pages[page]? = some p ∧
          p.alive = false) := by
    rcases h session with hsame | ⟨hnone, page, p, hroute, hp, hgone⟩
    · exact .inl hsame
    · obtain ⟨p', hp', hgone'⟩ := gone_apply ht hp hgone
      exact .inr ⟨hnone, page, p', hroute, hp', hgone'⟩
  rcases rerouted?_congr h hhushed hincoming with hsame | ⟨hnone, session', hchange, hroute⟩
  · rw [hsame]
    unfold routeAfter
    cases w.rerouted? t with
    | none => exact hkept
    | some change =>
      by_cases hsession : change.1 = session
      · simp [hsession]
      · simpa [hsession] using hkept
  · rw [hnone, hchange]
    unfold routeAfter
    dsimp only
    by_cases hsession : session' = session
    · rw [if_pos hsession, ← hsession, hroute]
      exact .inl rfl
    · rw [if_neg hsession]
      exact hkept

/-- The reader takes noise, and nothing changes. -/
theorem hushed_apply_of_noise {t : Transition} (htaken : w.taken? t = some message)
    (hnoise : w.ignores message = true) : (w.apply t).hushed = w.hushed := by
  obtain ⟨rfl, owner, rest, hreading, hinbox⟩ := taken?_eq_some.mp htaken
  have hnoise' : (w.withInbox rest).ignores message = true := hnoise
  rw [apply_read_of_message hreading hinbox, hushed_take_of_ignores hnoise', hushed_withInbox]

/-- Noise strikes at most a page that is gone out of the table. -/
theorem rerouted?_of_noise {t : Transition} (htaken : w.taken? t = some message)
    (hnoise : w.ignores message = true) : w.rerouted? t = none ∨
      ∃ session page, w.rerouted? t = some (session, none) ∧
        w.connection.routeOf? session = some page ∧ w.isAlive page = false := by
  obtain ⟨rfl, -⟩ := taken?_eq_some.mp htaken
  unfold ignores at hnoise
  unfold rerouted? routed?
  dsimp only
  rw [incoming?_eq_bind, htaken, Option.bind_some]
  cases hdecode : Message.decode message with
  | error cause => exact .inl rfl
  | ok m =>
    rw [hdecode] at hnoise
    cases m with
    | response r => exact .inl rfl
    | event e =>
      have hsink : w.sinkOf? e.sessionId = none := Option.isNone_iff_eq_none.mp hnoise
      unfold sinkOf? at hsink
      dsimp only [Except.toOption]
      cases hroute : w.connection.routeOf? e.sessionId with
      | none => exact .inl rfl
      | some page =>
        have hdead : w.isAlive page = false := by simpa [hroute] using hsink
        exact .inr ⟨e.sessionId, page, by simp [hdead], hroute, hdead⟩

theorem RoutesAlike.apply_noise (h : w.RoutesAlike w') {t : Transition}
    (htaken : w.taken? t = some message) (hnoise : w.ignores message = true)
    (hthere : ∀ {session page}, w.connection.routeOf? session = some page →
      ∃ p, w.pages[page]? = some p) : (w.apply t).RoutesAlike w' := by
  have hpages : (w.apply t).pages = w.pages :=
    congrArg (·.pages) (hushed_apply_of_noise htaken hnoise)
  intro session
  rw [apply_routeOf?, hpages]
  rcases rerouted?_of_noise htaken hnoise with hnone | ⟨session', page, hchange, hroute, hdead⟩
  · rw [hnone]
    exact h session
  · rw [hchange]
    unfold routeAfter
    dsimp only
    by_cases hsession : session' = session
    · rw [if_pos hsession]
      subst hsession
      -- Without the noise the page is still in the table, and nobody keeps it.
      obtain ⟨p, hp⟩ := hthere hroute
      rcases h session' with hsame | ⟨hnone, -⟩
      · exact .inr ⟨rfl, page, p, hsame.trans hroute, hp, by simpa [isAlive, hp] using hdead⟩
      · cases hnone.symm.trans hroute
    · rw [if_neg hsession]
      exact h session

end World

end PagePilot
