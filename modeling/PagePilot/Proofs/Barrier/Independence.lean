import PagePilot.Proofs.Barrier.Alone
/-!
# PagePilot.Proofs.Barrier.Independence

Barriers do not interfere (`Staggered.barriers_independent`). Two runs in which a barrier
notices the same may differ in everything else: in the barriers that are armed beside it, in
what is done with those, in the contexts that are cancelled, and in what tasks do on the same
page. The barrier is matched in both or in neither, and whoever waits for it learns the same.

What a barrier notices is its own (`Staggered.Foreign`), and nobody can keep it from noticing:
the turns of other listeners, also when they release their barriers in the middle of a round,
take no turn away from it. So one event resolves all barriers that wait for it.
-/

namespace PagePilot

open Wire

/-! ### What concerns others -/

/-- A transition is no concern of a barrier: the clock stands still, no event reaches its page,
it is not released, the context that is cancelled is not above its own, and nobody lets go of
its halves. Other barriers may be armed, matched, released, dropped and waited for, and their
contexts cancelled. -/
structure World.Foreign (w : World) (key : BarrierKey) (a : Arming) (t : Transition) : Prop where
  timeless : (∀ duration, t ≠ .tick duration) ∧ t ≠ .serve
  elsewhere : ∀ event, w.delivered? t ≠ some (a.page, event)
  unreleased : t ≠ .release key
  apart : ∀ scope, t = .cancel scope → ¬ w.scopes.Descends scope a.ctx.scope
  held : ∀ f, ¬ w.Loosens t key f
  kept : ∀ task x, w.Retires t task → w.barriers[key]? = some x →
    x.waitHolder ≠ some (.task task) ∧ x.releaseHolder ≠ some (.task task)

namespace Staggered

variable (r : Staggered)

/-- A beat is no concern of a barrier. -/
structure Foreign (k : Nat) (key : BarrierKey) (a : Arming) : Prop where
  whole : ∀ t, r.beats[k]? = some (.whole t) → (r.world k).Foreign key a t
  /-- It is not the turn of its listener. -/
  turn : ∀ n page event reg rest, r.beats[k]? = some (.turn n) →
    (r.state k).rounds[n]? = some ⟨page, event, reg :: rest⟩ → reg.handler.key? ≠ some key

/-- Whoever polls a barrier at a position learns of an outcome. -/
def Learns (k : Nat) (task : TaskId) (key : BarrierKey) (outcome : Except Error Unit) : Prop :=
  ∃ w', (r.world k).perform task (.awaitMatch key) = some (outcome, w')

/-- The round of an event that reached a page at `s` is over at `k`. One that was delivered at
one go has no round. -/
def Over (s k : Nat) : Prop :=
  ∀ page event round, r.beats[s]? = some (.start page event) →
    (r.state k).rounds[(r.state s).rounds.length]? = some round → round.waiting = []

/-- Two barriers were armed alike, perhaps in different runs: for the same events and with the
same deadline, at the same time, and under contexts that were both cancelled by then or
neither. -/
structure ArmedAlike (r r' : Staggered) (m m' : Nat) (a a' : Arming) : Prop where
  wanted : a'.wanted = a.wanted
  deadline : a'.ctx.deadline = a.ctx.deadline
  now : (r'.world m').now = (r.world m).now
  served : (r'.world m').served = (r.world m).served
  cancelled : (r'.world m').scopes.isCancelled a'.ctx.scope =
    (r.world m).scopes.isCancelled a.ctx.scope

variable {r} {k m s : Nat} {key : BarrierKey} {a : Arming} {event : Event}

/-- A barrier does not notice what is no concern of it. -/
theorem sight?_of_foreign (hr : r.Admissible) (ha : r.Arms m key a) (hmk : m < k)
    (h : r.Foreign k key a) : r.sight? key a k = none := by
  obtain ⟨scope, hplace⟩ := ha.place hr hmk
  obtain ⟨x, hx, -, -⟩ := World.barrier_of_place? hplace
  have hsound := sound hr k
  cases r.passes k with
  | start page event hbeat => exact sight?_of_start hbeat
  | rest hnone hover => exact sight?_of_rest hnone hover
  | turn n page event reg rest hbeat hround =>
    rw [sight?_of_turn hbeat hround, if_neg (h.turn n _ _ _ _ hbeat hround)]
  | whole t hbeat =>
    have ht := h.whole t hbeat
    rw [sight?_of_whole hbeat]
    cases hsight : (r.world k).sight? key a t with
    | none => rfl
    | some sight =>
      exfalso
      cases sight with
      | tick duration => exact ht.timeless.1 _ (World.sight?_eq_tick.mp hsight)
      | serve => exact ht.timeless.2 (World.sight?_eq_serve.mp hsight)
      | turn event => exact World.sight?_ne_turn event hsight
      | delivered event => exact ht.elsewhere event (World.sight?_eq_delivered.mp hsight)
      | freed =>
        rcases (World.sight?_eq_freed hsound hx).mp hsight with hrelease | ⟨hbefore, hafter⟩
        · exact ht.unreleased hrelease
        · rcases hsound.lets_go hx hbefore hafter with ⟨f, hl⟩ | ⟨task, hp, hhalf⟩
          · exact ht.held f hl
          · obtain ⟨hw, hr⟩ := ht.kept task x hp hx
            exact hhalf.elim hw hr
      | cut =>
        have hscope := hsound.tidy.isContext hplace
        obtain ⟨hbefore, hafter⟩ := (World.sight?_eq_cut hsound hscope).mp hsight
        by_cases hcancel : ∃ c, t = .cancel c
        · obtain ⟨c, rfl⟩ := hcancel
          have hc : (r.world k).board.IsContext c := World.isContext_iff.mp (hr.step k _ hbeat)
          rcases (Scopes.isCancelled_cancel hsound.tidy.grown hc.1).mp hafter with h | h
          · exact Bool.false_ne_true (hbefore.symm.trans h)
          · exact ht.apart c rfl h
        · rw [hsound.isCancelled_apply hscope fun c heq => hcancel ⟨c, heq⟩] at hafter
          exact Bool.false_ne_true (hbefore.symm.trans hafter)

/-! ### Two runs -/

theorem learns_iff (hr : r.Admissible) (ha : r.Arms m key a) (hmk : m < k) {task : TaskId}
    {outcome : Except Error Unit} :
    r.Learns k task key outcome ↔ (r.shown key a k).outcome a.ctx.deadline = some outcome := by
  obtain ⟨scope, hplace⟩ := ha.place hr hmk
  obtain ⟨x, hx, -, hctx⟩ := World.barrier_of_place? hplace
  have houtcome := World.barrierOutcome_eq_alone hx
  rw [hctx] at houtcome
  rw [shown, ← houtcome]
  exact (exists_congr fun _ => perform_awaitMatch_iff).trans exists_eq_left

/-- Who was armed alike and has noticed the same is known to be the same. -/
theorem ArmedAlike.shown_eq {r' : Staggered} {m' k' : Nat} {key' : BarrierKey} {a' : Arming}
    (h : ArmedAlike r r' m m' a a') (hr : r.Admissible) (hr' : r'.Admissible)
    (ha : r.Arms m key a) (ha' : r'.Arms m' key' a') (hmk : m < k) (hmk' : m' < k')
    (haccount : r'.account m' key' a' k' = r.account m key a k) :
    r'.shown key' a' k' = r.shown key a k := by
  rw [Staggered.shown_eq hr' ha' hmk', Staggered.shown_eq hr ha hmk, haccount, h.wanted, h.now,
    h.served, h.cancelled]

/-! ### Turns -/

/-- A listener that is there was there before. -/
theorem not_freed_of_le (hr : r.Admissible) (ha : r.Arms m key a) (hms : m < s) (hsk : s ≤ k)
    (hunmatched : ¬ r.Matched k key) (hunfreed : ¬ r.Freed k key a.ctx) :
    ¬ r.Matched s key ∧ ¬ r.Freed s key a.ctx := by
  obtain ⟨scope, hplace⟩ := ha.place hr hms
  have hlive := (not_isCancelled_iff hr (place?_mono hr hsk hplace)).mpr ⟨hunmatched, hunfreed⟩
  refine (not_isCancelled_iff hr hplace).mp (Bool.eq_false_iff.mpr fun hgone => ?_)
  exact Bool.false_ne_true (hlive.symm.trans (isCancelled_mono hr hsk hgone))

/-- An event resolves a barrier that waits for it, at the latest by the end of the round. -/
theorem matched_of_over (hr : r.Admissible) (ha : r.Arms m key a) (hms : m < s) (hsk : s < k)
    (h : r.Dispatches s a.page event) (hwanted : a.wanted event = true) (hover : r.Over s k)
    (hunfreed : ¬ r.Freed k key a.ctx) : r.Matched k key := by
  refine Classical.byContradiction fun hunmatched => ?_
  -- The listener has its turn, and is there then, since it is there still.
  have hturn : ∃ d < k, r.HasTurn s d key a event := by
    obtain ⟨hunmatched', hunfreed'⟩ := not_freed_of_le hr ha hms (Nat.le_of_lt hsk) hunmatched hunfreed
    obtain ⟨scope, hplace⟩ := ha.place hr hms
    cases h with
    | atOnce hbeat hdelivered =>
      have hlive := (not_isCancelled_iff hr hplace).mpr ⟨hunmatched', hunfreed'⟩
      exact ⟨s, hsk, scope, .atOnce hbeat hdelivered (ha.live hr hms hplace hlive) rfl⟩
    | start hbeat =>
      rcases turn_or_awaits hr ha hms hsk (.start hbeat) hunmatched' hunfreed' with
        hturn | ⟨scope, waiting, hround, hmem⟩
      · exact hturn
      · have hnobody : waiting = [] := hover _ _ _ hbeat hround
        rw [hnobody] at hmem
        cases hmem
  obtain ⟨d, hdk, hturn⟩ := hturn
  have hmd : m < d := Nat.lt_of_lt_of_le hms hturn.le
  obtain ⟨hunmatched', hunfreed'⟩ := not_freed_of_le hr ha hmd (Nat.le_of_lt hdk) hunmatched hunfreed
  have hmatched := (matched_succ hr ha hmd).mpr
    (.inr ⟨s, event, hturn.sets hr ha hwanted hunmatched' hunfreed'⟩)
  exact hunmatched (hmatched.mono hr ha (Nat.lt_succ_of_lt hmd) hdk)

/-! ### All together -/

variable (r) in
/-- Nothing interferes with a barrier that was armed at position `m`. -/
structure Independent (m : Nat) (key : BarrierKey) (a : Arming) : Prop where
  /-- What is no concern of it is not noticed: what is done with other barriers and their
  contexts, and what tasks do. -/
  foreign : ∀ k, m < k → r.Foreign k key a → r.sight? key a k = none
  /-- In any other run, among any other barriers, a barrier that was armed alike and has noticed
  the same is matched or not just like this one, and whoever polls it learns the same. -/
  same : ∀ (r' : Staggered) (m' : Nat) (key' : BarrierKey) (a' : Arming), r'.Admissible →
    r'.Arms m' key' a' → ArmedAlike r r' m m' a a' → ∀ k k', m < k → m' < k' →
      r'.account m' key' a' k' = r.account m key a k →
        (r'.Matched k' key' ↔ r.Matched k key) ∧
          ∀ task task' outcome, r'.Learns k' task' key' outcome ↔ r.Learns k task key outcome
  /-- Its turns are not taken from it: an event that reaches the page while the barrier is
  neither matched nor freed gets to its listener, whatever the other listeners do. -/
  heard : ∀ s k event, m < s → s < k → r.Dispatches s a.page event → ¬ r.Matched s key →
    ¬ r.Freed s key a.ctx →
      (∃ d < k, r.HasTurn s d key a event) ∨ r.AwaitsTurn s k key a event
  /-- An event that it wants resolves it, unless the barrier is freed before the round is over.
  So one event resolves all that wait for it. -/
  resolved : ∀ s k event, m < s → s < k → r.Dispatches s a.page event → a.wanted event = true →
    r.Over s k → ¬ r.Freed k key a.ctx →
      r.Matched k key ∧ ∀ task, r.Learns k task key (.ok ())
  /-- And when it is matched, and thereby released, in the middle of a round, the event is not
  hidden from any other barrier that was there for it. -/
  unhidden : ∀ s d event, r.Sets s d key a event → ∀ n key' b, n < s → r.Arms n key' b →
    b.page = a.page → ¬ r.Matched s key' → ¬ r.Freed s key' b.ctx →
      (∃ d' ≤ d, r.HasTurn s d' key' b event) ∨ r.AwaitsTurn s (d + 1) key' b event

/-- In every staggered run no barrier is interfered with. -/
theorem barriers_independent (hr : r.Admissible) (ha : r.Arms m key a) :
    r.Independent m key a where
  foreign _ hmk h := sight?_of_foreign hr ha hmk h
  same r' m' key' a' hr' ha' halike k k' hmk hmk' haccount := by
    have hshown := halike.shown_eq hr hr' ha ha' hmk hmk' haccount
    refine ⟨?_, fun task task' outcome => ?_⟩
    · rw [← matched_shown_iff (a := a'), hshown, matched_shown_iff]
    · rw [learns_iff hr' ha' hmk', learns_iff hr ha hmk, hshown, halike.deadline]
  heard _ _ _ hms hsk := turn_or_awaits hr ha hms hsk
  resolved s k event hms hsk h hwanted hover hunfreed := by
    have hmatched := matched_of_over hr ha hms hsk h hwanted hover hunfreed
    have hmk := Nat.lt_trans hms hsk
    refine ⟨hmatched, fun task => (learns_iff hr ha hmk).mpr ?_⟩
    exact if_pos (matched_shown_iff.mpr hmatched)
  unhidden s d event hsets n key' b hns hb hpage hunmatched hunfreed := by
    obtain ⟨scope, hturn, -⟩ := hsets.called
    have hdispatches : r.Dispatches s b.page event := hpage ▸ hturn.dispatches
    rcases turn_or_awaits hr hb hns (Nat.lt_succ_of_le hturn.le) hdispatches hunmatched hunfreed with
      ⟨d', hd, hturn'⟩ | hawaits
    · exact .inl ⟨d', Nat.le_of_lt_succ hd, hturn'⟩
    · exact .inr hawaits

/-- Two barriers on a page, of which the first one is matched in the middle of a round, and then
its context is cancelled. -/
def crowded : Staggered where
  start := .initial [] .none
  beats :=
    [.whole (.newScope none), .whole (.newScope none), .whole (.openPage none none),
      .whole (.arm 0 ⟨1, none⟩ fun _ => true), .whole (.arm 0 ⟨0, some 5⟩ fun _ => true),
      .start 0 (.other "Page.loadEventFired" .null), .turn 0, .whole (.cancel 1), .turn 0,
      .whole (.tick 5), .whole .serve]

/-- The second one of these barriers, on a page of its own. -/
def solitary : Staggered where
  start := .initial [] .none
  beats :=
    [.whole (.newScope none), .whole (.openPage none none),
      .whole (.arm 0 ⟨0, some 5⟩ fun _ => true),
      .start 0 (.other "Page.loadEventFired" .null), .turn 0, .whole (.tick 5), .whole .serve]

theorem crowded_admissible : crowded.Admissible := by
  refine admissible_of_admits ⟨?_, ?_, ?_, ?_, ?_, nofun, nofun, ?_, nofun, ?_, ?_, trivial⟩
  all_goals
    rintro t ht
    cases ht
  · trivial
  · trivial
  · trivial
  · exact ⟨by decide, by decide, nofun⟩
  · exact ⟨by decide, by decide, by decide⟩
  · exact ⟨by decide, by decide⟩
  · trivial
  · trivial

theorem solitary_admissible : solitary.Admissible := by
  refine admissible_of_admits ⟨?_, ?_, ?_, nofun, nofun, ?_, ?_, trivial⟩
  all_goals
    rintro t ht
    cases ht
  · trivial
  · trivial
  · exact ⟨by decide, by decide, nofun⟩
  · trivial
  · trivial

theorem barriers_independent_crowded : crowded.Admissible ∧
    crowded.Arms 4 1 passedOverArming ∧ crowded.Independent 4 1 passedOverArming ∧
      crowded.Matched 11 1 ∧ solitary.Matched 7 0 := by
  have harms : crowded.Arms 4 1 passedOverArming := ⟨_, rfl, rfl, rfl⟩
  have hindependent := barriers_independent crowded_admissible harms
  have hmatched : crowded.Matched 11 1 := ⟨_, rfl, rfl⟩
  have hsame := hindependent.same solitary 2 0 passedOverArming solitary_admissible
    ⟨_, rfl, rfl, rfl⟩ ⟨rfl, rfl, rfl, rfl, rfl⟩ 11 7 (by decide) (by decide) rfl
  exact ⟨crowded_admissible, harms, hindependent, hmatched, hsame.1.mpr hmatched⟩

end Staggered

end PagePilot
