import PagePilot.Proofs.Barrier.Turn
import PagePilot.Proofs.Context
/-!
# PagePilot.Proofs.Barrier.Outcome

What comes of a barrier in a staggered run, in whatever order events, releases, cancellations
and clocks have their turns (`Staggered.barrier_outcome`).

* `Staggered.turn_or_awaits`: an event that reaches the page is not missed;
* `Staggered.WaitEnds` lists the ends of a wait, and `Staggered.barrierOutcome_iff` says that
  a wait ends in these ways only.
-/

namespace PagePilot

open Wire

namespace Staggered

variable (r : Staggered)

/-- The listener of a barrier has yet to have its turn in a round that started at `s`. -/
def AwaitsTurn (s k : Nat) (key : BarrierKey) (a : Arming) (event : Event) : Prop :=
  ∃ scope waiting,
    (r.state k).rounds[(r.state s).rounds.length]? = some ⟨a.page, event, waiting⟩ ∧
      ⟨scope, .barrier key a.wanted⟩ ∈ waiting

/-- How the wait for a barrier ends at a position, if it does. A match goes before the end of
the context, and a cancellation before the deadline. -/
inductive WaitEnds (k : Nat) (key : BarrierKey) (ctx : Context) : Except Error Unit → Prop
  | matched (h : r.Matched k key) : WaitEnds k key ctx (.ok ())
  | cancelled (hnot : ¬ r.Matched k key) (h : r.Cancelled k ctx.scope) :
      WaitEnds k key ctx (.error .cancelled)
  | late {d : Nat} (hnot : ¬ r.Matched k key) (hlive : ¬ r.Cancelled k ctx.scope)
      (hdeadline : ctx.deadline = some d) (htold : d ≤ (r.world k).served) :
      WaitEnds k key ctx (.error .deadlineExceeded)

variable {r} {k m s : Nat} {key : BarrierKey} {a : Arming} {event : Event}

/-! ### The turns that come -/

/-- Who waits for a turn goes on waiting until it comes. -/
theorem AwaitsTurn.succ (hs : r.beats[s]? = some (.start a.page event)) (hsk : s < k)
    (h : r.AwaitsTurn s k key a event) :
    r.HasTurn s k key a event ∨ r.AwaitsTurn s (k + 1) key a event := by
  obtain ⟨scope, waiting, hround, hmem⟩ := h
  cases r.passes k with
  | whole t _ _ hrounds => exact .inr ⟨scope, waiting, hrounds ▸ hround, hmem⟩
  | rest _ _ hstate => exact .inr ⟨scope, waiting, hstate ▸ hround, hmem⟩
  | start page event' _ _ hrounds =>
    refine .inr ⟨scope, waiting, ?_, hmem⟩
    rw [hrounds]
    exact (List.getElem?_append_left (List.getElem?_eq_some_iff.mp hround).1).trans hround
  | turn n page event' reg rest hbeat hround' _ hrounds =>
    by_cases hn : n = (r.state s).rounds.length
    · subst hn
      cases hround.symm.trans hround'
      rcases List.mem_cons.mp hmem with rfl | hmem
      · exact .inl ⟨scope, .apart hs hsk hbeat hround'⟩
      · refine .inr ⟨scope, rest, ?_, hmem⟩
        rw [hrounds]
        exact List.getElem?_set_self (List.getElem?_eq_some_iff.mp hround).1
    · refine .inr ⟨scope, waiting, ?_, hmem⟩
      rw [hrounds, List.getElem?_set_ne hn]
      exact hround

/-- No event is missed while the barrier is neither matched nor freed. -/
theorem turn_or_awaits (hr : r.Admissible) (ha : r.Arms m key a) (hms : m < s) (hsk : s < k)
    (h : r.Dispatches s a.page event) (hunmatched : ¬ r.Matched s key)
    (hunfreed : ¬ r.Freed s key a.ctx) :
    (∃ d < k, r.HasTurn s d key a event) ∨ r.AwaitsTurn s k key a event := by
  obtain ⟨scope, hplace⟩ := ha.place hr hms
  have hnot := (not_isCancelled_iff hr hplace).mpr ⟨hunmatched, hunfreed⟩
  have hlive := ha.live hr hms hplace hnot
  cases h with
  | atOnce hbeat hdelivered => exact .inl ⟨s, hsk, scope, .atOnce hbeat hdelivered hlive rfl⟩
  | start hbeat =>
    induction hsk with
    | refl =>
      refine .inr ⟨scope, _, ?_, hlive⟩
      rw [state_succ hbeat]
      exact List.getElem?_concat_length
    | @step k hsk ih =>
      rcases ih with ⟨d, hdk, hturn⟩ | hawaits
      · exact .inl ⟨d, Nat.lt_succ_of_lt hdk, hturn⟩
      · rcases hawaits.succ hbeat hsk with hturn | hawaits
        · exact .inl ⟨k, Nat.lt_succ_self k, hturn⟩
        · exact .inr hawaits

/-! ### Waits -/

/-- Those who wait are not told of a time that has not come. -/
theorem served_le_now (hr : r.Admissible) (k : Nat) : (r.world k).served ≤ (r.world k).now := by
  induction k with
  | zero =>
    obtain ⟨refused, network, hstart⟩ := hr.initial
    show r.start.served ≤ r.start.now
    rw [hstart]
    exact Nat.le_refl 0
  | succ k ih =>
    cases r.passes k with
    | whole t _ hworld =>
      rw [hworld]
      exact World.served_le_apply ih t
    | start page event _ hworld =>
      have haside := World.opening_aside (r.world k) page event
      rw [hworld, haside.served, haside.now]
      exact ih
    | turn n page event reg rest _ _ hworld =>
      have haside := World.giveTurn_aside (r.world k) page event reg
      rw [hworld, haside.served, haside.now]
      exact ih
    | rest _ _ hstate =>
      rw [show r.world (k + 1) = r.world k from congrArg Underway.world hstate]
      exact ih

/-- A wait ends in one of the ways that are listed, and in no other. -/
theorem barrierOutcome_iff (hr : r.Admissible) (ha : r.Arms m key a) (hmk : m < k)
    {outcome : Except Error Unit} :
    (r.world k).barrierOutcome key = some outcome ↔ r.WaitEnds k key a.ctx outcome := by
  obtain ⟨scope, hplace⟩ := ha.place hr hmk
  have hcancelled : (r.world k).scopes.isCancelled a.ctx.scope = true ↔ r.Cancelled k a.ctx.scope :=
    isCancelled_context hr ((sound hr k).tidy.isContext hplace)
  obtain ⟨x, hx, -, hctx⟩ := World.barrier_of_place? hplace
  have hmatched := matched_iff_of_barrier hx
  unfold World.barrierOutcome
  simp only [hx, hctx]
  split
  next h =>
    constructor
    · intro heq
      cases heq
      exact .matched (hmatched.mpr h)
    · intro hend
      cases hend with
      | matched => rfl
      | cancelled hnot | late hnot => exact absurd (hmatched.mpr h) hnot
  next h =>
    have hnot : ¬ r.Matched k key := fun hm => h (hmatched.mp hm)
    rw [Option.map_eq_some_iff]
    constructor
    · rintro ⟨e, he, rfl⟩
      rcases Context.errorAt_eq_some.mp he with ⟨hc, rfl⟩ | ⟨hc, ⟨d, hd, htold⟩, rfl⟩
      · exact .cancelled hnot (hcancelled.mp hc)
      · exact .late hnot (fun h => hc (hcancelled.mpr h)) hd htold
    · intro hend
      cases hend with
      | matched hm => exact absurd hm hnot
      | cancelled _ hc =>
        exact ⟨_, Context.errorAt_eq_some.mpr (.inl ⟨hcancelled.mpr hc, rfl⟩), rfl⟩
      | late _ hlive hd htold =>
        exact ⟨_, Context.errorAt_eq_some.mpr
          (.inr ⟨fun hc => hlive (hcancelled.mp hc), ⟨_, hd, htold⟩, rfl⟩), rfl⟩

/-- While its context goes on, the wait for a barrier that is not matched goes on. -/
theorem barrierOutcome_eq_none (hr : r.Admissible) (ha : r.Arms m key a) (hmk : m < k)
    (hnot : ¬ r.Matched k key) (halive : (r.world k).endOf a.ctx = none) :
    (r.world k).barrierOutcome key = none := by
  obtain ⟨x, hx, hctx⟩ : ∃ x : Barrier, (r.world k).barriers[key]? = some x ∧ x.ctx = a.ctx := by
    obtain ⟨scope, hplace⟩ := ha.place hr hmk
    obtain ⟨x, hx, -, hctx⟩ := World.barrier_of_place? hplace
    exact ⟨x, hx, hctx⟩
  have htold : (r.world k).toldEndOf a.ctx = none :=
    Context.errorAt_none_of_le id (served_le_now hr k) halive
  unfold World.barrierOutcome
  simp only [hx, hctx, htold]
  exact if_neg fun h => hnot ⟨x, hx, h⟩

/-! ### All together -/

variable (r) in
/-- What comes of a barrier that was armed at position `m`. -/
structure BarrierOutcome (m : Nat) (key : BarrierKey) (a : Arming) : Prop where
  /-- It is matched when an event that it waits for has reached its page after the arming, and
  the turn of its listener has come before the barrier was released, by a call or by the loss
  of both halves, and before its context was cancelled. -/
  matched : ∀ k, m < k → (r.Matched k key ↔ ∃ s d event, m < s ∧ d < k ∧
    r.Dispatches s a.page event ∧ r.HasTurn s d key a event ∧ a.wanted event = true ∧
      ¬ r.Freed d key a.ctx)
  /-- An event that reaches the page while the barrier is neither matched nor freed gets to its
  listener, at the turn of that. -/
  heard : ∀ s k event, m < s → s < k → r.Dispatches s a.page event → ¬ r.Matched s key →
    ¬ r.Freed s key a.ctx →
      (∃ d < k, r.HasTurn s d key a event) ∨ r.AwaitsTurn s k key a event
  /-- A match stays. -/
  stays : ∀ k n, m < k → k ≤ n → r.Matched k key → r.Matched n key
  /-- What turns a barrier that is not matched into one that is, is a turn by which its listener
  is called with a wanted event. -/
  set : ∀ k, m < k →
    (¬ r.Matched k key ∧ r.Matched (k + 1) key ↔ ∃ s event, r.Sets s k key a event)
  /-- There is one such turn at most, and one such event. -/
  once : ∀ s d event s' d' event', r.Sets s d key a event → r.Sets s' d' key a event' →
    s = s' ∧ d = d' ∧ event = event'
  /-- Whoever polls the barrier learns of the match, also when the context has ended; if there
  is none, of the cancellation; and if there is none either, of the deadline. -/
  wait : ∀ k task outcome w', m < k → ((r.world k).perform task (.awaitMatch key) =
    some (outcome, w') ↔ w' = r.world k ∧ r.WaitEnds k key a.ctx outcome)
  /-- As long as the barrier is not matched and its context has not ended, there is nothing to
  learn. -/
  pending : ∀ k task, m < k → ¬ r.Matched k key → (r.world k).endOf a.ctx = none →
    (r.world k).perform task (.awaitMatch key) = none
  /-- A barrier that is freed before it is matched is never matched, and nobody learns of a
  match. -/
  lost : ∀ c k, m < c → c ≤ k → r.Freed c key a.ctx → ¬ r.Matched c key → ¬ r.Matched k key ∧
    ∀ task w', (r.world k).perform task (.awaitMatch key) ≠ some (.ok (), w')

/-- What a poll of a barrier gives. -/
theorem perform_awaitMatch_iff {w w' : World} {task : TaskId} {outcome : Except Error Unit} :
    w.perform task (.awaitMatch key) = some (outcome, w') ↔
      w' = w ∧ w.barrierOutcome key = some outcome := by
  refine (Option.map_eq_some_iff (f := (·, w))).trans ?_
  constructor
  · rintro ⟨outcome', houtcome, heq⟩
    cases heq
    exact ⟨rfl, houtcome⟩
  · rintro ⟨rfl, houtcome⟩
    exact ⟨outcome, houtcome, rfl⟩

/-- In every staggered run a barrier comes out as it should, for any event that it may wait for
and whatever happens between the turns. -/
theorem barrier_outcome (hr : r.Admissible) (ha : r.Arms m key a) : r.BarrierOutcome m key a where
  matched _ hmk := matched_iff hr ha hmk
  heard _ _ _ hms hsk := turn_or_awaits hr ha hms hsk
  stays _ _ hmk hkn h := h.mono hr ha hmk hkn
  set k hmk := by
    rw [matched_succ hr ha hmk]
    constructor
    · rintro ⟨hnot, hmatched | hsets⟩
      · exact absurd hmatched hnot
      · exact hsets
    · intro hsets
      obtain ⟨s, event, h⟩ := id hsets
      exact ⟨(h.waiting hr ha).1, .inr hsets⟩
  once _ _ _ _ _ _ h h' := h.unique hr ha h'
  wait _ _ _ _ hmk := perform_awaitMatch_iff.trans
    (and_congr_right fun _ => barrierOutcome_iff hr ha hmk)
  pending _ _ hmk hnot halive :=
    Option.map_eq_none_iff.mpr (barrierOutcome_eq_none hr ha hmk hnot halive)
  lost c k hmc hck hfreed hnot := by
    have hnever := not_matched_of_freed hr ha hmc hck hfreed hnot
    refine ⟨hnever, ?_⟩
    intro task w' h
    obtain ⟨-, houtcome⟩ := perform_awaitMatch_iff.mp h
    cases (barrierOutcome_iff hr ha (Nat.lt_of_lt_of_le hmc hck)).mp houtcome with
    | matched hm => exact hnever hm

/-- Two barriers wait for the same event. After the turn of the first one the second one is
released, so that its own turn comes too late, and its deadline ends the wait. -/
def passedOver : Staggered where
  start := .initial [] .none
  beats :=
    [.whole (.newScope none), .whole (.openPage none none),
      .whole (.arm 0 ⟨0, none⟩ fun _ => true), .whole (.arm 0 ⟨0, some 5⟩ fun _ => true),
      .start 0 (.other "Page.loadEventFired" .null), .turn 0, .whole (.release 1), .turn 0,
      .whole (.tick 5), .whole .serve]

/-- What the second barrier was armed for. -/
def passedOverArming : Arming :=
  ⟨0, ⟨0, some 5⟩, fun _ => true⟩

theorem passedOver_admissible : passedOver.Admissible := by
  refine admissible_of_admits ⟨?_, ?_, ?_, ?_, nofun, nofun, ?_, nofun, ?_, ?_, trivial⟩
  all_goals
    rintro t ht
    cases ht
  · trivial
  · trivial
  · exact ⟨by decide, by decide, nofun⟩
  · exact ⟨by decide, by decide, by decide⟩
  · exact ⟨_, rfl, rfl⟩
  · trivial
  · trivial

theorem passedOver_arms : passedOver.Arms 3 1 passedOverArming :=
  ⟨_, rfl, rfl, rfl⟩

theorem barrier_outcome_passedOver : passedOver.Admissible ∧
    passedOver.Arms 3 1 passedOverArming ∧ passedOver.BarrierOutcome 3 1 passedOverArming ∧
      (passedOver.world 10).barriers.map (·.matched) = [true, false] ∧
        (passedOver.world 10).barrierOutcome 1 = some (.error .deadlineExceeded) :=
  ⟨passedOver_admissible, passedOver_arms, barrier_outcome passedOver_admissible passedOver_arms,
    rfl, rfl⟩

end Staggered

end PagePilot
