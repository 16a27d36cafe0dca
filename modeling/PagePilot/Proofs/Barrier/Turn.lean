import PagePilot.Proofs.Barrier.Grips
import PagePilot.Proofs.Barrier.Staggered
/-!
# PagePilot.Proofs.Barrier.Turn

When a barrier is matched, in a staggered run.

* `Staggered.Turn` is the turn of a listener for an event, in a round or in a delivery at one
  go. By its turn the listener is looked at once more and then called, which is one step;
* `Staggered.Freed` tells that a barrier is released, or that its context is cancelled;
* `Staggered.Sets` is a turn by which a listener is called with an event that its barrier waits
  for. `Staggered.matched_succ` says that nothing else matches a barrier, and
  `Staggered.Sets.unique` that there is one such turn at most.

A deadline ends the wait of a barrier and not its listening, so it is not among what frees it.
-/

namespace PagePilot

open Wire

/-- The listeners of a page that are live. -/
theorem Board.mem_liveAt {b : Board} {page : PageKey} {reg : Registration Handler} :
    reg ∈ b.liveAt page ↔ ∃ l, b.listeners page = some l ∧ reg ∈ l.registrations ∧
      b.scopes.isCancelled reg.scope = false := by
  unfold Board.liveAt Listeners.live
  cases b.listeners page <;> simp

namespace Staggered

variable (r : Staggered)

/-- A barrier is matched. -/
def Matched (k : Nat) (key : BarrierKey) : Prop :=
  ∃ x : Barrier, (r.world k).barriers[key]? = some x ∧ x.matched = true

/-- Nobody has a half of a barrier any more. -/
def Abandoned (k : Nat) (key : BarrierKey) : Prop :=
  ∃ x : Barrier, (r.world k).barriers[key]? = some x ∧ x.abandoned = true

/-- A barrier was released, by a call or because both halves are gone, or its context was
cancelled. -/
def Freed (k : Nat) (key : BarrierKey) (ctx : Context) : Prop :=
  r.Released k key ∨ r.Abandoned k key ∨ r.Cancelled k ctx.scope

/-- An event reaches a page: a round starts, or the event is delivered at one go. -/
inductive Dispatches (s : Nat) (page : PageKey) (event : Event) : Prop
  | start (hbeat : r.beats[s]? = some (.start page event))
  | atOnce {t : Transition} (hbeat : r.beats[s]? = some (.whole t))
      (hdelivered : (r.world s).delivered? t = some (page, event))

/-- It is the turn of a listener at position `d`, for an event that reached the page at `s`. In a
delivery at one go the turns follow each other, and none of them concerns a barrier but its
own, so all are at the same position. -/
inductive Turn (s d : Nat) (page : PageKey) (event : Event) (reg : Registration Handler) : Prop
  | apart {rest : List (Registration Handler)} (hstart : r.beats[s]? = some (.start page event))
      (hsd : s < d) (hturn : r.beats[d]? = some (.turn (r.state s).rounds.length))
      (hround : (r.state d).rounds[(r.state s).rounds.length]? = some ⟨page, event, reg :: rest⟩)
  | atOnce {t : Transition} (hbeat : r.beats[s]? = some (.whole t))
      (hdelivered : (r.world s).delivered? t = some (page, event))
      (hlive : reg ∈ (r.world s).board.liveAt page) (hsd : s = d)

/-- It is the turn of the listener of a barrier. -/
def HasTurn (s d : Nat) (key : BarrierKey) (a : Arming) (event : Event) : Prop :=
  ∃ scope, r.Turn s d a.page event ⟨scope, .barrier key a.wanted⟩

/-- A turn that sets the flag of a barrier: its listener is called, since it is not cancelled by
then, and the event is wanted. -/
structure Sets (s d : Nat) (key : BarrierKey) (a : Arming) (event : Event) : Prop where
  called : ∃ scope, r.Turn s d a.page event ⟨scope, .barrier key a.wanted⟩ ∧
    (r.world d).scopes.isCancelled scope = false
  wanted : a.wanted event = true

/-! ### Rounds -/

/-- A round comes from a start: it is about the event and the page of then, and who waits in it
was a live listener then. -/
structure Began (s n : Nat) (round : Round) : Prop where
  start : r.beats[s]? = some (.start round.page round.event)
  number : (r.state s).rounds.length = n
  waiting : round.waiting <:+ (r.world s).board.liveAt round.page

variable {r} {k m n s s' d d' : Nat} {key : BarrierKey} {a : Arming} {page : PageKey}
  {event event' : Event} {reg : Registration Handler} {round : Round}

/-- Rounds are numbered in the order of their starts. -/
theorem rounds_mono (hmn : m ≤ n) : (r.state m).rounds.length ≤ (r.state n).rounds.length := by
  induction hmn with
  | refl => exact Nat.le_refl _
  | @step k _ ih =>
    refine Nat.le_trans ih ?_
    cases r.passes k with
    | whole t _ _ hrounds => exact Nat.le_of_eq (congrArg List.length hrounds).symm
    | start page event _ _ hrounds => simp [hrounds]
    | turn n page event reg rest _ _ _ hrounds => simp [hrounds]
    | rest _ _ hstate => exact Nat.le_of_eq (by rw [hstate])

theorem rounds_lt (hs : r.beats[s]? = some (.start page event)) (hsk : s < k) :
    (r.state s).rounds.length < (r.state k).rounds.length := by
  refine Nat.lt_of_lt_of_le ?_ (rounds_mono hsk)
  rw [state_succ hs]
  simp [Underway.apply]

/-- Two starts are of two rounds. -/
theorem start_unique (hs : r.beats[s]? = some (.start page event))
    {page' : PageKey} (hs' : r.beats[s']? = some (.start page' event'))
    (h : (r.state s).rounds.length = (r.state s').rounds.length) : s = s' := by
  rcases Nat.lt_trichotomy s s' with hlt | heq | hlt
  · exact absurd h (Nat.ne_of_lt (rounds_lt hs hlt))
  · exact heq
  · exact absurd h (Nat.ne_of_gt (rounds_lt hs' hlt))

theorem round_began (h : (r.state k).rounds[n]? = some round) : ∃ s < k, r.Began s n round := by
  induction k generalizing round with
  | zero => cases h
  | succ k ih =>
    have hbefore : (r.state k).rounds[n]? = some round → ∃ s < k + 1, r.Began s n round := by
      intro h
      obtain ⟨s, hsk, hbegan⟩ := ih h
      exact ⟨s, Nat.lt_succ_of_lt hsk, hbegan⟩
    cases r.passes k with
    | whole t _ _ hrounds => exact hbefore (hrounds ▸ h)
    | rest _ _ hstate => exact hbefore (hstate ▸ h)
    | start page event hbeat _ hrounds =>
      rw [hrounds] at h
      rcases Nat.lt_or_ge n (r.state k).rounds.length with hlt | hge
      · rw [List.getElem?_append_left hlt] at h
        exact hbefore h
      · rw [List.getElem?_append_right hge, List.getElem?_singleton] at h
        split at h
        next hzero =>
          cases h
          exact ⟨k, Nat.lt_succ_self k, hbeat, by omega, List.suffix_refl _⟩
        next => cases h
    | turn n' page event reg rest hbeat hround _ hrounds =>
      rw [hrounds] at h
      by_cases hn : n' = n
      · subst hn
        rw [List.getElem?_set_self (List.getElem?_eq_some_iff.mp hround).1] at h
        cases h
        obtain ⟨s, hsk, hstart, hnumber, hwaiting⟩ := ih hround
        exact ⟨s, Nat.lt_succ_of_lt hsk, hstart, hnumber,
          (List.suffix_cons reg rest).trans hwaiting⟩
      · rw [List.getElem?_set_ne hn] at h
        exact hbefore h

/-! ### Turns -/

theorem Turn.le (h : r.Turn s d page event reg) : s ≤ d := by
  cases h with
  | apart _ hsd => exact Nat.le_of_lt hsd
  | atOnce _ _ _ hsd => exact Nat.le_of_eq hsd

theorem Turn.dispatches (h : r.Turn s d page event reg) : r.Dispatches s page event := by
  cases h with
  | apart hstart => exact .start hstart
  | atOnce hbeat hdelivered => exact .atOnce hbeat hdelivered

/-- Who has a turn was a live listener when the event reached the page. -/
theorem Turn.live (h : r.Turn s d page event reg) : reg ∈ (r.world s).board.liveAt page := by
  cases h with
  | atOnce _ _ hlive => exact hlive
  | apart hstart _ _ hround =>
    obtain ⟨s', -, hstart', hnumber, hwaiting⟩ := round_began hround
    obtain rfl := start_unique hstart hstart' hnumber.symm
    exact hwaiting.subset (List.mem_cons_self ..)

/-- A listener of a barrier that is live was registered when the barrier was armed. -/
theorem armed_of_liveAt (hr : r.Admissible) {scope : ScopeId} {wanted : Event → Bool}
    (h : ⟨scope, .barrier key wanted⟩ ∈ (r.world s).board.liveAt page) :
    ∃ ctx, (r.world s).board.place? key = some (scope, ctx) ∧
      ∃ m < s, r.Arms m key ⟨page, ctx, wanted⟩ := by
  obtain ⟨l, hl, hreg, -⟩ := Board.mem_liveAt.mp h
  exact (sound hr s).registered.known page l _ key wanted hl hreg rfl

/-- The listener of a barrier is live as long as it is not cancelled. -/
theorem Arms.live (hr : r.Admissible) (ha : r.Arms m key a) (hmk : m < k) {scope : ScopeId}
    (hplace : (r.world k).board.place? key = some (scope, a.ctx))
    (hnot : (r.world k).scopes.isCancelled scope = false) :
    ⟨scope, .barrier key a.wanted⟩ ∈ (r.world k).board.liveAt a.page := by
  obtain ⟨l, hl, hreg⟩ := (sound hr k).registered.kept key a scope ⟨m, hmk, ha⟩ hplace hnot
  exact Board.mem_liveAt.mpr ⟨l, hl, hreg, hnot⟩

/-- The turn of a barrier comes after its arming, to the listener of that time. -/
theorem Turn.barrier (hr : r.Admissible) (ha : r.Arms m key a) {scope : ScopeId}
    {wanted : Event → Bool} (h : r.Turn s d page event ⟨scope, .barrier key wanted⟩) :
    m < s ∧ page = a.page ∧ wanted = a.wanted ∧
      ∀ k, s ≤ k → (r.world k).board.place? key = some (scope, a.ctx) := by
  obtain ⟨ctx, hplace, m', hms, ha'⟩ := armed_of_liveAt hr h.live
  obtain ⟨rfl, rfl⟩ := ha.unique hr ha'
  exact ⟨hms, rfl, rfl, fun k hsk => place?_mono hr hsk hplace⟩

theorem HasTurn.le (h : r.HasTurn s d key a event) : s ≤ d := by
  obtain ⟨scope, hturn⟩ := h
  exact hturn.le

theorem HasTurn.armed (hr : r.Admissible) (ha : r.Arms m key a)
    (h : r.HasTurn s d key a event) : m < s := by
  obtain ⟨scope, hturn⟩ := h
  exact (hturn.barrier hr ha).1

/-! ### The match -/

theorem matched_iff_of_barrier {x : Barrier} (hx : (r.world k).barriers[key]? = some x) :
    r.Matched k key ↔ x.matched = true := by
  constructor
  · rintro ⟨y, hy, hmatched⟩
    cases hx.symm.trans hy
    exact hmatched
  · exact fun h => ⟨x, hx, h⟩

theorem abandoned_iff_of_barrier {x : Barrier} (hx : (r.world k).barriers[key]? = some x) :
    r.Abandoned k key ↔ x.abandoned = true := by
  constructor
  · rintro ⟨y, hy, habandoned⟩
    cases hx.symm.trans hy
    exact habandoned
  · exact fun h => ⟨x, hx, h⟩

/-- The listener of a barrier is gone when the barrier is matched or freed. -/
theorem isCancelled_iff (hr : r.Admissible) {scope : ScopeId} {ctx : Context}
    (hplace : (r.world k).board.place? key = some (scope, ctx)) :
    (r.world k).scopes.isCancelled scope = true ↔ r.Matched k key ∨ r.Freed k key ctx := by
  obtain ⟨x, hx, rfl, rfl⟩ := World.barrier_of_place? hplace
  unfold Freed
  rw [isCancelled_barrier hr hx, matched_iff_of_barrier hx, abandoned_iff_of_barrier hx]

theorem not_isCancelled_iff (hr : r.Admissible) {scope : ScopeId} {ctx : Context}
    (hplace : (r.world k).board.place? key = some (scope, ctx)) :
    (r.world k).scopes.isCancelled scope = false ↔
      ¬ r.Matched k key ∧ ¬ r.Freed k key ctx := by
  rw [← not_or, ← isCancelled_iff hr hplace, Bool.not_eq_true]

theorem Sets.hasTurn (h : r.Sets s d key a event) : r.HasTurn s d key a event := by
  obtain ⟨scope, hturn, -⟩ := h.called
  exact ⟨scope, hturn⟩

/-- The listener that is called belongs to a barrier that is neither matched nor freed. -/
theorem Sets.waiting (hr : r.Admissible) (ha : r.Arms m key a) (h : r.Sets s d key a event) :
    ¬ r.Matched d key ∧ ¬ r.Freed d key a.ctx := by
  obtain ⟨scope, hturn, hlive⟩ := h.called
  obtain ⟨-, -, -, hplace⟩ := hturn.barrier hr ha
  exact (not_isCancelled_iff hr (hplace d hturn.le)).mp hlive

theorem HasTurn.sets (hr : r.Admissible) (ha : r.Arms m key a) (h : r.HasTurn s d key a event)
    (hwanted : a.wanted event = true) (hunmatched : ¬ r.Matched d key)
    (hunfreed : ¬ r.Freed d key a.ctx) : r.Sets s d key a event := by
  obtain ⟨scope, hturn⟩ := h
  obtain ⟨-, -, -, hplace⟩ := hturn.barrier hr ha
  exact ⟨⟨scope, hturn, (not_isCancelled_iff hr (hplace d hturn.le)).mpr ⟨hunmatched, hunfreed⟩⟩,
    hwanted⟩

/-- A transition matches a barrier when it delivers a wanted event to its listener. -/
theorem matched_succ_of_whole (hr : r.Admissible) (ha : r.Arms m key a) (hmk : m < k)
    {t : Transition} (hbeat : r.beats[k]? = some (.whole t)) :
    r.Matched (k + 1) key ↔ r.Matched k key ∨ ∃ s event, r.Sets s k key a event := by
  have hsound := sound hr k
  obtain ⟨scope, hplace⟩ := ha.place hr hmk
  obtain ⟨x, hx, -, -⟩ := World.barrier_of_place? hplace
  obtain ⟨x', hx', f, matched, -, rfl, hiff⟩ := hsound.barrier (t := t) hx
  rw [← world_succ hbeat] at hx'
  rw [matched_iff_of_barrier hx', matched_iff_of_barrier hx]
  refine hiff.trans (or_congr_right ?_)
  -- The listener of the barrier is where it was armed, so it hears this page only.
  have hhits : ∀ page event, (r.world k).board.Hits page event key ↔ page = a.page ∧
      a.wanted event = true ∧ (r.world k).scopes.isCancelled scope = false :=
    fun page event => hsound.registered.hits_iff ⟨m, hmk, ha⟩
      (fun a' ⟨m', _, ha'⟩ => (ha.unique hr ha').2.symm) hplace
  constructor
  · rintro ⟨page, event, hdelivered, hhit⟩
    obtain ⟨rfl, hwanted, hlive⟩ := (hhits page event).mp hhit
    have hturn := Turn.atOnce hbeat hdelivered (ha.live hr hmk hplace hlive) rfl
    exact ⟨k, event, ⟨scope, hturn, hlive⟩, hwanted⟩
  · rintro ⟨s, event, ⟨scope', hturn, hlive⟩, hwanted⟩
    obtain ⟨-, -, -, hplace'⟩ := hturn.barrier hr ha
    cases hplace.symm.trans (hplace' k hturn.le)
    cases hturn with
    | apart _ _ hturn => cases hbeat.symm.trans hturn
    | atOnce hbeat' hdelivered _ hsd =>
      subst hsd
      cases hbeat.symm.trans hbeat'
      exact ⟨a.page, event, hdelivered, (hhits _ _).mpr ⟨rfl, hwanted, hlive⟩⟩

/-- A turn in a round matches the barrier of the listener whose turn it is. -/
theorem matched_succ_of_turn (hr : r.Admissible) (ha : r.Arms m key a) (hmk : m < k)
    {rest : List (Registration Handler)} (hbeat : r.beats[k]? = some (.turn n))
    (hround : (r.state k).rounds[n]? = some ⟨page, event, reg :: rest⟩)
    (hworld : r.world (k + 1) = (r.world k).giveTurn page event reg) :
    r.Matched (k + 1) key ↔ r.Matched k key ∨ ∃ s event, r.Sets s k key a event := by
  obtain ⟨scope, hplace⟩ := ha.place hr hmk
  obtain ⟨x, hx, -, -⟩ := World.barrier_of_place? hplace
  obtain ⟨matched, hx', hiff⟩ :=
    (World.giveTurn_matches (sound hr k).tidy page event reg).barrier key x hx
  rw [← hworld] at hx'
  rw [matched_iff_of_barrier hx', matched_iff_of_barrier hx]
  refine hiff.trans (or_congr_right ?_)
  constructor
  · rintro ⟨hlive, wanted, hhandler, hwanted⟩
    obtain ⟨s, hsk, hstart, rfl, -⟩ := round_began hround
    obtain ⟨scope', handler⟩ := reg
    cases hhandler
    have hturn := Turn.apart hstart hsk hbeat hround
    obtain ⟨-, rfl, rfl, -⟩ := hturn.barrier hr ha
    exact ⟨s, event, ⟨scope', hturn, hlive⟩, hwanted⟩
  · rintro ⟨s, event', ⟨scope', hturn, hlive⟩, hwanted⟩
    cases hturn with
    | apart _ _ hturn hround' =>
      cases hbeat.symm.trans hturn
      cases hround.symm.trans hround'
      exact ⟨hlive, a.wanted, rfl, hwanted⟩
    | atOnce hbeat' _ _ hsd => cases hbeat.symm.trans (hsd ▸ hbeat')

/-- One beat matches a barrier if it is a turn that does, and no other way. -/
theorem matched_succ (hr : r.Admissible) (ha : r.Arms m key a) (hmk : m < k) :
    r.Matched (k + 1) key ↔ r.Matched k key ∨ ∃ s event, r.Sets s k key a event := by
  -- Without a turn, nothing becomes of the barriers.
  have hquiet : (r.world (k + 1)).barriers = (r.world k).barriers →
      (∀ s event, ¬ r.HasTurn s k key a event) →
        (r.Matched (k + 1) key ↔ r.Matched k key ∨ ∃ s event, r.Sets s k key a event) := by
    intro hbarriers hno
    unfold Matched
    rw [hbarriers]
    exact (or_iff_left fun ⟨s, event, hsets⟩ => hno s event hsets.hasTurn).symm
  cases r.passes k with
  | whole t hbeat => exact matched_succ_of_whole hr ha hmk hbeat
  | turn n page event reg rest hbeat hround hworld =>
    exact matched_succ_of_turn hr ha hmk hbeat hround hworld
  | start page event hbeat hworld =>
    refine hquiet ?_ ?_
    · rw [hworld]
      exact congrArg Board.barriers (World.opening_board (r.world k) page event)
    · rintro s event' ⟨scope, hturn⟩
      cases hturn with
      | apart _ _ hturn => cases hbeat.symm.trans hturn
      | atOnce hbeat' _ _ hsd => cases hbeat.symm.trans (hsd ▸ hbeat')
  | rest hnone hover hstate =>
    refine hquiet (congrArg (fun u : Underway => u.world.barriers) hstate) ?_
    rintro s event' ⟨scope, hturn⟩
    cases hturn with
    | apart _ _ hturn hround => cases hover _ _ hturn hround
    | atOnce hbeat' _ _ hsd => exact hnone _ (hsd ▸ hbeat')

/-- A barrier is not matched at first. -/
theorem not_matched_of_arms (ha : r.Arms m key a) : ¬ r.Matched (m + 1) key := by
  obtain ⟨t, ht, harming, -⟩ := ha
  obtain ⟨x, -, hx, hmatched, -⟩ := World.barrier_of_arming harming
  rw [← world_succ ht] at hx
  rw [matched_iff_of_barrier hx, hmatched]
  exact Bool.false_ne_true

/-- A barrier is matched when a turn has matched it. -/
theorem matched_iff_sets (hr : r.Admissible) (ha : r.Arms m key a) (hmk : m < k) :
    r.Matched k key ↔ ∃ s d event, d < k ∧ r.Sets s d key a event := by
  induction hmk with
  | refl =>
    refine iff_of_false (not_matched_of_arms ha) ?_
    rintro ⟨s, d, event, hdm, hsets⟩
    have hms := hsets.hasTurn.armed hr ha
    have hsd := hsets.hasTurn.le
    omega
  | @step k hmk ih =>
    rw [matched_succ hr ha hmk, ih]
    constructor
    · rintro (⟨s, d, event, hdk, hsets⟩ | ⟨s, event, hsets⟩)
      · exact ⟨s, d, event, Nat.lt_succ_of_lt hdk, hsets⟩
      · exact ⟨s, k, event, Nat.lt_succ_self k, hsets⟩
    · rintro ⟨s, d, event, hdk, hsets⟩
      rcases Nat.lt_succ_iff_lt_or_eq.mp hdk with hlt | rfl
      · exact .inl ⟨s, d, event, hlt, hsets⟩
      · exact .inr ⟨s, event, hsets⟩

/-- A match stays. -/
theorem Matched.mono (hr : r.Admissible) (ha : r.Arms m key a) (hmk : m < k) (hkn : k ≤ n)
    (h : r.Matched k key) : r.Matched n key := by
  obtain ⟨s, d, event, hdk, hsets⟩ := (matched_iff_sets hr ha hmk).mp h
  exact (matched_iff_sets hr ha (Nat.lt_of_lt_of_le hmk hkn)).mpr
    ⟨s, d, event, Nat.lt_of_lt_of_le hdk hkn, hsets⟩

/-- Two turns are not taken at once. -/
theorem Turn.unique {page' : PageKey} {reg' : Registration Handler}
    (h : r.Turn s d page event reg) (h' : r.Turn s' d page' event' reg') :
    s = s' ∧ event = event' := by
  cases h with
  | apart hstart _ hturn hround =>
    cases h' with
    | apart hstart' _ hturn' hround' =>
      have hnumber := Beat.turn.inj (Option.some.inj (hturn.symm.trans hturn'))
      rw [← hnumber] at hround'
      cases hround.symm.trans hround'
      exact ⟨start_unique hstart hstart' hnumber, rfl⟩
    | atOnce hbeat _ _ hsd =>
      subst hsd
      cases hturn.symm.trans hbeat
  | atOnce hbeat hdelivered _ hsd =>
    subst hsd
    cases h' with
    | apart _ _ hturn => cases hturn.symm.trans hbeat
    | atOnce hbeat' hdelivered' _ hsd' =>
      subst hsd'
      cases hbeat.symm.trans hbeat'
      cases hdelivered.symm.trans hdelivered'
      exact ⟨rfl, rfl⟩

/-- No turn matches a barrier after another one. -/
theorem Sets.not_later (hr : r.Admissible) (ha : r.Arms m key a)
    (h : r.Sets s d key a event) (h' : r.Sets s' d' key a event') : ¬ d < d' := by
  intro hlt
  have hmd : m < d := Nat.lt_of_lt_of_le (h.hasTurn.armed hr ha) h.hasTurn.le
  have hmatched := (matched_succ hr ha hmd).mpr (.inr ⟨s, event, h⟩)
  exact (h'.waiting hr ha).1 (hmatched.mono hr ha (Nat.lt_succ_of_lt hmd) hlt)

/-- A barrier is matched by one event, in one turn. -/
theorem Sets.unique (hr : r.Admissible) (ha : r.Arms m key a)
    (h : r.Sets s d key a event) (h' : r.Sets s' d' key a event') :
    s = s' ∧ d = d' ∧ event = event' := by
  obtain rfl : d = d' :=
    Nat.le_antisymm (Nat.not_lt.mp (h'.not_later hr ha h)) (Nat.not_lt.mp (h.not_later hr ha h'))
  obtain ⟨scope, hturn, -⟩ := h.called
  obtain ⟨scope', hturn', -⟩ := h'.called
  obtain ⟨hs, hevent⟩ := hturn.unique hturn'
  exact ⟨hs, rfl, hevent⟩

/-- A barrier is matched when an event that it waits for has reached the page after the arming,
and the turn of the listener has come before the barrier was freed. -/
theorem matched_iff (hr : r.Admissible) (ha : r.Arms m key a) (hmk : m < k) :
    r.Matched k key ↔ ∃ s d event, m < s ∧ d < k ∧ r.Dispatches s a.page event ∧
      r.HasTurn s d key a event ∧ a.wanted event = true ∧ ¬ r.Freed d key a.ctx := by
  constructor
  · intro h
    obtain ⟨s, d, event, hdk, hsets⟩ := (matched_iff_sets hr ha hmk).mp h
    obtain ⟨scope, hturn, -⟩ := hsets.called
    exact ⟨s, d, event, hsets.hasTurn.armed hr ha, hdk, hturn.dispatches, hsets.hasTurn,
      hsets.wanted, (hsets.waiting hr ha).2⟩
  · rintro ⟨s, d, event, hms, hdk, -, hturn, hwanted, hunfreed⟩
    by_cases hmatched : r.Matched d key
    · exact hmatched.mono hr ha (Nat.lt_of_lt_of_le hms hturn.le) (Nat.le_of_lt hdk)
    · exact (matched_iff_sets hr ha hmk).mpr
        ⟨s, d, event, hdk, hturn.sets hr ha hwanted hmatched hunfreed⟩

/-- A barrier that is freed first is never matched. -/
theorem not_matched_of_freed (hr : r.Admissible) (ha : r.Arms m key a) {c : Nat} (hmc : m < c)
    (hck : c ≤ k) (hfreed : r.Freed c key a.ctx) (hnot : ¬ r.Matched c key) :
    ¬ r.Matched k key := by
  intro h
  obtain ⟨s, d, event, hdk, hsets⟩ :=
    (matched_iff_sets hr ha (Nat.lt_of_lt_of_le hmc hck)).mp h
  rcases Nat.lt_or_ge d c with hdc | hcd
  · exact hnot ((matched_iff_sets hr ha hmc).mpr ⟨s, d, event, hdc, hsets⟩)
  · -- The listener is gone since the barrier was freed.
    obtain ⟨scope, hplace⟩ := ha.place hr hmc
    have hgone := isCancelled_mono hr hcd ((isCancelled_iff hr hplace).mpr (.inr hfreed))
    obtain ⟨hunmatched, hunfreed⟩ := hsets.waiting hr ha
    rcases (isCancelled_iff hr (place?_mono hr hcd hplace)).mp hgone with hmatched | hfreed
    · exact hunmatched hmatched
    · exact hunfreed hfreed

end Staggered

end PagePilot
