import PagePilot.Proofs.Barrier.Outcome
import PagePilot.Proofs.Positions
/-!
# PagePilot.Proofs.Barrier.Alone

A barrier by itself. Of what happens in a staggered run a barrier notices a few things only:
the clock, the events that its listener may be called with, its release, and the end of its
context (`Staggered.sight?`). What becomes of it is computed from these by `Alone.see`, which
knows of no other barrier, of no other listener and of no round.

Each thing that is known of a barrier has a lemma that says what one beat makes of it, the
match by `Staggered.matched_succ`. They are put together in `Staggered.shown_succ`, and for
a whole run in `Staggered.shown_eq`.
-/

namespace PagePilot

open Wire

/-! ### What a barrier notices -/

/-- What a barrier notices of a beat. -/
inductive Sight
  /-- Time passes. -/
  | tick (duration : Nat)
  /-- Those who wait are told what time it is. -/
  | serve
  /-- Its listener has its turn in a round. -/
  | turn (event : Event)
  /-- An event is delivered on its page at one go. -/
  | delivered (event : Event)
  /-- It is released, by a call or because both its halves are gone. -/
  | freed
  /-- Its context is cancelled. -/
  | cut

/-- The event that the listener may be called with. -/
def Sight.event? : Sight → Option Event
  | .turn event | .delivered event => some event
  | _ => none

/-- What is known of a barrier. -/
@[ext]
structure Alone where
  now : Nat
  served : Nat
  matched : Bool
  /-- Whether its context is cancelled. -/
  cut : Bool
  /-- Whether its listener is gone. -/
  gone : Bool

namespace Alone

/-- A barrier that was armed just now. -/
def armed (now served : Nat) (cut : Bool) : Alone :=
  { now, served, matched := false, cut, gone := cut }

/-- What becomes of a barrier by what it notices. -/
def see (wanted : Event → Bool) (b : Alone) : Sight → Alone
  | .tick duration => { b with now := b.now + duration }
  | .serve => { b with served := b.now }
  | .turn event | .delivered event =>
      { b with matched := b.matched || (wanted event && !b.gone), gone := b.gone || wanted event }
  | .freed => { b with gone := true }
  | .cut => { b with cut := true, gone := true }

/-- What someone learns who waits for it. -/
def outcome (deadline : Option Nat) (b : Alone) : Option (Except Error Unit) :=
  if b.matched then some (.ok ())
  else if b.cut then some (.error .cancelled)
  else if Context.passed deadline b.served then some (.error .deadlineExceeded)
  else none

end Alone

/-- Who has no half of a barrier has nothing to let go of. -/
theorem Barrier.dropHalves_eq_self {x : Barrier} {holder : Holder}
    (hw : x.waitHolder ≠ some holder) (hr : x.releaseHolder ≠ some holder) :
    x.dropHalves holder = x := by
  have hkeep : ∀ half : Option Holder, half ≠ some holder → half.filter (· ≠ holder) = half := by
    intro half hne
    cases half with
    | none => rfl
    | some other => exact if_pos (by simpa using hne)
  unfold dropHalves
  rw [hkeep _ hw, hkeep _ hr]

namespace World

/-- What is known of a barrier in a world. -/
def alone (w : World) (key : BarrierKey) (ctx : Context) : Alone where
  now := w.now
  served := w.served
  matched := w.barriers[key]?.any (·.matched)
  cut := w.scopes.isCancelled ctx.scope
  gone := w.barriers[key]?.any fun x => w.scopes.isCancelled x.scope

/-- Whether nobody has a half of a barrier any more. -/
def isAbandoned (w : World) (key : BarrierKey) : Bool :=
  w.barriers[key]?.any Barrier.abandoned

/-- What a barrier notices of a transition. -/
def sight? (w : World) (key : BarrierKey) (a : Arming) (t : Transition) : Option Sight :=
  match t with
  | .tick duration => some (.tick duration)
  | .serve => some .serve
  | .release key' => if key' = key then some .freed else none
  | .cancel scope =>
      if !w.scopes.isCancelled a.ctx.scope && (w.scopes.cancel scope).isCancelled a.ctx.scope then
        some .cut
      else none
  | t =>
      match w.delivered? t with
      | some (page, event) => if page = a.page then some (.delivered event) else none
      | none => if !w.isAbandoned key && (w.apply t).isAbandoned key then some .freed else none

variable {w : World} {key : BarrierKey} {a : Arming} {t : Transition}

theorem barrierOutcome_eq_alone {x : Barrier} (hx : w.barriers[key]? = some x) :
    w.barrierOutcome key = (w.alone key x.ctx).outcome x.ctx.deadline := by
  unfold barrierOutcome Alone.outcome toldEndOf Context.errorAt
  simp only [alone, hx, Option.any_some]
  split
  · rfl
  · split
    · rfl
    · split <;> rfl

theorem sight?_eq_delivered {event : Event} :
    w.sight? key a t = some (.delivered event) ↔ w.delivered? t = some (a.page, event) := by
  unfold sight?
  split
  case h_5 =>
    split
    next hd =>
      rw [hd]
      grind
    next hd => simp [hd]
  all_goals simp [delivered?]

theorem sight?_eq_tick {duration : Nat} :
    w.sight? key a t = some (.tick duration) ↔ t = .tick duration := by
  unfold sight?
  grind

theorem sight?_eq_serve : w.sight? key a t = some .serve ↔ t = .serve := by
  unfold sight?
  grind

theorem sight?_ne_turn (event : Event) : w.sight? key a t ≠ some (.turn event) := by
  unfold sight?
  grind

/-- Nobody has a half of a barrier any more after somebody has let go of one. -/
theorem Sound.lets_go {armed : BarrierKey → Arming → Prop} {released : BarrierKey → Prop}
    {cancelled : ScopeId → Prop} (h : w.Sound armed released cancelled) {x : Barrier}
    (hx : w.barriers[key]? = some x) (hbefore : w.isAbandoned key = false)
    (hafter : (w.apply t).isAbandoned key = true) :
    (∃ f, w.Loosens t key f) ∨ ∃ task, w.Retires t task ∧
      (x.waitHolder = some (.task task) ∨ x.releaseHolder = some (.task task)) := by
  obtain ⟨x', hx', f, m, hgrips, rfl, -⟩ := h.barrier (t := t) hx
  simp only [isAbandoned, hx, hx', Option.any_some] at hbefore hafter
  change (f x).abandoned = true at hafter
  cases hgrips with
  | keep => exact absurd (hbefore.symm.trans hafter) Bool.false_ne_true
  | give task => simp [Barrier.abandoned] at hafter
  | loosen hl => exact .inl ⟨f, hl⟩
  | @retire task hp =>
    refine .inr ⟨task, hp, ?_⟩
    rcases Decidable.em (x.waitHolder = some (.task task)) with hw | hw
    · exact .inl hw
    · refine .inr (Decidable.not_not.mp fun hr => ?_)
      have hkeep : (x.dropHalves (.task task)).abandoned = x.abandoned :=
        congrArg Barrier.abandoned (Barrier.dropHalves_eq_self hw hr)
      exact Bool.false_ne_true (hbefore.symm.trans (hkeep.symm.trans hafter))

theorem sight?_eq_freed {armed : BarrierKey → Arming → Prop} {released : BarrierKey → Prop}
    {cancelled : ScopeId → Prop} (h : w.Sound armed released cancelled) {x : Barrier}
    (hx : w.barriers[key]? = some x) : w.sight? key a t = some .freed ↔ t = .release key ∨
      (w.isAbandoned key = false ∧ (w.apply t).isAbandoned key = true) := by
  unfold sight?
  split
  case h_5 hrelease _ =>
    split
    next p event hd =>
      -- While an event is delivered nobody lets go of anything.
      have hnot : ¬ (w.isAbandoned key = false ∧ (w.apply t).isAbandoned key = true) := by
        rintro ⟨hbefore, hafter⟩
        rcases h.lets_go hx hbefore hafter with ⟨f, hl⟩ | ⟨task, hp, -⟩
        · exact Option.some_ne_none _ (hd.symm.trans hl.plain.delivered)
        · exact Option.some_ne_none _ (hd.symm.trans hp.plain.delivered)
      grind
    next hd => grind
  case h_3 key' =>
    have hsame : (w.apply (.release key')).isAbandoned key = w.isAbandoned key :=
      congrArg (fun bs : List Barrier => bs[key]?.any Barrier.abandoned) (release_barriers w key')
    grind
  all_goals simp [apply, isAbandoned, cancel]

/-- A context is cancelled by a cancellation, and by nothing else. -/
theorem Sound.isCancelled_apply {armed : BarrierKey → Arming → Prop}
    {released : BarrierKey → Prop} {cancelled : ScopeId → Prop}
    (h : w.Sound armed released cancelled) {scope : ScopeId} (hscope : w.board.IsContext scope)
    (ht : ∀ c, t ≠ .cancel c) : (w.apply t).scopes.isCancelled scope = w.scopes.isCancelled scope := by
  obtain ⟨w₀, w₁, h₀, hstep, h₁⟩ := (apply_board w t).step
  have htidy := h.tidy
  have hregistered := h.registered
  rw [← h₀] at htidy hregistered hscope
  have hscopes₀ : w₀.scopes = w.scopes := congrArg Board.scopes h₀
  have hscopes₁ : (w.apply t).scopes = w₁.scopes := congrArg Board.scopes h₁
  rw [hscopes₁, ← hscopes₀]
  cases hstep with
  | rest | openPage | give | listen => rfl
  | newScope parent =>
    cases parent with
    | none => exact Scopes.isCancelled_addRoot
    | some p => exact Scopes.isCancelled_addChild hscope.1
  | cancel c heq => exact absurd heq (ht c)
  | arm => exact Scopes.isCancelled_addChild hscope.1
  | release key => exact (release_frees htidy key).isCancelled_context hscope
  | loosen hl => exact (regrip_frees htidy _ hl.place).isCancelled_context hscope
  | retire => exact (dropHoldings_frees htidy _).isCancelled_context hscope
  | deliver =>
    exact (deliver_matches htidy _ _ fun l hl => hregistered.place hl).1.isCancelled_context hscope

theorem sight?_eq_cut {armed : BarrierKey → Arming → Prop} {released : BarrierKey → Prop}
    {cancelled : ScopeId → Prop} (h : w.Sound armed released cancelled)
    (hscope : w.board.IsContext a.ctx.scope) : w.sight? key a t = some .cut ↔
      w.scopes.isCancelled a.ctx.scope = false ∧
        (w.apply t).scopes.isCancelled a.ctx.scope = true := by
  by_cases hcancel : ∃ c, t = .cancel c
  · obtain ⟨c, rfl⟩ := hcancel
    simp [sight?, apply, cancel]
  · rw [h.isCancelled_apply hscope fun c heq => hcancel ⟨c, heq⟩]
    unfold sight?
    grind

end World

/-! ### What a beat makes of a barrier -/

namespace Staggered

variable (r : Staggered)

/-- What a barrier notices of a beat. -/
def sight? (key : BarrierKey) (a : Arming) (k : Nat) : Option Sight :=
  match r.beats[k]? with
  | some (.whole t) => (r.world k).sight? key a t
  | some (.turn n) =>
      match (r.state k).rounds[n]? with
      | some ⟨_, event, reg :: _⟩ =>
          if reg.handler.key? = some key then some (.turn event) else none
      | _ => none
  | _ => none

/-- What a barrier notices between its arming and a position. -/
def account (m : Nat) (key : BarrierKey) (a : Arming) (k : Nat) : List Sight :=
  (List.range k).filterMap fun i => if m < i then r.sight? key a i else none

/-- What is known of a barrier at a position. -/
def shown (key : BarrierKey) (a : Arming) (k : Nat) : Alone :=
  (r.world k).alone key a.ctx

variable {r} {k m : Nat} {key : BarrierKey} {a : Arming} {event : Event}

theorem account_succ (hmk : m < k) :
    r.account m key a (k + 1) = r.account m key a k ++ (r.sight? key a k).toList := by
  unfold account
  rw [filterMap_range_succ, if_pos hmk]

theorem account_armed : r.account m key a (m + 1) = [] :=
  List.filterMap_eq_nil_iff.mpr fun _ hi =>
    if_neg (Nat.not_lt.mpr (Nat.le_of_lt_succ (List.mem_range.mp hi)))

theorem sight?_of_whole {t : Transition} (hbeat : r.beats[k]? = some (.whole t)) :
    r.sight? key a k = (r.world k).sight? key a t := by
  simp only [sight?, hbeat]

theorem sight?_of_turn {n : Nat} {page : PageKey} {reg : Registration Handler}
    {rest : List (Registration Handler)} (hbeat : r.beats[k]? = some (.turn n))
    (hround : (r.state k).rounds[n]? = some ⟨page, event, reg :: rest⟩) :
    r.sight? key a k = if reg.handler.key? = some key then some (.turn event) else none := by
  simp only [sight?, hbeat, hround]

theorem sight?_of_start {page : PageKey} (hbeat : r.beats[k]? = some (.start page event)) :
    r.sight? key a k = none := by
  simp only [sight?, hbeat]

theorem sight?_of_rest (hnone : ∀ t, r.beats[k]? ≠ some (.whole t))
    (hover : ∀ n round, r.beats[k]? = some (.turn n) → (r.state k).rounds[n]? = some round →
      round.waiting = []) : r.sight? key a k = none := by
  unfold sight?
  split
  next t hbeat => exact absurd hbeat (hnone t)
  next n hbeat =>
    split
    next hround => cases hover n _ hbeat hround
    next => rfl
  next => rfl

/-! ### What is known, and the history -/

theorem matched_shown_iff : (r.shown key a k).matched = true ↔ r.Matched k key :=
  Option.any_eq_true ..

theorem gone_shown {scope : ScopeId} (hplace : (r.world k).board.place? key = some (scope, a.ctx)) :
    (r.shown key a k).gone = (r.world k).scopes.isCancelled scope := by
  obtain ⟨x, hx, rfl, -⟩ := World.barrier_of_place? hplace
  simp [shown, World.alone, hx]

/-- The listener is gone when the barrier is matched or freed. -/
theorem gone_shown_iff (hr : r.Admissible) (ha : r.Arms m key a) (hmk : m < k) :
    (r.shown key a k).gone = true ↔ r.Matched k key ∨ r.Freed k key a.ctx := by
  obtain ⟨scope, hplace⟩ := ha.place hr hmk
  rw [gone_shown hplace]
  exact isCancelled_iff hr hplace

theorem cut_shown_iff (hr : r.Admissible) (ha : r.Arms m key a) (hmk : m < k) :
    (r.shown key a k).cut = true ↔ r.Cancelled k a.ctx.scope := by
  obtain ⟨scope, hplace⟩ := ha.place hr hmk
  exact isCancelled_context hr ((sound hr k).tidy.isContext hplace)

/-- The listener is called with an event that the barrier wants. -/
theorem sets_iff (hr : r.Admissible) (ha : r.Arms m key a) (hmk : m < k) :
    (∃ s, r.Sets s k key a event) ↔
      (∃ sight, r.sight? key a k = some sight ∧ sight.event? = some event) ∧
        a.wanted event = true ∧ (r.shown key a k).gone = false := by
  constructor
  · rintro ⟨s, ⟨scope, hturn, hlive⟩, hwanted⟩
    obtain ⟨-, -, -, hplace⟩ := hturn.barrier hr ha
    refine ⟨?_, hwanted, (gone_shown (hplace k hturn.le)).trans hlive⟩
    cases hturn with
    | apart _ _ hturn hround =>
      exact ⟨.turn event, (sight?_of_turn hturn hround).trans (if_pos rfl), rfl⟩
    | atOnce hbeat hdelivered _ hsd =>
      subst hsd
      exact ⟨.delivered event,
        (sight?_of_whole hbeat).trans (World.sight?_eq_delivered.mpr hdelivered), rfl⟩
  · rintro ⟨⟨sight, hsight, hevent⟩, hwanted, hlive⟩
    obtain ⟨scope, hplace⟩ := ha.place hr hmk
    rw [gone_shown hplace] at hlive
    cases r.passes k with
    | whole t hbeat =>
      rw [sight?_of_whole hbeat] at hsight
      cases sight with
      | delivered e =>
        cases hevent
        have hdelivered := World.sight?_eq_delivered.mp hsight
        exact ⟨k, ⟨scope, .atOnce hbeat hdelivered (ha.live hr hmk hplace hlive) rfl, hlive⟩, hwanted⟩
      | turn e => exact absurd hsight (World.sight?_ne_turn e)
      | tick | serve | freed | cut => cases hevent
    | turn n page event' reg rest hbeat hround =>
      rw [sight?_of_turn hbeat hround] at hsight
      split at hsight
      next hkey =>
        cases hsight
        cases hevent
        obtain ⟨s, hsk, hstart, rfl, -⟩ := round_began hround
        obtain ⟨scope', handler⟩ := reg
        cases handler with
        | recorder => cases hkey
        | barrier key' wanted =>
          cases hkey
          have hturn := Turn.apart hstart hsk hbeat hround
          obtain ⟨-, rfl, rfl, hplace'⟩ := hturn.barrier hr ha
          cases hplace.symm.trans (hplace' k (Nat.le_of_lt hsk))
          exact ⟨s, ⟨scope, hturn, hlive⟩, hwanted⟩
      next => cases hsight
    | start page event' hbeat => cases (sight?_of_start hbeat).symm.trans hsight
    | rest hnone hover => cases (sight?_of_rest hnone hover).symm.trans hsight

/-! ### One beat -/

/-- What happens in a round is no transition: it may match barriers, and nothing else. -/
theorem matches_of_not_whole (hr : r.Admissible) (hnone : ∀ t, r.beats[k]? ≠ some (.whole t)) :
    (∃ hit, (r.world k).board.Matches (r.world (k + 1)).board hit) ∧
      (r.world k).Aside (r.world (k + 1)) := by
  have htidy := (sound hr k).tidy
  cases r.passes k with
  | whole t hbeat => exact absurd hbeat (hnone t)
  | start page event _ hworld =>
    rw [hworld]
    refine ⟨⟨_, { World.opening_frees htidy page event with barrier := ?_ }⟩, World.opening_aside ..⟩
    intro key x hx
    rw [World.opening_board]
    exact ⟨x.matched, hx, by simp⟩
  | turn n page event reg rest _ _ hworld =>
    rw [hworld]
    exact ⟨⟨_, World.giveTurn_matches htidy page event reg⟩, World.giveTurn_aside ..⟩
  | rest _ _ hstate =>
    rw [show r.world (k + 1) = r.world k from congrArg Underway.world hstate]
    exact ⟨⟨_, .refl htidy⟩, .refl _⟩

theorem sight?_of_not_whole (hnone : ∀ t, r.beats[k]? ≠ some (.whole t)) (key : BarrierKey)
    (a : Arming) : r.sight? key a k = none ∨ ∃ event, r.sight? key a k = some (.turn event) := by
  unfold sight?
  grind

theorem freed_iff (hr : r.Admissible) (ha : r.Arms m key a) (hmk : m < k) :
    r.sight? key a k = some .freed ↔ r.beats[k]? = some (.whole (.release key)) ∨
      (¬ r.Abandoned k key ∧ r.Abandoned (k + 1) key) := by
  obtain ⟨scope, hplace⟩ := ha.place hr hmk
  obtain ⟨x, hx, -, -⟩ := World.barrier_of_place? hplace
  have habandoned : ∀ l, r.Abandoned l key ↔ (r.world l).isAbandoned key = true :=
    fun l => (Option.any_eq_true ..).symm
  rw [habandoned, habandoned, Bool.not_eq_true]
  by_cases hwhole : ∃ t, r.beats[k]? = some (.whole t)
  · obtain ⟨t, hbeat⟩ := hwhole
    rw [sight?_of_whole hbeat, world_succ hbeat, World.sight?_eq_freed (sound hr k) hx, hbeat]
    simp
  · have hnone := fun t ht => hwhole ⟨t, ht⟩
    obtain ⟨⟨hit, hmatches⟩, -⟩ := matches_of_not_whole hr hnone
    obtain ⟨m', hx', -⟩ := hmatches.barrier key x hx
    have hsame : (r.world (k + 1)).isAbandoned key = (r.world k).isAbandoned key := by
      have hx' : (r.world (k + 1)).barriers[key]? = _ := hx'
      simp only [World.isAbandoned, hx, hx', Option.any_some]
      rfl
    have hsight := sight?_of_not_whole hnone key a
    grind

theorem cut_iff (hr : r.Admissible) (ha : r.Arms m key a) (hmk : m < k) :
    r.sight? key a k = some .cut ↔
      (r.shown key a k).cut = false ∧ (r.shown key a (k + 1)).cut = true := by
  obtain ⟨scope, hplace⟩ := ha.place hr hmk
  have hscope := (sound hr k).tidy.isContext hplace
  by_cases hwhole : ∃ t, r.beats[k]? = some (.whole t)
  · obtain ⟨t, hbeat⟩ := hwhole
    rw [sight?_of_whole hbeat, World.sight?_eq_cut (sound hr k) hscope]
    simp only [shown, world_succ hbeat]
    rfl
  · have hnone := fun t ht => hwhole ⟨t, ht⟩
    obtain ⟨⟨hit, hmatches⟩, -⟩ := matches_of_not_whole hr hnone
    have hsame : (r.shown key a (k + 1)).cut = (r.shown key a k).cut :=
      hmatches.isCancelled_context hscope
    have hsight := sight?_of_not_whole hnone key a
    grind

theorem matched_shown_succ (hr : r.Admissible) (ha : r.Arms m key a) (hmk : m < k) :
    (r.shown key a (k + 1)).matched = true ↔ (r.shown key a k).matched = true ∨
      ∃ event, (∃ sight, r.sight? key a k = some sight ∧ sight.event? = some event) ∧
        a.wanted event = true ∧ (r.shown key a k).gone = false := by
  rw [matched_shown_iff, matched_shown_iff, matched_succ hr ha hmk, exists_comm]
  simp only [sets_iff hr ha hmk]

theorem cut_shown_succ (hr : r.Admissible) (ha : r.Arms m key a) (hmk : m < k) :
    (r.shown key a (k + 1)).cut = true ↔
      (r.shown key a k).cut = true ∨ r.sight? key a k = some .cut := by
  have hmono : (r.shown key a k).cut = true → (r.shown key a (k + 1)).cut = true :=
    isCancelled_mono hr (Nat.le_succ k)
  rw [cut_iff hr ha hmk]
  grind

/-- A listener goes when its barrier is matched or released, or when the context is cancelled. -/
theorem gone_shown_succ (hr : r.Admissible) (ha : r.Arms m key a) (hmk : m < k) :
    (r.shown key a (k + 1)).gone = true ↔ (r.shown key a k).gone = true ∨
      (∃ event, (∃ sight, r.sight? key a k = some sight ∧ sight.event? = some event) ∧
        a.wanted event = true) ∨
      r.sight? key a k = some .freed ∨ r.sight? key a k = some .cut := by
  have hmk' : m < k + 1 := Nat.lt_succ_of_lt hmk
  have hmono : (r.shown key a k).gone = true → (r.shown key a (k + 1)).gone = true := by
    obtain ⟨scope, hplace⟩ := ha.place hr hmk
    rw [gone_shown hplace, gone_shown (place?_mono hr (Nat.le_succ k) hplace)]
    exact isCancelled_mono hr (Nat.le_succ k)
  have hmatched := matched_shown_succ hr ha hmk
  have hcut := cut_shown_succ hr ha hmk
  have hfreed := freed_iff hr ha hmk
  have hreleased : r.Released (k + 1) key ↔
      r.Released k key ∨ r.beats[k]? = some (.whole (.release key)) := by rw [released_succ]
  -- What is over now and was not before has one of the four reasons.
  have hnow := gone_shown_iff hr ha hmk'
  have hbefore := gone_shown_iff hr ha hmk
  simp only [Freed, ← cut_shown_iff hr ha hmk, ← cut_shown_iff hr ha hmk', ← matched_shown_iff (a := a)]
    at hnow hbefore
  grind

theorem clock_shown_succ (hr : r.Admissible) (k : Nat) (key : BarrierKey) (a : Arming) :
    ((r.shown key a (k + 1)).now, (r.shown key a (k + 1)).served) =
      match r.sight? key a k with
      | some (.tick duration) => ((r.shown key a k).now + duration, (r.shown key a k).served)
      | some .serve => ((r.shown key a k).now, (r.shown key a k).now)
      | _ => ((r.shown key a k).now, (r.shown key a k).served) := by
  show (r.world (k + 1)).clock = _
  by_cases hwhole : ∃ t, r.beats[k]? = some (.whole t)
  · obtain ⟨t, hbeat⟩ := hwhole
    rw [sight?_of_whole hbeat, world_succ hbeat, World.apply_clock]
    split
    · rfl
    · rfl
    next htick hserve =>
      split
      next hsight => exact absurd (World.sight?_eq_tick.mp hsight) (htick _)
      next hsight => exact absurd (World.sight?_eq_serve.mp hsight) hserve
      next => rfl
  · have hnone := fun t ht => hwhole ⟨t, ht⟩
    rw [(matches_of_not_whole hr hnone).2.clock]
    rcases sight?_of_not_whole hnone key a with h | ⟨event, h⟩ <;> rw [h] <;> rfl

/-- A beat makes of a barrier what comes of that which the barrier notices. -/
theorem shown_succ (hr : r.Admissible) (ha : r.Arms m key a) (hmk : m < k) :
    r.shown key a (k + 1) =
      (r.sight? key a k).toList.foldl (Alone.see a.wanted) (r.shown key a k) := by
  have hmatched := matched_shown_succ hr ha hmk
  have hcut := cut_shown_succ hr ha hmk
  have hgone := gone_shown_succ hr ha hmk
  have hclock := clock_shown_succ hr k key a
  generalize r.shown key a (k + 1) = b' at *
  generalize r.shown key a k = b at *
  generalize r.sight? key a k = sight at *
  rcases sight with - | (duration | - | event | event | - | -)
  all_goals
    obtain ⟨hnow, hserved⟩ := Prod.mk.inj hclock
    refine Alone.ext hnow hserved ?_ ?_ ?_ <;> rw [Bool.eq_iff_iff]
    · simpa [Alone.see, Sight.event?] using hmatched
    · simpa [Alone.see] using hcut
    · simpa [Alone.see, Sight.event?] using hgone

/-! ### Whole runs -/

/-- Barriers are armed under contexts. -/
theorem Arms.isContext (hr : r.Admissible) (ha : r.Arms m key a) :
    (r.world m).board.IsContext a.ctx.scope := by
  obtain ⟨t, ht, harming, -⟩ := ha
  exact (sound hr m).isContext_of_arming (hr.step m t ht) harming

/-- A barrier that was armed just now is freed only if its context is cancelled already. -/
theorem cancelled_of_freed_of_arms (hr : r.Admissible) (ha : r.Arms m key a)
    (h : r.Freed (m + 1) key a.ctx) : r.Cancelled (m + 1) a.ctx.scope := by
  have hkey := ha.eq_length
  obtain ⟨t, ht, harming, -⟩ := ha
  rcases h with hreleased | habandoned | hcancelled
  · rw [released_succ] at hreleased
    rcases hreleased with hreleased | hbeat
    · exact absurd (hkey ▸ (sound hr m).released key hreleased) (Nat.lt_irrefl _)
    · cases ht.symm.trans hbeat
      cases harming
  · obtain ⟨x, holder, hx, -, hhalves, -⟩ := World.barrier_of_arming harming
    rw [← world_succ ht] at hx
    have hnone := Barrier.abandoned_iff.mp ((abandoned_iff_of_barrier hx).mp habandoned)
    cases hhalves.symm.trans hnone
  · exact hcancelled

/-- A barrier begins as one that was armed just now. -/
theorem shown_armed (hr : r.Admissible) (ha : r.Arms m key a) :
    r.shown key a (m + 1) = .armed (r.world m).now (r.world m).served
      ((r.world m).scopes.isCancelled a.ctx.scope) := by
  have hm : m < m + 1 := Nat.lt_succ_self m
  have hnot := not_matched_of_arms ha
  have hgone : (r.shown key a (m + 1)).gone = (r.shown key a (m + 1)).cut := by
    rw [Bool.eq_iff_iff, gone_shown_iff hr ha hm, cut_shown_iff hr ha hm, or_iff_right hnot]
    exact ⟨cancelled_of_freed_of_arms hr ha, fun h => .inr (.inr h)⟩
  have hmatched : (r.shown key a (m + 1)).matched = false :=
    Bool.eq_false_iff.mpr fun h => hnot (matched_shown_iff.mp h)
  have hscope := ha.isContext hr
  obtain ⟨t, ht, harming, -⟩ := ha
  have hcut : (r.shown key a (m + 1)).cut = (r.world m).scopes.isCancelled a.ctx.scope := by
    show (r.world (m + 1)).scopes.isCancelled a.ctx.scope = _
    rw [world_succ ht]
    refine (sound hr m).isCancelled_apply hscope ?_
    rintro c rfl
    cases harming
  have hclock : (r.world (m + 1)).clock = (r.world m).clock := by
    rw [world_succ ht, World.apply_clock]
    split <;> first | rfl | cases harming
  obtain ⟨hnow, hserved⟩ := Prod.mk.inj hclock
  exact Alone.ext hnow hserved hmatched hcut (hgone.trans hcut)

/-- What is known of a barrier at a position comes from what it has noticed until then. -/
theorem shown_eq (hr : r.Admissible) (ha : r.Arms m key a) (hmk : m < k) :
    r.shown key a k = (r.account m key a k).foldl (Alone.see a.wanted)
      (.armed (r.world m).now (r.world m).served ((r.world m).scopes.isCancelled a.ctx.scope)) := by
  induction hmk with
  | refl =>
    rw [account_armed]
    exact shown_armed hr ha
  | @step k hmk ih => rw [account_succ hmk, List.foldl_append, ← ih, shown_succ hr ha hmk]

end Staggered

end PagePilot
