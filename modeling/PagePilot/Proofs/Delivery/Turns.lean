import PagePilot.Proofs.Delivery.Sinks
/-!
# PagePilot.Proofs.Delivery.Turns

Whose turn it is. Two listeners may have the same handler under the same scope, so a listener is
known by the position at which it was registered. When an event is handed to a page, those wait
for a turn who were registered there before and whose scope is not cancelled, in the order of
their registration (`Reception.queue`), and the turns after it are theirs, one after the other
(`Reception.Turn`).

The proof follows the delivery that is underway: those who wait are the queue of its event
without as many as have had their turn (`Reception.left`). The next event is handed to a page
only when nobody is left.
-/

namespace PagePilot

open Wire

/-- When a delivery begins, those who are gone are dropped, and that is all. -/
theorem Board.carries_prune (b : Board) (page : PageKey) :
    b.Carries (fun _ => []) (b.onPage page (·.prune b.scopes)) where
  scopes := .refl _
  live page' := by
    rw [List.append_nil]
    refine Eq.trans ?_ (b.liveAt_eq_filter page')
    unfold liveAt onPage
    dsimp only
    by_cases hpage : page' = page
    · rw [if_pos hpage]
      cases b.listeners page' with
      | none => rfl
      | some l => exact Registration.filter_isLive (.refl _) (fun reg => reg) l.registrations
    · rw [if_neg hpage]

namespace World

theorem beginDelivery_carries (w : World) (h : Handing) :
    w.board.Carries (fun _ => []) (w.beginDelivery h).board := by
  unfold beginDelivery
  rw [opening_board]
  exact w.board.carries_prune h.page

theorem giveTurn_carries (w : World) (page : PageKey) (event : Event) (reg : Registration Handler) :
    w.board.Carries (fun _ => []) (w.giveTurn page event reg).board := by
  refine Board.carries_of_listeners ?_ (giveTurn_listeners ..)
  show w.scopes.Persists (w.giveTurn page event reg).scopes
  unfold giveTurn
  split
  · exact .refl _
  · exact handle_persists page event reg.handler w

end World

namespace Reception

variable (r : Reception)

/-! ### Who listens -/

/-- The listener that is registered on a page at a position. -/
def enrolled? (k : Nat) (page : PageKey) : Option (Registration Handler) :=
  (r.transition? k).bind fun t => (r.world k).enrolled? t page

/-- All listeners that were registered on a page before a position, with the positions where they
were. -/
def roster (k : Nat) (page : PageKey) : List (Nat × Registration Handler) :=
  (List.range k).filterMap fun m => (r.enrolled? m page).map (m, ·)

/-- Those of them whose scope is not cancelled. -/
def queue (k : Nat) (page : PageKey) : List (Nat × Registration Handler) :=
  (r.roster k page).filter fun x => x.2.isLive (r.world k).scopes

/-- How many turns there are between two positions. -/
def turnsSince (d k : Nat) : Nat :=
  (List.range k).countP fun l => decide (d < l) && r.isTurn l

/-- Those who wait for their turn at `k`, of those who are in the queue at `d`. -/
def left (d k : Nat) (page : PageKey) : List (Registration Handler) :=
  ((r.queue d page).map Prod.snd).drop (r.turnsSince d k)

/-- At `τ` the listener that was registered at `m` has its turn with the event that was handed to
its page at `d`. -/
structure Turn (d τ m : Nat) (h : Handing) (reg : Registration Handler) : Prop where
  hands : r.Hands d h
  after : d < τ
  turn : r.isTurn τ = true
  place : (r.queue d h.page)[r.turnsSince d τ]? = some (m, reg)

variable {r} {d d' k l m m' n τ τ' i : Nat} {page : PageKey} {h h' : Handing}
  {reg reg' : Registration Handler}

/-- Scopes stay cancelled, and who is live was so before or is registered. -/
theorem carries (hr : r.Admissible) (k : Nat) :
    (r.world k).board.Carries (fun page => (r.enrolled? k page).toList)
      (r.world (k + 1)).board := by
  have hpass := r.passes hr k
  show Board.Carries _ _ (r.state (k + 1)).world.board
  generalize r.state (k + 1) = s at hpass ⊢
  cases hpass with
  | rest hnone =>
    refine (Board.carries_of_listeners (.refl _) rfl).of_eq fun page => ?_
    simp [enrolled?, hnone]
  | other ht hsilent =>
    unfold enrolled?
    rw [ht]
    exact World.apply_carries _ _ hsilent
  | hands hh =>
    refine (World.beginDelivery_carries ..).of_eq fun page => ?_
    simp [enrolled?, hh.1, World.enrolled?, World.enrolment?, World.arming?]
  | turn _ hnone =>
    refine (World.giveTurn_carries ..).of_eq fun page => ?_
    simp [enrolled?, hnone]

theorem persists (hr : r.Admissible) (hkl : k ≤ l) :
    (r.world k).scopes.Persists (r.world l).scopes := by
  induction hkl with
  | refl => exact .refl _
  | step _ ih => exact ih.trans (carries hr _).scopes

theorem roster_succ (k : Nat) (page : PageKey) :
    r.roster (k + 1) page = r.roster k page ++ (r.enrolled? k page).toList.map (k, ·) := by
  unfold roster
  rw [filterMap_range_succ, Option.toList_map]

theorem mem_roster : (m, reg) ∈ r.roster k page ↔ m < k ∧ r.enrolled? m page = some reg := by
  simp [roster, List.mem_filterMap]

theorem mem_queue : (m, reg) ∈ r.queue k page ↔ m < k ∧ r.enrolled? m page = some reg ∧
    (r.world k).scopes.isCancelled reg.scope = false := by
  simp [queue, mem_roster, Registration.isLive, and_assoc]

/-- Those who are live on a page were all registered there, and their scopes are not cancelled. -/
theorem liveAt_eq_queue (hr : r.Admissible) (k : Nat) (page : PageKey) :
    (r.world k).board.liveAt page = (r.queue k page).map Prod.snd := by
  induction k with
  | zero =>
    obtain ⟨refused, network, hstart⟩ := hr.initial
    show r.start.board.liveAt page = _
    rw [hstart]
    rfl
  | succ k ih =>
    have hkept :=
      Registration.filter_isLive (persists hr (Nat.le_succ k)) Prod.snd (r.roster k page)
    generalize hscopes : (r.world (k + 1)).scopes = s at hkept
    have hold : ((r.queue k page).map Prod.snd).filter (·.isLive s) =
        ((r.roster k page).filter fun x => x.2.isLive s).map Prod.snd := by
      rw [List.filter_map]
      exact congrArg (List.map Prod.snd) hkept
    have hnew : ∀ new : List (Registration Handler), new.filter (·.isLive s) =
        ((new.map (k, ·)).filter fun x => x.2.isLive s).map Prod.snd := by
      intro new
      rw [List.filter_map, List.map_map]
      exact (List.map_id _).symm
    rw [(carries hr k).live page, ih]
    show (((r.queue k page).map Prod.snd ++ _).filter (·.isLive (r.world (k + 1)).scopes)) = _
    rw [hscopes, List.filter_append, hold, hnew, ← List.map_append, ← List.filter_append,
      ← roster_succ, ← hscopes]
    rfl

/-! ### Turns -/

/-- The listeners of a queue come in the order of their registration. -/
theorem queue_sorted (k : Nat) (page : PageKey) :
    (r.queue k page).Pairwise fun x y => x.1 < y.1 := by
  refine List.Pairwise.filter _ ?_
  have hposition : ∀ m x, (r.enrolled? m page).map (m, ·) = some x → x.1 = m := by
    intro m x hx
    obtain ⟨reg, -, rfl⟩ := Option.map_eq_some_iff.mp hx
    rfl
  refine List.Pairwise.filterMap _ (fun m m' hlt x hx y hy => ?_) List.pairwise_lt_range
  rwa [hposition m x hx, hposition m' y hy]

theorem turnsSince_succ (d k : Nat) : r.turnsSince d (k + 1) =
    r.turnsSince d k + if d < k ∧ r.isTurn k = true then 1 else 0 := by
  unfold turnsSince
  rw [List.range_succ, List.countP_append]
  simp [List.countP_cons]

theorem turnsSince_of_le (hkd : k ≤ d + 1) : r.turnsSince d k = 0 := by
  refine List.countP_eq_zero.mpr fun l hl => ?_
  have hle : ¬ d < l := by
    have hlt := List.mem_range.mp hl
    omega
  simp [hle]

theorem turnsSince_mono (hkl : k ≤ l) : r.turnsSince d k ≤ r.turnsSince d l := by
  induction hkl with
  | refl => exact Nat.le_refl _
  | step _ ih => exact turnsSince_succ .. ▸ Nat.le_add_right_of_le ih

/-- Between two positions the turns are counted one by one. -/
theorem exists_turn (hi : i < r.turnsSince d k) :
    ∃ τ, d < τ ∧ τ < k ∧ r.isTurn τ = true ∧ r.turnsSince d τ = i := by
  induction k with
  | zero => cases hi
  | succ k ih =>
    rcases Nat.lt_or_ge i (r.turnsSince d k) with hlt | hge
    · obtain ⟨τ, hdτ, hτk, hturn⟩ := ih hlt
      exact ⟨τ, hdτ, Nat.lt_succ_of_lt hτk, hturn⟩
    · rw [turnsSince_succ] at hi
      split at hi
      next hturn => exact ⟨k, hturn.1, Nat.lt_succ_self k, hturn.2, by omega⟩
      next => omega

theorem turnsSince_lt (hdτ : d < τ) (hturn : r.isTurn τ = true) (hlt : τ < τ') :
    r.turnsSince d τ < r.turnsSince d τ' := by
  refine Nat.lt_of_lt_of_le ?_ (turnsSince_mono hlt)
  rw [turnsSince_succ, if_pos ⟨hdτ, hturn⟩]
  exact Nat.lt_succ_self _

/-! ### The delivery that is underway -/

theorem isTurn_of_transition? {t : Transition} (ht : r.transition? k = some t) :
    r.isTurn k = false := by
  rcases transition?_eq_some ht with hmove | ⟨hmove, -⟩
  · simp [isTurn, hmove]
  · simp [isTurn, hmove]

theorem left_succ (d k : Nat) (page : PageKey) : r.left d (k + 1) page =
    if d < k ∧ r.isTurn k = true then (r.left d k page).tail else r.left d k page := by
  unfold left
  rw [turnsSince_succ]
  split
  · rw [List.tail_drop]
  · rfl

theorem left_self (d : Nat) (page : PageKey) :
    r.left d (d + 1) page = (r.queue d page).map Prod.snd := by
  unfold left
  rw [turnsSince_of_le (Nat.le_refl _), List.drop_zero]

/-- Who has had a turn does not wait any more. -/
theorem left_of_le (hkl : k ≤ l) (hnone : r.left d k page = []) : r.left d l page = [] := by
  unfold left at *
  rw [List.drop_eq_nil_iff] at *
  exact Nat.le_trans hnone (turnsSince_mono hkl)

theorem left_of_idle (hidle : (r.state k).idle = true)
    (hround : (r.state k).round = some ⟨h.page, h.event, r.left d k h.page⟩) :
    r.left d k h.page = [] := by
  simpa [Intake.idle, hround] using hidle

theorem Hands.unique (hh : r.Hands k h) (hh' : r.Hands k h') : h = h' :=
  Option.some.inj (hh.2.symm.trans hh'.2)

/-- An event is handed to a page only when the delivery before is over, and its own begins. -/
theorem Hands.begins (hr : r.Admissible) (hh : r.Hands d h) : (r.state d).idle = true ∧
    (r.state (d + 1)).round = some ⟨h.page, h.event, r.left d (d + 1) h.page⟩ := by
  have hpass := r.passes hr d
  generalize r.state (d + 1) = s at hpass ⊢
  cases hpass with
  | rest hnone => cases hnone.symm.trans hh.1
  | other ht _ hnone =>
    cases hh.1.symm.trans ht
    cases hnone.symm.trans hh.2
  | hands hh' hidle =>
    obtain rfl := hh.unique hh'
    refine ⟨hidle, ?_⟩
    rw [left_self, liveAt_eq_queue hr]
  | turn _ hnone => cases hnone.symm.trans hh.1

/-- As long as somebody waits for a turn with an event, its delivery is the one that is
underway. -/
theorem Hands.underway (hr : r.Admissible) (hh : r.Hands d h) (hdk : d < k) :
    (r.state k).round = some ⟨h.page, h.event, r.left d k h.page⟩ ∨ r.left d k h.page = [] := by
  induction hdk with
  | refl => exact .inl (hh.begins hr).2
  | @step k hdk ih =>
    have hpass := r.passes hr k
    have hidle : (r.state k).idle = true → r.left d k h.page = [] :=
      fun hidle => ih.elim (left_of_idle hidle) fun hnone => hnone
    have hleft := left_succ (r := r) d k h.page
    generalize r.state (k + 1) = s at hpass ⊢
    cases hpass with
    | rest _ hover =>
      by_cases hturn : r.isTurn k = true
      · exact .inr (left_of_le (Nat.le_succ k) (hidle (hover hturn)))
      · rw [hleft, if_neg fun h => hturn h.2]
        exact ih
    | other ht =>
      rw [hleft, isTurn_of_transition? ht, if_neg fun h => Bool.false_ne_true h.2]
      exact ih
    | hands _ hover => exact .inr (left_of_le (Nat.le_succ k) (hidle hover))
    | turn hturn _ hround =>
      rcases ih with hsame | hnone
      · obtain ⟨hpage, hevent, hwaiting⟩ :=
          Round.mk.inj (Option.some.inj (hround.symm.trans hsame))
        rw [hleft, if_pos ⟨hdk, hturn⟩, ← hwaiting, hpage, hevent]
        exact .inl rfl
      · exact .inr (left_of_le (Nat.le_succ k) hnone)

/-- A delivery that is underway is that of an event that was handed to its page. -/
theorem exists_hands_of_round (hr : r.Admissible) {ρ : Round}
    (hround : (r.state k).round = some ρ) :
    ∃ d < k, ∃ h, r.Hands d h ∧ ρ = ⟨h.page, h.event, r.left d k h.page⟩ := by
  induction k generalizing ρ with
  | zero => cases hround
  | succ k ih =>
    have hpass := r.passes hr k
    generalize r.state (k + 1) = s at hpass hround
    cases hpass with
    | rest _ hover =>
      obtain ⟨d, hdk, h, hh, rfl⟩ := ih hround
      refine ⟨d, Nat.lt_succ_of_lt hdk, h, hh, ?_⟩
      rw [left_succ]
      split
      next hturn => rw [left_of_idle (hover hturn.2) hround]; rfl
      next => rfl
    | other ht =>
      obtain ⟨d, hdk, h, hh, rfl⟩ := ih hround
      refine ⟨d, Nat.lt_succ_of_lt hdk, h, hh, ?_⟩
      rw [left_succ, isTurn_of_transition? ht, if_neg fun h => Bool.false_ne_true h.2]
    | @hands h hh =>
      cases hround
      exact ⟨k, Nat.lt_succ_self k, h, hh, by rw [left_self, liveAt_eq_queue hr]⟩
    | turn hturn _ hbefore =>
      obtain ⟨d, hdk, h, hh, hρ⟩ := ih hbefore
      obtain ⟨rfl, rfl, hwaiting⟩ := Round.mk.inj hρ
      cases hround
      refine ⟨d, Nat.lt_succ_of_lt hdk, h, hh, ?_⟩
      rw [left_succ, if_pos ⟨hdk, hturn⟩, ← hwaiting]
      rfl

/-- When an event is handed to a page, all turns with the ones before are over. -/
theorem Hands.over (hr : r.Admissible) (hh : r.Hands d h) (hh' : r.Hands d' h') (hlt : d < d') :
    r.left d d' h.page = [] :=
  (hh.underway hr hlt).elim (left_of_idle (hh'.begins hr).1) fun hnone => hnone

/-! ### Whose turn it is -/

theorem left_eq_cons (hplace : (r.queue d page)[r.turnsSince d τ]? = some (m, reg)) :
    ∃ rest, r.left d τ page = reg :: rest := by
  obtain ⟨hlt, hget⟩ := List.getElem?_eq_some_iff.mp hplace
  refine ⟨((r.queue d page).map Prod.snd).drop (r.turnsSince d τ + 1), ?_⟩
  unfold left
  rw [List.drop_eq_getElem_cons (by simpa using hlt)]
  simp [hget]

namespace Turn

theorem mem_queue (ht : r.Turn d τ m h reg) : (m, reg) ∈ r.queue d h.page :=
  List.mem_of_getElem? ht.place

/-- Who has a turn is the next in the delivery that is underway. -/
theorem round (hr : r.Admissible) (ht : r.Turn d τ m h reg) :
    ∃ rest, (r.state τ).round = some ⟨h.page, h.event, reg :: rest⟩ := by
  obtain ⟨rest, hleft⟩ := left_eq_cons ht.place
  refine ⟨rest, ?_⟩
  rcases ht.hands.underway hr ht.after with hround | hnone
  · rw [hround, hleft]
  · cases hleft.symm.trans hnone

/-- Turns with an earlier event come earlier. -/
theorem lt_of_lt (hr : r.Admissible) (ht : r.Turn d τ m h reg) (ht' : r.Turn d' τ' m' h' reg')
    (hlt : d < d') : τ < τ' := by
  refine Nat.lt_of_not_le fun hle => ?_
  obtain ⟨rest, hleft⟩ := left_eq_cons ht.place
  have hover := left_of_le (Nat.le_trans (Nat.le_of_lt ht'.after) hle)
    (ht.hands.over hr ht'.hands hlt)
  cases hleft.symm.trans hover

/-- Turns with one event come in the order of registration. -/
theorem registered_lt (ht : r.Turn d τ m h reg) (ht' : r.Turn d τ' m' h' reg') (hlt : τ < τ') :
    m < m' := by
  obtain rfl := ht.hands.unique ht'.hands
  obtain ⟨hi, hget⟩ := List.getElem?_eq_some_iff.mp ht.place
  obtain ⟨hi', hget'⟩ := List.getElem?_eq_some_iff.mp ht'.place
  have hsorted := List.pairwise_iff_getElem.mp (queue_sorted d h.page) _ _ hi hi'
    (turnsSince_lt ht.after ht.turn hlt)
  rwa [hget, hget'] at hsorted

/-- At most one listener has a turn at a position, with one event. -/
theorem unique (hr : r.Admissible) (ht : r.Turn d τ m h reg) (ht' : r.Turn d' τ m' h' reg') :
    d = d' ∧ m = m' ∧ h = h' ∧ reg = reg' := by
  rcases Nat.lt_trichotomy d d' with hlt | rfl | hlt
  · exact absurd (ht.lt_of_lt hr ht' hlt) (Nat.lt_irrefl τ)
  · obtain rfl := ht.hands.unique ht'.hands
    cases ht.place.symm.trans ht'.place
    exact ⟨rfl, rfl, rfl, rfl⟩
  · exact absurd (ht'.lt_of_lt hr ht hlt) (Nat.lt_irrefl τ)

theorem lt_of_registered (hr : r.Admissible) (ht : r.Turn d τ m h reg)
    (ht' : r.Turn d τ' m' h' reg') (hlt : m < m') : τ < τ' := by
  rcases Nat.lt_trichotomy τ τ' with hbefore | rfl | hafter
  · exact hbefore
  · obtain ⟨-, rfl, -, -⟩ := ht.unique hr ht'
    exact absurd hlt (Nat.lt_irrefl m)
  · exact absurd (ht'.registered_lt ht hafter) (Nat.lt_asymm hlt)

/-- A listener has at most one turn with an event. -/
theorem once (ht : r.Turn d τ m h reg) (ht' : r.Turn d τ' m h' reg') : τ = τ' := by
  rcases Nat.lt_trichotomy τ τ' with hlt | rfl | hlt
  · exact absurd (ht.registered_lt ht' hlt) (Nat.lt_irrefl m)
  · rfl
  · exact absurd (ht'.registered_lt ht hlt) (Nat.lt_irrefl m)

end Turn

/-- Who waits when an event is handed to the page has a turn before the delivery is over. -/
theorem Hands.exists_turn (hr : r.Admissible) (hh : r.Hands d h) (hdk : d < k)
    (hidle : (r.state k).idle = true) (hmem : (m, reg) ∈ r.queue d h.page) :
    ∃ τ < k, r.Turn d τ m h reg := by
  have hnone : r.left d k h.page = [] :=
    (hh.underway hr hdk).elim (left_of_idle hidle) fun hnone => hnone
  obtain ⟨i, hi, hget⟩ := List.getElem_of_mem hmem
  have hlt : i < r.turnsSince d k := by
    unfold left at hnone
    rw [List.drop_eq_nil_iff, List.length_map] at hnone
    exact Nat.lt_of_lt_of_le hi hnone
  obtain ⟨τ, hdτ, hτk, hturn, rfl⟩ := Reception.exists_turn hlt
  exact ⟨τ, hτk, hh, hdτ, hturn, List.getElem?_eq_some_iff.mpr ⟨hi, hget⟩⟩

/-- Who is called next when somebody has a turn is the listener of a queue. -/
theorem turn_of_round (hr : r.Admissible) {event : Event} {rest : List (Registration Handler)}
    (hturn : r.isTurn τ = true) (hround : (r.state τ).round = some ⟨page, event, reg :: rest⟩) :
    ∃ d m h, r.Turn d τ m h reg ∧ h.page = page ∧ h.event = event := by
  obtain ⟨d, hdτ, h, hh, hρ⟩ := exists_hands_of_round hr hround
  obtain ⟨rfl, rfl, hwaiting⟩ := Round.mk.inj hρ
  have hplace : ((r.queue d h.page).map Prod.snd)[r.turnsSince d τ]? = some reg := by
    unfold left at hwaiting
    rw [← List.head?_drop, ← hwaiting]
    rfl
  rw [List.getElem?_map, Option.map_eq_some_iff] at hplace
  obtain ⟨⟨m, reg'⟩, hplace, rfl⟩ := hplace
  exact ⟨d, m, h, ⟨hh, hdτ, hturn, hplace⟩, rfl, rfl⟩

end Reception

end PagePilot
