import PagePilot.Proofs.Listeners.Hub
import PagePilot.Proofs.Positions
/-!
# PagePilot.Proofs.Listeners.Usage

Who listens, and who is gone. A usage of a list of listeners is any sequence of moves, and what is
registered and what is cancelled is read off the moves that were made: a listener is known by
the position of its registration (`Usage.roster`), and a scope is cancelled that was cancelled
or derives from one that was (`Usage.cancelled_iff`).

The listeners of the list who are live are those of the roster who are (`Usage.live_eq_queue`).
That is clear of a list that is never tidied up, which is the roster itself, and one that is
cannot be told apart from it (`Usage.alike`).
-/

namespace PagePilot

/-! ### What is cancelled -/

namespace Scopes

variable {s : Scopes} {cancelled : ScopeId → Prop} {x : ScopeId}

/-- Scopes of which those are cancelled that derive from one of some scopes. -/
structure Traced (s : Scopes) (cancelled : ScopeId → Prop) : Prop where
  grown : s.Grown
  known : ∀ a, cancelled a → a < s.next
  iff : ∀ x, s.isCancelled x = true ↔ ∃ a, cancelled a ∧ s.Descends a x

theorem eq_of_descends_root (h : s.parentOf? x = none) {a : ScopeId} (hx : s.Descends a x) :
    x = a := by
  cases hx with
  | self => rfl
  | child hp => cases h.symm.trans hp

/-- Cancelling a scope that is not there changes nothing. -/
theorem isCancelled_cancel_iff_descends (hs : s.Grown) {id : ScopeId} :
    (s.cancel id).isCancelled x = true ↔
      s.isCancelled x = true ∨ (id < s.next ∧ s.Descends id x) := by
  by_cases hid : id < s.next
  · rw [isCancelled_cancel hs hid, and_iff_right hid]
  · refine ⟨fun h => .inl ?_, fun h => (isCancelled_cancel_iff hs).mpr (.inl ?_)⟩
    · -- Upwards from `x`, until a parent is met that was cancelled before.
      induction x using Nat.strongRecOn with
      | ind x ih =>
        rcases (isCancelled_cancel_iff hs).mp h with h | ⟨rfl, hlt⟩ | ⟨p, hp, h⟩
        · exact h
        · exact absurd hlt hid
        · exact hs.closed x p hp (ih p (hs.ordered x p hp) h)
    · exact h.resolve_right fun hreached => hid hreached.1

theorem traced_empty : Scopes.empty.Traced fun _ => False :=
  ⟨.empty, nofun, fun x => by simp [isCancelled, cancelledIn, empty]⟩

namespace Traced

theorem congr (h : s.Traced cancelled) {cancelled' : ScopeId → Prop}
    (hiff : ∀ a, cancelled' a ↔ cancelled a) : s.Traced cancelled' := by
  obtain rfl : cancelled' = cancelled := funext fun a => propext (hiff a)
  exact h

theorem addRoot (h : s.Traced cancelled) : s.addRoot.Traced cancelled where
  grown := h.grown.addRoot
  known a ha := Nat.lt_trans (h.known a ha) (by simp [Scopes.addRoot, next])
  iff x := by
    rw [isCancelled_addRoot, h.iff]
    exact exists_congr fun a => and_congr_right fun _ =>
      (descends_congr fun x => parentOf?_addRoot).symm

theorem addChild (h : s.Traced cancelled) {p : ScopeId} (hp : p < s.next) :
    (s.addChild p).Traced cancelled where
  grown := h.grown.addChild hp
  known a ha := Nat.lt_trans (h.known a ha) (by simp [Scopes.addChild, next])
  iff x := by
    rcases Nat.lt_trichotomy x s.next with hlt | rfl | hgt
    · rw [isCancelled_addChild hlt, h.iff]
      exact exists_congr fun a => and_congr_right fun _ => (descends_addChild h.grown hlt).symm
    · rw [isCancelled_addChild_next, h.iff]
      refine exists_congr fun a => and_congr_right fun ha => ?_
      rw [descends_addChild_next h.grown hp, or_iff_right (Nat.ne_of_lt (h.known a ha))]
    · have hnext : (s.addChild p).next ≤ x := by
        simpa [Scopes.addChild, next] using Nat.succ_le_of_lt hgt
      have hout : (s.addChild p).isCancelled x ≠ true := fun hx =>
        absurd (lt_next_of_isCancelled hx) (Nat.not_lt.mpr hnext)
      refine iff_of_false hout ?_
      rintro ⟨a, ha, hdescends⟩
      obtain rfl := eq_of_descends_root (parentOf?_eq_none hnext) hdescends
      exact Nat.lt_asymm hgt (h.known _ ha)

theorem derive (h : s.Traced cancelled) (parent : Option ScopeId) :
    (s.derive parent).Traced cancelled := by
  unfold Scopes.derive
  split
  · split
    next hp => exact h.addChild hp
    next => exact h.addRoot
  · exact h.addRoot

theorem cancel (h : s.Traced cancelled) (id : ScopeId) :
    (s.cancel id).Traced fun a => cancelled a ∨ (id = a ∧ a < s.next) where
  grown := h.grown.cancel
  known a ha := by
    rw [next_cancel]
    rcases ha with ha | ⟨rfl, hlt⟩
    · exact h.known a ha
    · exact hlt
  iff x := by
    have hdescends : ∀ a, (s.cancel id).Descends a x ↔ s.Descends a x :=
      fun a => descends_congr fun _ => parentOf?_cancel
    simp only [hdescends]
    rw [isCancelled_cancel_iff_descends h.grown, h.iff]
    constructor
    · intro hreached
      rcases hreached with ⟨a, ha, hx⟩ | ⟨hid, hx⟩
      · exact ⟨a, .inl ha, hx⟩
      · exact ⟨id, .inr ⟨rfl, hid⟩, hx⟩
    · intro hreached
      obtain ⟨a, ha | ⟨rfl, hid⟩, hx⟩ := hreached
      · exact .inl ⟨a, ha, hx⟩
      · exact .inr ⟨hid, hx⟩

end Traced

end Scopes

/-! ### Usages -/

namespace Listeners

/-- What happens to a list of listeners, in order. -/
structure Usage (H E : Type) where
  moves : List (Move H E)

variable {H E : Type}

theorem Hub.clock_run {tidy : Tidying H} (h : Hub H E) (moves : List (Move H E)) :
    (h.run tidy moves).clock = h.clock + moves.length := by
  induction moves generalizing h with
  | nil => rfl
  | cons m rest ih =>
    refine (ih (h.move tidy m)).trans ?_
    simp only [move, List.length_cons]
    omega

namespace Usage

variable (r : Usage H E)

/-- The hub before the `k`th move, if its list is tidied up in a certain way. -/
def tidied (tidy : Tidying H) (k : Nat) : Hub H E :=
  Hub.fresh.run tidy (r.moves.take k)

/-- The hub before the `k`th move. -/
def hub (k : Nat) : Hub H E :=
  r.tidied Listeners.prune k

/-- The hub before the `k`th move, if no listener is ever dropped. -/
def ledger (k : Nat) : Hub H E :=
  r.tidied (.none H) k

/-- The handler that is called by the `k`th move. -/
def call? (k : Nat) : Option (Call H E) :=
  r.moves[k]?.bind (r.hub k).call?

/-- The calls that are made by the moves from the `k`th to the `l`th. -/
def calls (k l : Nat) : List (Call H E) :=
  (List.range' k (l - k)).filterMap r.call?

/-- The `k`th move cancels a scope. -/
def Cancels (k : Nat) (scope : ScopeId) : Prop :=
  r.moves[k]? = some (.cancel scope) ∧ scope < (r.hub k).scopes.next

/-- The listener that is registered by the `k`th move. -/
def enrolled? (k : Nat) : Option (Registration (Placed H)) :=
  match r.moves[k]? with
  | some (.listen scope handler) =>
      if (r.hub k).scopes.isCancelled scope then none else some ⟨scope, k, handler⟩
  | _ => none

/-- All listeners that were registered before the `k`th move. -/
def roster (k : Nat) : List (Registration (Placed H)) :=
  (List.range k).filterMap r.enrolled?

/-- Those of them whose scope is not cancelled. -/
def queue (k : Nat) : List (Registration (Placed H)) :=
  (r.roster k).filter (·.isLive (r.hub k).scopes)

variable {r} {tidy : Tidying H} {k l c : Nat} {m : Move H E} {x a : ScopeId}
  {reg : Registration (Placed H)}

theorem tidied_succ (h : r.moves[k]? = some m) :
    r.tidied tidy (k + 1) = (r.tidied tidy k).move tidy m := by
  simp only [tidied, List.take_add_one, h, Option.toList_some, Hub.run_append]
  rfl

theorem tidied_succ_of_none (h : r.moves[k]? = none) :
    r.tidied tidy (k + 1) = r.tidied tidy k := by
  simp [tidied, List.take_add_one, h]

theorem hub_succ (h : r.moves[k]? = some m) :
    r.hub (k + 1) = (r.hub k).move Listeners.prune m :=
  tidied_succ h

theorem hub_succ_of_none (h : r.moves[k]? = none) : r.hub (k + 1) = r.hub k :=
  tidied_succ_of_none h

theorem clock_eq (h : r.moves[k]? = some m) : (r.tidied tidy k).clock = k := by
  obtain ⟨hlt, -⟩ := List.getElem?_eq_some_iff.mp h
  rw [tidied, Hub.clock_run, List.length_take, Nat.min_eq_left (Nat.le_of_lt hlt)]
  exact Nat.zero_add k

theorem hub_append (before after : List (Move H E)) :
    (Usage.mk (before ++ after)).hub before.length = Hub.fresh.run Listeners.prune before := by
  simp [hub, tidied]

/-- The calls of some moves in the middle. -/
theorem calls_append (before part after : List (Move H E)) :
    (Usage.mk (before ++ (part ++ after))).calls before.length (before.length + part.length) =
      (Hub.fresh.run Listeners.prune before).calls Listeners.prune part := by
  unfold calls
  rw [Nat.add_sub_cancel_left]
  induction part generalizing before with
  | nil => rfl
  | cons m rest ih =>
    have hrest := ih (before ++ [m])
    rw [List.append_assoc, Hub.run_append, List.length_append] at hrest
    have hcall : (Usage.mk (before ++ (m :: rest ++ after))).call? before.length =
        (Hub.fresh.run Listeners.prune before).call? m := by
      unfold call?
      rw [hub_append]
      simp
    rw [List.length_cons, List.range'_succ, List.filterMap_cons, hcall]
    show _ = (Hub.call? _ m).toList ++ _
    cases Hub.call? _ m with
    | none => exact hrest
    | some call => exact congrArg (call :: ·) hrest

/-- A list that is tidied up cannot be told apart from one that is not. -/
theorem alike (r : Usage H E) (k : Nat) : (r.hub k).Alike (r.ledger k) :=
  (Hub.Alike.refl _).run Hub.keeps_prune Hub.keeps_none _

theorem persists_succ (r : Usage H E) (k : Nat) :
    (r.hub k).scopes.Persists (r.hub (k + 1)).scopes := by
  cases hm : r.moves[k]? with
  | none => rw [hub_succ_of_none hm]; exact .refl _
  | some m => rw [hub_succ hm]; exact Hub.persists_move _ _ m

theorem persists (r : Usage H E) (hkl : k ≤ l) :
    (r.hub k).scopes.Persists (r.hub l).scopes := by
  induction hkl with
  | refl => exact .refl _
  | step _ ih => exact ih.trans (r.persists_succ _)

/-! ### Who is cancelled -/

/-- The scopes are what was made, and those are cancelled that derive from one that was. -/
theorem traced (r : Usage H E) (k : Nat) :
    (r.hub k).scopes.Traced fun a => ∃ c < k, r.Cancels c a := by
  induction k with
  | zero =>
    refine Scopes.traced_empty.congr fun a => ?_
    simp
  | succ k ih =>
    -- Moves that cancel nothing leave the set of cancelled scopes as it was.
    have hsame : ∀ {s : Scopes}, (∀ a, ¬ r.Cancels k a) →
        s.Traced (fun a => ∃ c < k, r.Cancels c a) →
        s.Traced fun a => ∃ c < k + 1, r.Cancels c a := by
      intro s hnone hs
      refine hs.congr fun a => ?_
      rw [Nat.exists_lt_succ_right, or_iff_left (hnone a)]
    cases hm : r.moves[k]? with
    | none =>
      rw [hub_succ_of_none hm]
      exact hsame (fun a ha => by simp [Cancels, hm] at ha) ih
    | some m =>
      rw [hub_succ hm]
      cases m with
      | newScope parent =>
        exact hsame (fun a ha => by simp [Cancels, hm] at ha) (ih.derive parent)
      | cancel scope =>
        refine (ih.cancel scope).congr fun a => ?_
        rw [Nat.exists_lt_succ_right]
        refine or_congr_right ?_
        simp [Cancels, hm]
      | _ => exact hsame (fun a ha => by simp [Cancels, hm] at ha) ih

/-- A scope is cancelled if it was, or a scope from which it derives. -/
theorem cancelled_iff (r : Usage H E) (k : Nat) (x : ScopeId) :
    (r.hub k).scopes.isCancelled x = true ↔
      ∃ c < k, ∃ a, r.Cancels c a ∧ (r.hub k).scopes.Descends a x := by
  rw [(r.traced k).iff]
  constructor
  · rintro ⟨a, ⟨c, hc, ha⟩, hx⟩
    exact ⟨c, hc, a, ha, hx⟩
  · rintro ⟨c, hc, a, ha, hx⟩
    exact ⟨a, ⟨c, hc, ha⟩, hx⟩

/-! ### Who listens -/

theorem roster_succ (r : Usage H E) (k : Nat) :
    r.roster (k + 1) = r.roster k ++ (r.enrolled? k).toList :=
  filterMap_range_succ r.enrolled? k

theorem position_of_enrolled? (h : r.enrolled? k = some reg) : reg.handler.position = k := by
  unfold enrolled? at h
  split at h
  · split at h
    · cases h
    · cases h; rfl
  · cases h

theorem mem_roster : reg ∈ r.roster k ↔ ∃ m < k, r.enrolled? m = some reg := by
  simp [roster, List.mem_filterMap]

theorem mem_queue : reg ∈ r.queue k ↔
    (∃ m < k, r.enrolled? m = some reg) ∧ (r.hub k).scopes.isCancelled reg.scope = false := by
  simp [queue, mem_roster, Registration.isLive]

/-- Listeners come in the order of their registration. -/
theorem queue_sorted (r : Usage H E) (k : Nat) :
    (r.queue k).Pairwise fun reg reg' => reg.handler.position < reg'.handler.position := by
  refine List.Pairwise.filter _ ?_
  refine List.Pairwise.filterMap _ (fun m m' hlt reg hreg reg' hreg' => ?_) List.pairwise_lt_range
  rwa [position_of_enrolled? hreg, position_of_enrolled? hreg']

/-- A list that is never tidied up is the roster. -/
theorem registrations_ledger (r : Usage H E) (k : Nat) :
    (r.ledger k).listeners.registrations = r.roster k := by
  induction k with
  | zero => rfl
  | succ k ih =>
    have hscopes : (r.ledger k).scopes = (r.hub k).scopes := (r.alike k).scopes
    rw [roster_succ, ← ih]
    unfold enrolled? ledger at *
    cases hm : r.moves[k]? with
    | none => rw [tidied_succ_of_none hm]; simp
    | some m =>
      rw [tidied_succ hm]
      cases m with
      | listen scope handler =>
        simp only [Hub.move, Hub.act, hscopes, clock_eq hm, Tidying.none]
        split <;> simp
      | _ => simp [Hub.move, Hub.act, Tidying.none]

/-- Those who are live are those of the roster who are. -/
theorem live_eq_queue (r : Usage H E) (k : Nat) :
    (r.hub k).listeners.live (r.hub k).scopes = r.queue k := by
  rw [← (r.alike k).live]
  exact congrArg (List.filter _) (r.registrations_ledger k)

end Usage

end Listeners

end PagePilot
