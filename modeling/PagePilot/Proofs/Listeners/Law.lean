import PagePilot.Proofs.Listeners.Usage
/-!
# PagePilot.Proofs.Listeners.Law

Which handlers a delivery calls. When a delivery begins, those wait for their turn in it who were
registered before and are live (`Usage.Begins.waiting`), and who waits later is the rest of
them (`Usage.Begins.suffix`). So each has one turn, in the order of registration, whatever
handlers do in between, and a handler is called in its turn unless its scope is cancelled by
then (`Usage.Begins.call_iff`).

`Usage.Law` puts that together, in terms of the moves that were made.
-/

namespace PagePilot.Listeners.Usage

variable {H E : Type} (r : Usage H E)

/-- The `d`th move begins the `n`th delivery. -/
def Begins (n d : Nat) (event : E) : Prop :=
  r.moves[d]? = some (.deliver event) ∧ (r.hub d).deliveries.length = n

/-- Who waits for a turn in the `n`th delivery. -/
def waiting (n k : Nat) : List (Registration (Placed H)) :=
  ((r.hub k).deliveries[n]?.map (·.waiting)).getD []

/-- Those of them who are left when a turn has passed over those who are gone. -/
def left (n k : Nat) : List (Registration (Placed H)) :=
  (r.waiting n k).dropWhile fun reg => (r.hub k).scopes.isCancelled reg.scope

/-- At `τ` the turn of a listener comes in the `n`th delivery. -/
structure Turn (n τ : Nat) (reg : Registration (Placed H)) : Prop where
  turn : r.moves[τ]? = some (.turn n)
  waits : reg ∈ r.waiting n τ
  passed : reg ∉ r.waiting n (τ + 1)

/-- What holds of every usage of a list of listeners. -/
structure Law (r : Usage H E) : Prop where
  /-- A scope is cancelled if it was, or a scope from which it derives. -/
  cancelled : ∀ k x, (r.hub k).scopes.isCancelled x = true ↔
    ∃ c < k, ∃ a, r.Cancels c a ∧ (r.hub k).scopes.Descends a x
  /-- In a delivery the turn of those comes who were registered before it began, with a scope that
  was not cancelled then and is not when it begins. -/
  turn_of : ∀ {n d event τ reg}, r.Begins n d event → r.Turn n τ reg → d < τ ∧
    (∃ m < d, r.enrolled? m = some reg) ∧ (r.hub d).scopes.isCancelled reg.scope = false
  /-- When it is over, the turn of all of them has come. -/
  exists_turn : ∀ {n d event m k reg}, r.Begins n d event → m < d → r.enrolled? m = some reg →
    (r.hub d).scopes.isCancelled reg.scope = false → d < k → r.waiting n k = [] →
      ∃ τ < k, r.Turn n τ reg
  /-- In its turn, and only then, a handler is called whose scope is still not cancelled. -/
  call_iff : ∀ {n d event τ reg}, r.Begins n d event → (r.call? τ = some ⟨n, event, reg⟩ ↔
    r.Turn n τ reg ∧ (r.hub τ).scopes.isCancelled reg.scope = false)
  /-- Handlers are called by deliveries that have begun. -/
  call_begun : ∀ {τ call}, r.call? τ = some call →
    ∃ d < τ, r.Begins call.delivery d call.event
  /-- A turn comes once. -/
  turn_once : ∀ {n τ τ' reg}, r.Turn n τ reg → r.Turn n τ' reg → τ = τ'
  /-- Handlers are called in the order of their registration. -/
  ordered : ∀ {n event event' τ τ' reg reg'}, r.call? τ = some ⟨n, event, reg⟩ →
    r.call? τ' = some ⟨n, event', reg'⟩ →
      (τ < τ' ↔ reg.handler.position < reg'.handler.position)
  /-- A handler that is registered in the course of a delivery is not called by it. -/
  late : ∀ {n d event m τ reg}, r.Begins n d event → d < m → r.enrolled? m = some reg →
    r.call? τ ≠ some ⟨n, event, reg⟩
  /-- By a delivery that begins later it is, if its scope is not cancelled in its course. -/
  reached : ∀ {n d event m k reg}, r.Begins n d event → m < d → r.enrolled? m = some reg →
    d < k → r.waiting n k = [] → (r.hub k).scopes.isCancelled reg.scope = false →
      ∃ τ < k, r.call? τ = some ⟨n, event, reg⟩
  /-- Nobody is called whose scope was cancelled before, or a scope from which it derives. -/
  stopped : ∀ {c a τ call}, r.Cancels c a → c < τ → r.call? τ = some call →
    ¬ (r.hub τ).scopes.Descends a call.listener.scope
  /-- Those are counted who were registered with a scope that was not cancelled then and is not
  now. -/
  count : ∀ k, (r.hub k).liveCount = (r.queue k).length
  /-- A list from which nobody was ever dropped would hold all who were registered, and it would
  call and count the same. -/
  untidied : ∀ k, (r.ledger k).listeners.registrations = r.roster k ∧
    r.moves[k]?.bind (r.ledger k).call? = r.call? k ∧ (r.ledger k).liveCount = (r.hub k).liveCount

variable {r} {n d k l m τ τ' c : Nat} {event event' : E} {reg reg' : Registration (Placed H)}
  {a : ScopeId}

/-! ### Who waits -/

theorem Begins.delivery (hb : r.Begins n d event) :
    (r.hub (d + 1)).deliveries[n]? = some ⟨event, r.queue d⟩ := by
  obtain ⟨hmove, rfl⟩ := hb
  rw [hub_succ hmove, ← live_eq_queue]
  exact List.getElem?_concat_length

theorem delivery_of_turn (h : r.moves[k]? = some (.turn n)) :
    (r.hub (k + 1)).deliveries[n]? =
      (r.hub k).deliveries[n]?.map (·.next (r.hub k).scopes) := by
  rw [hub_succ h]
  simp [Hub.move, Hub.act]

/-- What is no turn of a delivery leaves it as it is. -/
theorem delivery_of_rest (hbegins : ∀ event, ¬ r.Begins n k event)
    (hturn : r.moves[k]? ≠ some (.turn n)) :
    (r.hub (k + 1)).deliveries[n]? = (r.hub k).deliveries[n]? := by
  cases hm : r.moves[k]? with
  | none => rw [hub_succ_of_none hm]
  | some m =>
    rw [hub_succ hm]
    cases m with
    | deliver event =>
      have hne : (r.hub k).deliveries.length ≠ n := fun hn => hbegins event ⟨hm, hn⟩
      show (_ ++ [_])[n]? = _
      rcases Nat.lt_or_gt_of_ne hne with hlt | hgt
      · rw [List.getElem?_eq_none (by simp; omega), List.getElem?_eq_none (by omega)]
      · rw [List.getElem?_append_left hgt]
    | turn n' =>
      have hne : n' ≠ n := fun hn => hturn (hn ▸ hm)
      simp [Hub.move, Hub.act, hne]
    | _ => rfl

theorem waiting_of_delivery {ds : Delivery H E} (h : (r.hub k).deliveries[n]? = some ds) :
    r.waiting n k = ds.waiting := by
  simp [waiting, h]

theorem Begins.waiting (hb : r.Begins n d event) : r.waiting n (d + 1) = r.queue d :=
  waiting_of_delivery hb.delivery

theorem left_suffix (r : Usage H E) (n k : Nat) : r.left n k <:+ r.waiting n k :=
  List.dropWhile_suffix _

/-- A turn is over for the first who is left, and for those who are gone before. -/
theorem waiting_of_turn (h : r.moves[k]? = some (.turn n)) :
    r.waiting n (k + 1) = (r.left n k).tail := by
  unfold left waiting
  rw [delivery_of_turn h]
  cases (r.hub k).deliveries[n]? with
  | none => rfl
  | some ds => rfl

/-- A delivery that has begun is known from then on, and fewer and fewer wait. -/
theorem Begins.later (hb : r.Begins n d event) (hdk : d < k) :
    (r.hub k).deliveries[n]? = some ⟨event, r.waiting n k⟩ ∧
      r.waiting n (k + 1) <:+ r.waiting n k := by
  have hsuffix : ∀ k, (∃ w, (r.hub k).deliveries[n]? = some ⟨event, w⟩) →
      (∃ w, (r.hub (k + 1)).deliveries[n]? = some ⟨event, w⟩) ∧
        r.waiting n (k + 1) <:+ r.waiting n k := by
    intro k hk
    obtain ⟨w, hw⟩ := hk
    by_cases hturn : r.moves[k]? = some (.turn n)
    · refine ⟨⟨_, by rw [delivery_of_turn hturn, hw]; rfl⟩, ?_⟩
      rw [waiting_of_turn hturn]
      exact (List.tail_suffix _).trans (r.left_suffix n k)
    · have hlt : n < (r.hub k).deliveries.length := (List.getElem?_eq_some_iff.mp hw).1
      have hsame : (r.hub (k + 1)).deliveries[n]? = (r.hub k).deliveries[n]? :=
        delivery_of_rest (fun event hb => Nat.ne_of_gt hlt hb.2) hturn
      refine ⟨⟨w, hsame.trans hw⟩, ?_⟩
      simp [Usage.waiting, hsame]
  have hknown : ∃ w, (r.hub k).deliveries[n]? = some ⟨event, w⟩ := by
    induction hdk with
    | refl => exact ⟨_, hb.delivery⟩
    | step _ ih => exact (hsuffix _ ih).1
  obtain ⟨w, hw⟩ := hknown
  refine ⟨?_, (hsuffix k ⟨w, hw⟩).2⟩
  rw [waiting_of_delivery hw]
  exact hw

theorem Begins.suffix (hb : r.Begins n d event) (hdk : d < k) (hkl : k ≤ l) :
    r.waiting n l <:+ r.waiting n k := by
  induction hkl with
  | refl => exact List.suffix_rfl
  | @step l hkl ih => exact (hb.later (Nat.lt_of_lt_of_le hdk hkl)).2.trans ih

/-- Who waits was in the queue when the delivery began. -/
theorem Begins.suffix_queue (hb : r.Begins n d event) (hdk : d < k) :
    r.waiting n k <:+ r.queue d :=
  hb.waiting ▸ hb.suffix (Nat.lt_succ_self d) hdk

/-- Deliveries that are known have begun. -/
theorem exists_begins {ds : Delivery H E} (h : (r.hub k).deliveries[n]? = some ds) :
    ∃ d < k, r.Begins n d ds.event := by
  induction k generalizing ds with
  | zero => cases h
  | succ k ih =>
    by_cases hbegins : ∃ event, r.Begins n k event
    · obtain ⟨event, hb⟩ := hbegins
      cases hb.delivery.symm.trans h
      exact ⟨k, Nat.lt_succ_self k, hb⟩
    · by_cases hturn : r.moves[k]? = some (.turn n)
      · rw [delivery_of_turn hturn] at h
        obtain ⟨before, hbefore, rfl⟩ := Option.map_eq_some_iff.mp h
        obtain ⟨d, hdk, hb⟩ := ih hbefore
        exact ⟨d, Nat.lt_succ_of_lt hdk, hb⟩
      · rw [delivery_of_rest (fun event hb => hbegins ⟨event, hb⟩) hturn] at h
        obtain ⟨d, hdk, hb⟩ := ih h
        exact ⟨d, Nat.lt_succ_of_lt hdk, hb⟩

theorem exists_begins_of_waiting (h : reg ∈ r.waiting n k) :
    ∃ d < k, ∃ event, r.Begins n d event := by
  cases hds : (r.hub k).deliveries[n]? with
  | none => simp [waiting, hds] at h
  | some ds =>
    obtain ⟨d, hdk, hb⟩ := exists_begins hds
    exact ⟨d, hdk, ds.event, hb⟩

theorem Begins.unique {d' : Nat} (hb : r.Begins n d event) (hb' : r.Begins n d' event') :
    d = d' := by
  have hlt : ∀ {d d' event event'}, r.Begins n d event → r.Begins n d' event' → ¬ d < d' := by
    intro d d' event event' hb hb' hdd'
    obtain ⟨hlt, -⟩ := List.getElem?_eq_some_iff.mp (hb.later hdd').1
    exact Nat.ne_of_gt hlt hb'.2
  exact Nat.le_antisymm (Nat.not_lt.mp (hlt hb' hb)) (Nat.not_lt.mp (hlt hb hb'))

/-! ### Turns -/

theorem Turn.after (ht : r.Turn n τ reg) (hb : r.Begins n d event) : d < τ := by
  obtain ⟨d', hdτ, event', hb'⟩ := exists_begins_of_waiting ht.waits
  exact hb.unique hb' ▸ hdτ

theorem Turn.mem_queue (ht : r.Turn n τ reg) (hb : r.Begins n d event) : reg ∈ r.queue d :=
  (hb.suffix_queue (ht.after hb)).subset ht.waits

theorem Turn.not_lt (ht : r.Turn n τ reg) (ht' : r.Turn n τ' reg) : ¬ τ < τ' := by
  intro hlt
  obtain ⟨d, hdτ, event, hb⟩ := exists_begins_of_waiting ht.waits
  exact ht.passed ((hb.suffix (Nat.lt_succ_of_lt hdτ) hlt).subset ht'.waits)

theorem Turn.once (ht : r.Turn n τ reg) (ht' : r.Turn n τ' reg) : τ = τ' :=
  Nat.le_antisymm (Nat.not_lt.mp (ht'.not_lt ht)) (Nat.not_lt.mp (ht.not_lt ht'))

/-- Between the begin of a delivery and its end the turn of everybody comes who waits. -/
theorem Begins.exists_turn (hb : r.Begins n d event) (hdk : d < k) (hover : r.waiting n k = [])
    (hreg : reg ∈ r.queue d) : ∃ τ < k, r.Turn n τ reg := by
  -- At the first position at which the listener does not wait any more it has had its turn.
  have hgone : reg ∉ r.waiting n k := by simp [hover]
  clear hover
  induction hdk with
  | refl => exact absurd (hb.waiting ▸ hreg) hgone
  | @step k hdk ih =>
    by_cases hwaits : reg ∈ r.waiting n k
    · refine ⟨k, Nat.lt_succ_self k, ?_, hwaits, hgone⟩
      refine Classical.byContradiction fun hturn => hgone ?_
      have hlt := (List.getElem?_eq_some_iff.mp (hb.later hdk).1).1
      have hsame := delivery_of_rest (fun event hb' => Nat.ne_of_gt hlt hb'.2) hturn
      simpa only [Usage.waiting, hsame] using hwaits
    · obtain ⟨τ, hτk, ht⟩ := ih hwaits
      exact ⟨τ, Nat.lt_succ_of_lt hτk, ht⟩

/-! ### Calls -/

/-- The first who is left is live. -/
theorem live_of_left {rest : List (Registration (Placed H))} (h : r.left n τ = reg :: rest) :
    (r.hub τ).scopes.isCancelled reg.scope = false := by
  unfold left at h
  have hhead := List.head?_dropWhile_not
    (fun reg : Registration (Placed H) => (r.hub τ).scopes.isCancelled reg.scope) (r.waiting n τ)
  rw [h] at hhead
  simpa using hhead

/-- Who is live is not passed over. -/
theorem mem_left (hreg : reg ∈ r.waiting n τ)
    (hlive : (r.hub τ).scopes.isCancelled reg.scope = false) : reg ∈ r.left n τ := by
  unfold left
  generalize r.waiting n τ = regs at hreg
  induction regs with
  | nil => cases hreg
  | cons first rest ih =>
    rw [List.dropWhile_cons]
    split
    next hgone =>
      rcases List.mem_cons.mp hreg with rfl | hreg
      · rw [hlive] at hgone; cases hgone
      · exact ih hreg
    next => exact hreg

/-- Who is called is the first who is left. -/
theorem Begins.call?_eq (hb : r.Begins n d event) (hdτ : d < τ)
    (hturn : r.moves[τ]? = some (.turn n)) :
    r.call? τ = (r.left n τ).head?.map (⟨n, event, ·⟩) := by
  simp only [call?, hturn, Option.bind_some, Hub.call?, (hb.later hdτ).1]
  rfl

theorem call?_eq_some {call : Call H E} (h : r.call? τ = some call) :
    r.moves[τ]? = some (.turn call.delivery) ∧ ∃ d < τ, r.Begins call.delivery d call.event := by
  obtain ⟨m, hm, hcall⟩ := Option.bind_eq_some_iff.mp h
  cases m with
  | turn n =>
    obtain ⟨ds, hds, hcall⟩ := Option.bind_eq_some_iff.mp hcall
    obtain ⟨reg, -, rfl⟩ := Option.map_eq_some_iff.mp hcall
    exact ⟨hm, exists_begins hds⟩
  | _ => cases hcall

/-- A call is that of the first who is left, and those who wait from then on come after. -/
theorem Begins.called (hb : r.Begins n d event) (h : r.call? τ = some ⟨n, event, reg⟩) :
    r.moves[τ]? = some (.turn n) ∧ r.left n τ = reg :: r.waiting n (τ + 1) := by
  obtain ⟨hturn, d', hdτ, hb'⟩ := call?_eq_some h
  obtain rfl := hb.unique hb'
  rw [hb.call?_eq hdτ hturn, Option.map_eq_some_iff] at h
  obtain ⟨first, hfirst, hcall⟩ := h
  cases hcall
  refine ⟨hturn, ?_⟩
  obtain ⟨rest, hrest⟩ := List.head?_eq_some_iff.mp hfirst
  rw [waiting_of_turn hturn, hrest]
  rfl

/-- Those who wait after a call were registered later than who is called. -/
theorem Begins.lt_of_called (hb : r.Begins n d event) (h : r.call? τ = some ⟨n, event, reg⟩)
    (hreg' : reg' ∈ r.waiting n (τ + 1)) : reg.handler.position < reg'.handler.position := by
  obtain ⟨-, hleft⟩ := hb.called h
  obtain ⟨-, d', hdτ, hb'⟩ := call?_eq_some h
  obtain rfl := hb.unique hb'
  have hsorted := (r.queue_sorted d).sublist
    ((r.left_suffix n τ).trans (hb.suffix_queue hdτ)).sublist
  rw [hleft] at hsorted
  exact List.rel_of_pairwise_cons hsorted hreg'

theorem Begins.turn_of_called (hb : r.Begins n d event)
    (h : r.call? τ = some ⟨n, event, reg⟩) : r.Turn n τ reg := by
  obtain ⟨hturn, hleft⟩ := hb.called h
  refine ⟨hturn, (r.left_suffix n τ).subset (hleft ▸ List.mem_cons_self ..), fun hreg => ?_⟩
  exact Nat.lt_irrefl _ (hb.lt_of_called h hreg)

theorem Begins.call_iff (hb : r.Begins n d event) : r.call? τ = some ⟨n, event, reg⟩ ↔
    r.Turn n τ reg ∧ (r.hub τ).scopes.isCancelled reg.scope = false := by
  constructor
  · intro h
    exact ⟨hb.turn_of_called h, live_of_left (hb.called h).2⟩
  · intro h
    obtain ⟨ht, hlive⟩ := h
    rw [hb.call?_eq (ht.after hb) ht.turn]
    have hmem := mem_left ht.waits hlive
    have hpassed := waiting_of_turn ht.turn ▸ ht.passed
    cases hleft : r.left n τ with
    | nil => rw [hleft] at hmem; cases hmem
    | cons first rest =>
      rw [hleft] at hmem hpassed
      rcases List.mem_cons.mp hmem with rfl | hrest
      · rfl
      · exact absurd hrest hpassed

/-- Who is called later in a delivery was registered later. -/
theorem position_lt_of_lt (h : r.call? τ = some ⟨n, event, reg⟩)
    (h' : r.call? τ' = some ⟨n, event', reg'⟩) (hlt : τ < τ') :
    reg.handler.position < reg'.handler.position := by
  obtain ⟨-, d, hdτ, hb⟩ := call?_eq_some h
  obtain ⟨-, d', -, hb'⟩ := call?_eq_some h'
  have hwaits := (hb'.turn_of_called h').waits
  exact hb.lt_of_called h ((hb.suffix (Nat.lt_succ_of_lt hdτ) hlt).subset hwaits)

theorem lt_iff_position_lt (h : r.call? τ = some ⟨n, event, reg⟩)
    (h' : r.call? τ' = some ⟨n, event', reg'⟩) :
    τ < τ' ↔ reg.handler.position < reg'.handler.position := by
  refine ⟨position_lt_of_lt h h', fun hposition => ?_⟩
  rcases Nat.lt_trichotomy τ τ' with hlt | rfl | hgt
  · exact hlt
  · cases h.symm.trans h'
    exact absurd hposition (Nat.lt_irrefl _)
  · exact absurd hposition (Nat.lt_asymm (position_lt_of_lt h' h hgt))

/-! ### The law -/

theorem Begins.not_called (hb : r.Begins n d event) (hdm : d < m)
    (hm : r.enrolled? m = some reg) : r.call? τ ≠ some ⟨n, event, reg⟩ := by
  intro h
  obtain ⟨⟨m', hm'd, hm'⟩, -⟩ := mem_queue.mp ((hb.turn_of_called h).mem_queue hb)
  have hposition := (position_of_enrolled? hm).symm.trans (position_of_enrolled? hm')
  exact Nat.lt_asymm hdm (hposition ▸ hm'd)

theorem Begins.reaches (hb : r.Begins n d event) (hmd : m < d) (hm : r.enrolled? m = some reg)
    (hdk : d < k) (hover : r.waiting n k = [])
    (hlive : (r.hub k).scopes.isCancelled reg.scope = false) :
    ∃ τ < k, r.call? τ = some ⟨n, event, reg⟩ := by
  -- Who is live in the end is so when the delivery begins, and when the turn comes.
  have hbefore : ∀ {l}, l ≤ k → (r.hub l).scopes.isCancelled reg.scope = false := by
    intro l hlk
    rw [Bool.eq_false_iff] at hlive ⊢
    exact fun hgone => hlive (r.persists hlk _ hgone)
  have hqueue := mem_queue.mpr ⟨⟨m, hmd, hm⟩, hbefore (Nat.le_of_lt hdk)⟩
  obtain ⟨τ, hτk, ht⟩ := hb.exists_turn hdk hover hqueue
  exact ⟨τ, hτk, hb.call_iff.mpr ⟨ht, hbefore (Nat.le_of_lt hτk)⟩⟩

theorem not_descends_of_called {call : Call H E} (hc : r.Cancels c a) (hcτ : c < τ)
    (h : r.call? τ = some call) : ¬ (r.hub τ).scopes.Descends a call.listener.scope := by
  intro hdescends
  obtain ⟨-, d, -, hb⟩ := call?_eq_some h
  have hlive := (hb.call_iff.mp h).2
  rw [(r.cancelled_iff τ _).mpr ⟨c, hcτ, a, hc, hdescends⟩] at hlive
  cases hlive

theorem liveCount_eq (r : Usage H E) (k : Nat) : (r.hub k).liveCount = (r.queue k).length :=
  congrArg List.length (r.live_eq_queue k)

theorem untidied (r : Usage H E) (k : Nat) :
    (r.ledger k).listeners.registrations = r.roster k ∧
      r.moves[k]?.bind (r.ledger k).call? = r.call? k ∧
      (r.ledger k).liveCount = (r.hub k).liveCount := by
  refine ⟨r.registrations_ledger k, ?_, (r.alike k).liveCount_eq⟩
  unfold call?
  cases r.moves[k]? with
  | none => rfl
  | some m => exact (r.alike k).call?_eq m

theorem law (r : Usage H E) : r.Law where
  cancelled := r.cancelled_iff
  turn_of hb ht := ⟨ht.after hb, mem_queue.mp (ht.mem_queue hb)⟩
  exists_turn hb hmd hm hlive hdk hover :=
    hb.exists_turn hdk hover (mem_queue.mpr ⟨⟨_, hmd, hm⟩, hlive⟩)
  call_iff hb := hb.call_iff
  call_begun h := (call?_eq_some h).2
  turn_once ht ht' := ht.once ht'
  ordered h h' := lt_iff_position_lt h h'
  late hb hdm hm := hb.not_called hdm hm
  reached hb hmd hm hdk hover hlive := hb.reaches hmd hm hdk hover hlive
  stopped hc hcτ h := not_descends_of_called hc hcτ h
  count := r.liveCount_eq
  untidied := r.untidied

end PagePilot.Listeners.Usage
