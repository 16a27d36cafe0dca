import PagePilot.Proofs.Barrier.Holding
import PagePilot.Proofs.Operation.Load
/-!
# PagePilot.Proofs.Barrier.Accounting

The number of listeners on a page. As long as no recorder listens there, it is the number
of barriers that still have something to wait for: those that are not matched and not
released, that somebody has a half of, and whose context is not cancelled (`Run.Live`).
`Run.listeners_accounted` puts together what follows for operations on a page and for
those who release a barrier twice.
-/

namespace PagePilot

open Wire

/-! ### Pages without recorders -/

/-- Only barriers listen on a page. -/
def Board.BarriersOnly (b : Board) (page : PageKey) : Prop :=
  ∀ l, b.listeners page = some l → ∀ reg ∈ l.registrations, reg.handler.key?.isSome = true

namespace Board.BarriersOnly

variable {b : Board} {page : PageKey}

theorem congr {b' : Board} (h : b.BarriersOnly page) (heq : b'.listeners = b.listeners) :
    b'.BarriersOnly page := by
  intro l hl
  rw [heq] at hl
  exact h l hl

theorem onPage (h : b.BarriersOnly page) (page' : PageKey)
    {f : Listeners Handler → Listeners Handler}
    (hf : page = page' → ∀ l reg, reg ∈ (f l).registrations →
      reg ∈ l.registrations ∨ reg.handler.key?.isSome = true) :
    (b.onPage page' f).BarriersOnly page := by
  intro l hl reg hreg
  simp only [Board.onPage] at hl
  split at hl
  next hpage =>
    obtain ⟨l', hl', rfl⟩ := Option.map_eq_some_iff.mp hl
    rcases hf hpage l' reg hreg with hold | hkey
    · exact h l' hl' reg hold
    · exact hkey
  next => exact h l hl reg hreg

end Board.BarriersOnly

namespace World

variable {w : World} {page : PageKey}

theorem openPage_barriersOnly (h : w.board.BarriersOnly page) (session : Option SessionId)
    (frame : Option FrameId) (holder : Holder) :
    (w.openPage session frame holder).board.BarriersOnly page := by
  intro l hl reg hreg
  rcases listeners_openPage hl with hl | rfl
  · exact h l hl reg hreg
  · cases hreg

/-- Only a recorder that listens on a page makes it a page with recorders. -/
theorem apply_barriersOnly {armed : BarrierKey → Arming → Prop} {released : BarrierKey → Prop}
    {cancelled : ScopeId → Prop} {t : Transition} (hw : w.Sound armed released cancelled)
    (h : w.board.BarriersOnly page) (ht : ∀ scope recorder, t ≠ .listen page scope recorder) :
    (w.apply t).board.BarriersOnly page := by
  obtain ⟨w₀, w₁, h₀, hstep, h₁⟩ := (apply_board w t).step
  have htidy := hw.tidy
  have hregistered := hw.registered
  rw [← h₀] at h htidy hregistered
  rw [h₁]
  cases hstep with
  | rest | newScope | cancel | give | loosen => exact h.congr rfl
  | openPage session frame holder => exact openPage_barriersOnly h session frame holder
  | release key => exact h.congr (release_listeners ..)
  | retire => exact h.congr (dropHoldings_listeners ..)
  | @arm a holder =>
    rw [arm_board]
    refine Board.BarriersOnly.onPage (b := w₀.unheard a.ctx holder) h a.page ?_
    intro _ l reg hreg
    rcases Board.Registered.mem_listen.mp hreg with ⟨hold, -⟩ | ⟨rfl, -⟩
    · exact .inl hold
    · exact .inr rfl
  | listen page' scope recorder heq =>
    rw [listen_board]
    refine h.onPage page' ?_
    intro hpage
    subst hpage
    exact absurd heq (ht scope recorder)
  | @deliver page' event =>
    obtain ⟨-, hlisteners⟩ := deliver_matches htidy page' event fun l hl => hregistered.place hl
    refine (h.onPage page' (f := (·.prune w₀.scopes)) fun _ l reg hreg => ?_).congr hlisteners
    exact .inl (List.mem_filter.mp hreg).1

end World

/-! ### Live barriers -/

namespace Run

variable (r : Run)

/-- A barrier has something to wait for on a page: it was armed there under a context that
was not cancelled, and nothing has freed it since. -/
structure Live (k : Nat) (page : PageKey) (key : BarrierKey) : Prop where
  armed : ∃ m < k, ∃ a, r.Arms m key a ∧ a.page = page ∧ ¬ r.Cancelled m a.ctx.scope ∧
    ¬ r.Cancelled k a.ctx.scope
  unreleased : ¬ r.Released k key
  /-- It is not matched, and one of its halves is still there. -/
  pending : ∃ x : Barrier, (r.world k).barriers[key]? = some x ∧ x.matched = false ∧
    (x.waitHolder.isSome ∨ x.releaseHolder.isSome)

variable {r} {k m j : Nat} {page : PageKey} {key : BarrierKey} {task : TaskId}

theorem abandoned_eq_false_iff {x : Barrier} :
    x.abandoned = false ↔ x.waitHolder.isSome ∨ x.releaseHolder.isSome := by
  unfold Barrier.abandoned
  cases x.waitHolder <;> cases x.releaseHolder <;> simp

/-- The listener of a live barrier is there. -/
theorem Live.not_cancelled (hr : r.Admissible) (h : r.Live k page key) {x : Barrier}
    (hx : (r.world k).barriers[key]? = some x) :
    (r.world k).scopes.isCancelled x.scope = false := by
  obtain ⟨m, hmk, a, ha, -, -, hctx⟩ := h.armed
  obtain ⟨y, hy, hmatched, hheld⟩ := h.pending
  cases hx.symm.trans hy
  have hxctx := (ha.barrier hr hmk (Nat.le_refl k) hx).2
  refine Bool.eq_false_iff.mpr ?_
  intro hcancelled
  rcases (isCancelled_barrier hr hx).mp hcancelled with
    hmatched' | hreleased | habandoned | hcancelled'
  · exact Bool.false_ne_true (hmatched.symm.trans hmatched')
  · exact h.unreleased hreleased
  · exact Bool.false_ne_true ((abandoned_eq_false_iff.mpr hheld).symm.trans habandoned)
  · exact hctx (hxctx ▸ hcancelled')

theorem listeners_of_page {p : PageState} (h : (r.world k).pages[page]? = some p) :
    (r.world k).board.listeners page = some p.listeners := by
  simp [World.board, h]

/-- The live barriers on a page are those whose listeners are there. -/
theorem live_iff (hr : r.Admissible) {l : Listeners Handler}
    (hl : (r.world k).board.listeners page = some l) :
    r.Live k page key ↔ key ∈ (l.live (r.world k).scopes).filterMap fun reg => reg.handler.key? := by
  have hsound := sound hr k
  constructor
  · intro h
    obtain ⟨m, hmk, a, ha, rfl, -, -⟩ := h.armed
    obtain ⟨x, hx, -⟩ := h.pending
    obtain ⟨hplace, -⟩ := ha.barrier hr hmk (Nat.le_refl k) hx
    have hlive := h.not_cancelled hr hx
    obtain ⟨l', hl', hreg⟩ := hsound.registered.kept key a x.scope ⟨m, hmk, ha⟩ hplace hlive
    cases hl.symm.trans hl'
    exact List.mem_filterMap.mpr ⟨_, List.mem_filter.mpr ⟨hreg, by simpa using hlive⟩, rfl⟩
  · intro h
    obtain ⟨reg, hreg, hkey⟩ := List.mem_filterMap.mp h
    obtain ⟨hreg, hlive⟩ := List.mem_filter.mp hreg
    have hlive : (r.world k).scopes.isCancelled reg.scope = false := by simpa using hlive
    cases hhandler : reg.handler with
    | recorder name => simp [hhandler, Handler.key?] at hkey
    | barrier key' wanted =>
      simp only [hhandler, Handler.key?, Option.some.injEq] at hkey
      subst hkey
      obtain ⟨ctx, hplace, m, hmk, ha⟩ := hsound.registered.known page l reg _ wanted hl hreg hhandler
      obtain ⟨x, hx, hscope, hctx⟩ := World.barrier_of_place? hplace
      rw [← hscope] at hlive
      -- The listener is live, so none of the reasons to free its barrier has come up.
      have hnot := fun h => Bool.false_ne_true (hlive.symm.trans ((isCancelled_barrier hr hx).mpr h))
      have hcontext : ¬ r.Cancelled k ctx.scope := fun h => hnot (.inr (.inr (.inr (hctx ▸ h))))
      refine ⟨⟨m, hmk, _, ha, rfl, fun hm => hcontext ?_, hcontext⟩,
        fun h => hnot (.inr (.inl h)), x, hx, Bool.eq_false_iff.mpr fun h => hnot (.inl h),
        abandoned_eq_false_iff.mp (Bool.eq_false_iff.mpr fun h => hnot (.inr (.inr (.inl h))))⟩
      obtain ⟨t, ht, harming, -⟩ := ha
      have hknown := (sound hr m).isContext_of_arming (hr.step m t ht) harming
      rw [← isCancelled_context hr (isContext_mono hr (Nat.le_of_lt hmk) hknown)]
      exact isCancelled_mono hr (Nat.le_of_lt hmk) ((isCancelled_context hr hknown).mpr hm)

theorem barriersOnly (hr : r.Admissible)
    (hlisten : ∀ c < k, ∀ scope name, r.transitions[c]? ≠ some (.listen page scope name)) :
    (r.world k).board.BarriersOnly page := by
  induction k with
  | zero =>
    obtain ⟨refused, network, hstart⟩ := hr.initial
    rw [world_zero, hstart]
    exact nofun
  | succ k ih =>
    have hk := ih fun c hc => hlisten c (Nat.lt_succ_of_lt hc)
    cases ht : r.transitions[k]? with
    | none => exact (world_succ_of_none ht) ▸ hk
    | some t =>
      rw [world_succ ht]
      refine World.apply_barriersOnly (sound hr k) hk ?_
      intro scope name heq
      exact hlisten k (Nat.lt_succ_self k) scope name (heq ▸ ht)

/-- The listeners on a page are counted by the barriers that are live there. -/
theorem liveCount_eq (hr : r.Admissible) {p : PageState}
    (hp : (r.world k).pages[page]? = some p)
    (hlisten : ∀ c < k, ∀ scope name, r.transitions[c]? ≠ some (.listen page scope name)) :
    ∃ keys : List BarrierKey, keys.Nodup ∧ (∀ key, key ∈ keys ↔ r.Live k page key) ∧
      p.listeners.liveCount (r.world k).scopes = keys.length := by
  have hl := listeners_of_page hp
  refine ⟨(p.listeners.live (r.world k).scopes).filterMap fun reg => reg.handler.key?,
    ?_, fun key => (live_iff hr hl).symm, ?_⟩
  · exact ((sound hr k).registered.once page _ hl).sublist (List.filter_sublist.filterMap _)
  · refine (List.filterMap_length_eq_length.mpr fun reg hreg => ?_).symm
    exact barriersOnly hr hlisten _ hl reg (List.mem_filter.mp hreg).1

/-! ### The ways out -/

/-- What a task has let go of is not live any more. -/
theorem not_live_of_letsGo (hr : r.Admissible) {page' : PageKey} {ctx : Context}
    {milestone : String} (h : r.Does m task (.arm page' ctx milestone) key) (hmj : m < j)
    (hgoes : r.LetsGo m j task key) (hjk : j ≤ k) : ¬ r.Live k page key := by
  intro hlive
  obtain ⟨state, hstate⟩ := task_mono (Nat.le_of_lt hmj) h.running.choose_spec
  obtain ⟨x, hx, -, hiff⟩ := holding hr h (Nat.lt_of_lt_of_le hmj hjk)
  have habandoned := hiff.mpr (hgoes.mono hjk hstate)
  obtain ⟨y, hy, -, hheld⟩ := hlive.pending
  cases hx.symm.trans hy
  exact Bool.false_ne_true ((abandoned_eq_false_iff.mpr hheld).symm.trans habandoned)

/-- A part of a program that lets go of its barriers has done so when it has its result. -/
theorem Runs.letsGo {i : Nat} {p : Program α} {x : α} (h : r.Runs task i p j (.done x))
    (hp : p.LetsGo) (him : i ≤ m) (hmj : m < j) {page' : PageKey} {ctx : Context}
    {milestone : String} (harm : r.Does m task (.arm page' ctx milestone) key) :
    r.LetsGo m j task key := by
  have hpath := deeds_at (d := ⟨.arm page' ctx milestone, key⟩) him hmj harm
  have hmem := hp _ x h.leads _ page' ctx milestone key _ hpath
  obtain ⟨c, hmc, hcj, hc⟩ := mem_deeds.mp hmem
  exact .inl ⟨c, hmc, hcj, hc⟩

/-- Releasing a barrier whose listener is gone changes nothing. -/
theorem world_of_release_again (hr : r.Admissible) (h : r.transitions[k]? = some (.release key))
    (hgone : r.Released k key ∨
      ∃ x : Barrier, (r.world k).barriers[key]? = some x ∧ x.matched = true) :
    r.world (k + 1) = r.world k := by
  rw [world_succ h]
  show (r.world k).release key = r.world k
  unfold World.release
  cases hx : (r.world k).barriers[key]? with
  | none => rfl
  | some x =>
    have hcancelled : (r.world k).scopes.isCancelled x.scope = true := by
      refine (isCancelled_barrier hr hx).mpr ?_
      rcases hgone with hreleased | ⟨y, hy, hmatched⟩
      · exact .inr (.inl hreleased)
      · cases hx.symm.trans hy
        exact .inl hmatched
    have hsame : (r.world k).scopes.cancel x.scope = (r.world k).scopes :=
      Scopes.cancel_of_isCancelled (sound hr k).tidy.grown hcancelled
    exact congrArg (fun scopes => { r.world k with scopes }) hsame

/-! ### All together -/

variable (r) in
/-- The listeners on the pages of a run are accounted for. -/
structure Accounted : Prop where
  /-- On a page on which no recorder listens there are as many listeners as there are
  barriers that have something to wait for. -/
  counted : ∀ k page p, (r.world k).pages[page]? = some p →
    (∀ c < k, ∀ scope name, r.transitions[c]? ≠ some (.listen page scope name)) →
      ∃ keys : List BarrierKey, keys.Nodup ∧ (∀ key, key ∈ keys ↔ r.Live k page key) ∧
        p.listeners.liveCount (r.world k).scopes = keys.length
  /-- On any page, the barriers that listen are those that have something to wait for. -/
  listening : ∀ k page p, (r.world k).pages[page]? = some p → ∀ key, r.Live k page key ↔
    key ∈ (p.listeners.live (r.world k).scopes).filterMap fun reg => reg.handler.key?
  /-- When an operation on a page has its result, whichever it is, none of the barriers that
  it armed counts any more. -/
  ended : ∀ {α : Type} (page : Page) (ctx : Context) (op : Op α), page.Offers ctx op →
    ∀ task i j result, r.Runs task i op.run j (.done result) →
      ∀ m page' ctx' milestone key, i ≤ m → m < j →
        r.Does m task (.arm page' ctx' milestone) key →
          ∀ k page'', j ≤ k → ¬ r.Live k page'' key
  /-- When a task is gone, also because it was dropped half-way, none of the barriers that it
  armed counts any more. -/
  gone : ∀ task j, ¬ r.Running j task →
    ∀ m page' ctx' milestone key, m < j → r.Does m task (.arm page' ctx' milestone) key →
      ∀ k page'', j ≤ k → ¬ r.Live k page'' key
  /-- Releasing a barrier again, or after its match, changes nothing. -/
  again : ∀ k key, r.transitions[k]? = some (.release key) →
    (r.Released k key ∨ ∃ x : Barrier, (r.world k).barriers[key]? = some x ∧ x.matched = true) →
      r.world (k + 1) = r.world k

/-- In every run the listeners are accounted for, in whatever order barriers are matched,
released, let go of and cancelled. -/
theorem listeners_accounted (hr : r.Admissible) : r.Accounted where
  counted _ _ _ hp hlisten := liveCount_eq hr hp hlisten
  listening _ _ _ hp _ := live_iff hr (listeners_of_page hp)
  ended _ _ _ hop _ _ _ _ hruns _ _ _ _ _ him hmj harm _ _ hjk :=
    not_live_of_letsGo hr harm hmj (hruns.letsGo hop.letsGo him hmj harm) hjk
  gone _ _ hgone _ _ _ _ _ hmj harm _ _ hjk := not_live_of_letsGo hr harm hmj (.inr hgone) hjk
  again _ _ h hgone := world_of_release_again hr h hgone

/-- A barrier that is released twice, and beside it a navigation that is dropped half-way. -/
def droppedNavigation : Run where
  start := .initial [] .none
  transitions :=
    [.newScope none, .openPage none none, .arm 0 ⟨0, none⟩ fun _ => true,
      .spawn ((Page.navigate ⟨0, none⟩ ⟨0, none⟩ "about:blank").task .navigation),
      .step 0, .step 0, .abort 0, .release 0, .release 0]

theorem droppedNavigation_admissible : droppedNavigation.Admissible := by
  have horderly : ∀ known : ScopeId → Prop, known 0 →
      ((Page.navigate ⟨0, none⟩ ⟨0, none⟩ "about:blank").task .navigation).Orderly known :=
    fun known h => (Page.navigate_orderly _ _ h).bind fun _ => .done _
  refine admissible_of_admits ⟨trivial, trivial, ⟨by decide, by decide, nofun⟩,
    horderly _ ⟨by decide, by decide⟩, trivial, trivial, ?_, ?_, ?_, trivial⟩
  · rintro p hp
    cases hp
    exact .inl (((horderly (fun _ => True) trivial).follows.2 ()).2 1)
  · exact ⟨_, rfl, rfl⟩
  · exact ⟨_, rfl, rfl⟩

theorem listeners_accounted_droppedNavigation :
    droppedNavigation.Admissible ∧ droppedNavigation.Accounted ∧
      (List.range 10).map (fun k => (droppedNavigation.world k).pages.map fun p =>
        p.listeners.liveCount (droppedNavigation.world k).scopes) =
      [[], [], [0], [1], [1], [1], [2], [1], [0], [0]] :=
  ⟨droppedNavigation_admissible, listeners_accounted droppedNavigation_admissible, rfl⟩

end Run

end PagePilot
