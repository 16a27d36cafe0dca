import PagePilot.Proofs.Barrier.Delivery
/-!
# PagePilot.Proofs.Barrier.Registered

Who listens on a page. The listeners that barriers have registered are those of the
barriers that were armed on the page, each once, and none is missing while the scope of
its barrier is not cancelled (`Board.Registered`). Everything that can happen to a board
keeps it so.
-/

namespace PagePilot

open Wire

/-- The barrier that a handler matches. -/
def Handler.key? : Handler → Option BarrierKey
  | .barrier key _ => some key
  | .recorder _ => none

namespace Board

variable {b b' : Board} {armed : BarrierKey → Arming → Prop} {freed : BarrierKey → Prop}
  {key : BarrierKey} {page : PageKey} {scope : ScopeId} {ctx : Context}

/-- The listeners of barriers are those of the barriers that were armed. -/
structure Registered (b : Board) (armed : BarrierKey → Arming → Prop) : Prop where
  placed : ∀ key a, armed key a → ∃ scope, b.place? key = some (scope, a.ctx)
  known : ∀ page l reg key wanted, b.listeners page = some l → reg ∈ l.registrations →
    reg.handler = .barrier key wanted →
      ∃ ctx, b.place? key = some (reg.scope, ctx) ∧ armed key ⟨page, ctx, wanted⟩
  /-- A listener is there as long as it is not cancelled. -/
  kept : ∀ key a scope, armed key a → b.place? key = some (scope, a.ctx) →
    b.scopes.isCancelled scope = false →
      ∃ l, b.listeners a.page = some l ∧ ⟨scope, .barrier key a.wanted⟩ ∈ l.registrations
  once : ∀ page l, b.listeners page = some l →
    (l.registrations.filterMap fun reg => reg.handler.key?).Nodup

namespace Registered

theorem place (h : b.Registered armed) {l : Listeners Handler} (hl : b.listeners page = some l)
    (reg : Registration Handler) (hreg : reg ∈ l.registrations) (key : BarrierKey)
    (wanted : Event → Bool) (heq : reg.handler = .barrier key wanted) :
    ∃ ctx, b.place? key = some (reg.scope, ctx) := by
  obtain ⟨ctx, hplace, -⟩ := h.known page l reg key wanted hl hreg heq
  exact ⟨ctx, hplace⟩

theorem congr {armed' : BarrierKey → Arming → Prop} (h : b.Registered armed)
    (hiff : ∀ key a, armed key a ↔ armed' key a) : b.Registered armed' := by
  obtain rfl : armed = armed' := funext fun key => funext fun a => propext (hiff key a)
  exact h

/-- Scopes may be cancelled, and scopes and barriers be added. -/
theorem mono (h : b.Registered armed) (hlisteners : b'.listeners = b.listeners)
    (hplace : ∀ key p, b.place? key = some p → b'.place? key = some p)
    (hcancelled : ∀ key scope ctx, b.place? key = some (scope, ctx) →
      b'.scopes.isCancelled scope = false → b.scopes.isCancelled scope = false) :
    b'.Registered armed where
  placed key a ha := by
    obtain ⟨scope, hscope⟩ := h.placed key a ha
    exact ⟨scope, hplace key _ hscope⟩
  known page l reg key wanted hl hreg heq := by
    rw [hlisteners] at hl
    obtain ⟨ctx, hkey, ha⟩ := h.known page l reg key wanted hl hreg heq
    exact ⟨ctx, hplace key _ hkey, ha⟩
  kept key a scope ha hscope hlive := by
    obtain ⟨scope', hscope'⟩ := h.placed key a ha
    cases (hplace key _ hscope').symm.trans hscope
    rw [hlisteners]
    exact h.kept key a scope ha hscope' (hcancelled key scope a.ctx hscope' hlive)
  once page l hl := by
    rw [hlisteners] at hl
    exact h.once page l hl

theorem frees (h : b.Registered armed) (hfrees : b.Frees b' freed)
    (hlisteners : b'.listeners = b.listeners) : b'.Registered armed := by
  refine h.mono hlisteners (fun key p hp => (hfrees.place key).trans hp) ?_
  intro key scope ctx _ hlive
  refine Bool.eq_false_iff.mpr ?_
  intro hcancelled
  exact Bool.eq_false_iff.mp hlive ((hfrees.cancelled scope).mpr (.inl hcancelled))

/-- The listeners of a page may change, if those of barriers are dropped only when they are
cancelled. -/
theorem onPage (h : b.Registered armed) (page : PageKey)
    {f : Listeners Handler → Listeners Handler}
    (hsub : ∀ l reg, reg ∈ (f l).registrations → reg.handler.key? ≠ none →
      reg ∈ l.registrations)
    (hkept : ∀ l reg, reg ∈ l.registrations → b.scopes.isCancelled reg.scope = false →
      reg ∈ (f l).registrations)
    (honce : ∀ l, ((f l).registrations.filterMap fun reg => reg.handler.key?).Sublist
      (l.registrations.filterMap fun reg => reg.handler.key?)) :
    (b.onPage page f).Registered armed where
  placed := h.placed
  known page' l reg key wanted hl hreg heq := by
    simp only [Board.onPage] at hl
    split at hl
    · obtain ⟨l', hl', rfl⟩ := Option.map_eq_some_iff.mp hl
      exact h.known page' l' reg key wanted hl' (hsub l' reg hreg (by simp [heq, Handler.key?])) heq
    · exact h.known page' l reg key wanted hl hreg heq
  kept key a scope ha hscope hlive := by
    obtain ⟨l, hl, hreg⟩ := h.kept key a scope ha hscope hlive
    simp only [Board.onPage]
    split
    · exact ⟨f l, by rw [hl]; rfl, hkept l _ hreg hlive⟩
    · exact ⟨l, hl, hreg⟩
  once page' l hl := by
    simp only [Board.onPage] at hl
    split at hl
    · obtain ⟨l', hl', rfl⟩ := Option.map_eq_some_iff.mp hl
      exact (h.once page' l' hl').sublist (honce l')
    · exact h.once page' l hl

theorem prune (h : b.Registered armed) (page : PageKey) :
    (b.onPage page (·.prune b.scopes)).Registered armed := by
  refine h.onPage page (fun l reg hreg _ => (List.mem_filter.mp hreg).1) ?_ ?_
  · intro l reg hreg hlive
    exact List.mem_filter.mpr ⟨hreg, by simpa using hlive⟩
  · exact fun l => List.filter_sublist.filterMap _

theorem mem_listen {scopes : Scopes} {scope : ScopeId} {handler : Handler}
    {l : Listeners Handler} {reg : Registration Handler} :
    reg ∈ (l.listen scopes scope handler).registrations ↔
      (reg ∈ l.registrations ∧ scopes.isCancelled reg.scope = false) ∨
        (reg = ⟨scope, handler⟩ ∧ scopes.isCancelled scope = false) := by
  unfold Listeners.listen
  split
  · rename_i h
    simp [Listeners.prune, Listeners.live, h]
  · rename_i h
    simp [Listeners.live, h]

theorem keys_listen (scopes : Scopes) (scope : ScopeId) (handler : Handler)
    (l : Listeners Handler) :
    ((l.listen scopes scope handler).registrations.filterMap fun reg => reg.handler.key?).Sublist
      ((l.registrations.filterMap fun reg => reg.handler.key?) ++ handler.key?.toList) := by
  have hlive : ((l.live scopes).filterMap fun reg => reg.handler.key?).Sublist
      (l.registrations.filterMap fun reg => reg.handler.key?) :=
    List.filter_sublist.filterMap _
  unfold Listeners.listen
  split
  · exact hlive.trans (List.sublist_append_left ..)
  · simp only [List.filterMap_append]
    refine hlive.append ?_
    cases handler <;> simp [Handler.key?]

/-- A recorder may listen as well. -/
theorem listen_recorder (h : b.Registered armed) (page : PageKey) (scope : ScopeId)
    (name : String) :
    (b.onPage page (·.listen b.scopes scope (.recorder name))).Registered armed := by
  refine h.onPage page ?_ ?_ ?_
  · intro l reg hreg hkey
    rcases mem_listen.mp hreg with ⟨hreg, -⟩ | ⟨rfl, -⟩
    · exact hreg
    · exact absurd rfl hkey
  · exact fun l reg hreg hlive => mem_listen.mpr (.inl ⟨hreg, hlive⟩)
  · intro l
    have hkeys := keys_listen b.scopes scope (.recorder name) l
    rwa [show (Handler.recorder name).key?.toList = [] from rfl, List.append_nil] at hkeys

/-- A barrier that was not armed before may start to listen. -/
theorem listen_barrier (h : b.Registered armed) (hkey : ∀ a, ¬ armed key a)
    (hplace : b.place? key = some (scope, ctx)) (page : PageKey) (wanted : Event → Bool) :
    (b.onPage page (·.listen b.scopes scope (.barrier key wanted))).Registered
      fun key' a => armed key' a ∨
        (key' = key ∧ a = ⟨page, ctx, wanted⟩ ∧ (b.listeners page).isSome) where
  placed key' a ha := by
    rcases ha with ha | ⟨rfl, rfl, -⟩
    · exact h.placed key' a ha
    · exact ⟨scope, hplace⟩
  known page' l reg key' wanted' hl hreg heq := by
    -- What listened before was known before; what is new is the listener of the new barrier.
    have hold : ∀ l', b.listeners page' = some l' → reg ∈ l'.registrations →
        ∃ ctx', b.place? key' = some (reg.scope, ctx') ∧ (armed key' ⟨page', ctx', wanted'⟩ ∨
          (key' = key ∧ (⟨page', ctx', wanted'⟩ : Arming) = ⟨page, ctx, wanted⟩ ∧
            (b.listeners page).isSome)) := by
      intro l' hl' hreg'
      obtain ⟨ctx', hplace', ha⟩ := h.known page' l' reg key' wanted' hl' hreg' heq
      exact ⟨ctx', hplace', .inl ha⟩
    simp only [Board.onPage] at hl
    split at hl
    next hpage =>
      obtain ⟨l', hl', rfl⟩ := Option.map_eq_some_iff.mp hl
      rcases mem_listen.mp hreg with ⟨hreg', -⟩ | ⟨rfl, -⟩
      · exact hold l' hl' hreg'
      · cases heq
        cases hpage
        exact ⟨ctx, hplace, .inr ⟨rfl, rfl, by rw [hl']; rfl⟩⟩
    next => exact hold l hl hreg
  kept key' a scope' ha hplace' hlive := by
    simp only [Board.onPage]
    rcases ha with ha | ⟨rfl, rfl, hsome⟩
    · obtain ⟨l, hl, hreg⟩ := h.kept key' a scope' ha hplace' hlive
      split
      · exact ⟨_, by rw [hl]; rfl, mem_listen.mpr (.inl ⟨hreg, hlive⟩)⟩
      · exact ⟨l, hl, hreg⟩
    · cases hplace.symm.trans hplace'
      obtain ⟨l, hl⟩ := Option.isSome_iff_exists.mp hsome
      rw [if_pos rfl]
      exact ⟨_, by rw [hl]; rfl, mem_listen.mpr (.inr ⟨rfl, hlive⟩)⟩
  once page' l hl := by
    simp only [Board.onPage] at hl
    split at hl
    · obtain ⟨l', hl', rfl⟩ := Option.map_eq_some_iff.mp hl
      refine List.Nodup.sublist (keys_listen ..) (List.nodup_append.mpr
        ⟨h.once page' l' hl', by simp [Handler.key?], ?_⟩)
      -- The barrier cannot listen already, since it was not armed before.
      rintro key' hkey' _ hmem rfl
      obtain rfl := List.mem_singleton.mp hmem
      obtain ⟨reg, hreg, heq⟩ := List.mem_filterMap.mp hkey'
      cases hhandler : reg.handler with
      | recorder name => simp [hhandler, Handler.key?] at heq
      | barrier key'' wanted' =>
        simp only [hhandler, Handler.key?, Option.some.injEq] at heq
        subst heq
        obtain ⟨ctx', -, ha⟩ := h.known page' l' reg _ wanted' hl' hreg hhandler
        exact hkey _ ha
    · exact h.once page' l hl

end Registered

end Board

end PagePilot
