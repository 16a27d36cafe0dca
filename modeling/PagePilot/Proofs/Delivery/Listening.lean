import PagePilot.Proofs.Barrier.Invariant
/-!
# PagePilot.Proofs.Delivery.Listening

Who listens on a page, and what one transition does to that. A page keeps a list of
listeners, from which those whose scope is cancelled are dropped now and then; which of them
are still in the list depends on when it was touched, but who is live does not.

* `World.enrolled?` is the listener that is registered on a page by a transition;
* `World.apply_liveAt` says that after a transition those are live who were live before, or are
  registered now, and whose scope is not cancelled;
* `Scopes.Persists` says that what is cancelled stays so.
-/

namespace PagePilot

open Wire

/-! ### Scopes -/

namespace Scopes

/-- What is cancelled stays cancelled. -/
def Persists (s s' : Scopes) : Prop :=
  ∀ x, s.isCancelled x = true → s'.isCancelled x = true

variable {s s' s'' : Scopes} {id x : ScopeId}

theorem Persists.refl (s : Scopes) : s.Persists s :=
  fun _ h => h

theorem Persists.trans (h : s.Persists s') (h' : s'.Persists s'') : s.Persists s'' :=
  fun x hx => h' x (h x hx)

theorem persists_append (s : Scopes) (more : List ScopeNode) : s.Persists ⟨s.nodes ++ more⟩ :=
  fun _ hx => (cancelledIn_append (lt_next_of_isCancelled hx)).trans hx

theorem persists_cancel (s : Scopes) (id : ScopeId) : s.Persists (s.cancel id) := by
  intro x hx
  unfold isCancelled cancelledIn at hx ⊢
  rw [nodes_cancel]
  cases hnode : s.nodes[x]? with
  | none => simp [hnode] at hx
  | some node =>
    simp only [hnode] at hx
    simp [reached, hx]

end Scopes

/-! ### Listeners -/

namespace Registration

variable {H : Type} {s s' : Scopes}

/-- Whether the scope of a listener is not cancelled. -/
def isLive (s : Scopes) (reg : Registration H) : Bool :=
  !s.isCancelled reg.scope

theorem isLive_of_persists (h : s.Persists s') {reg : Registration H}
    (hlive : reg.isLive s' = true) : reg.isLive s = true := by
  simp only [isLive, Bool.not_eq_true', Bool.eq_false_iff] at hlive ⊢
  exact fun hcancelled => hlive (h _ hcancelled)

/-- Who is live in the end is so throughout, so it makes no difference whether those who are
not are dropped in between. -/
theorem filter_isLive (h : s.Persists s') (f : α → Registration H) (l : List α) :
    (l.filter fun x => (f x).isLive s).filter (fun x => (f x).isLive s') =
      l.filter fun x => (f x).isLive s' := by
  rw [List.filter_filter]
  refine List.filter_congr fun x _ => ?_
  cases hlive : (f x).isLive s' with
  | true => simp [isLive_of_persists h hlive]
  | false => rfl

end Registration

namespace Board

variable {b b' : Board} {page page' : PageKey}

theorem liveAt_of_listeners (hscopes : b.scopes.Persists b'.scopes)
    (hlisteners : b'.listeners page = b.listeners page) :
    b'.liveAt page = (b.liveAt page).filter (·.isLive b'.scopes) := by
  unfold liveAt
  rw [hlisteners]
  cases b.listeners page with
  | none => rfl
  | some l => exact (Registration.filter_isLive hscopes (fun reg => reg) l.registrations).symm

theorem liveAt_eq_filter (b : Board) (page : PageKey) :
    b.liveAt page = (b.liveAt page).filter (·.isLive b.scopes) :=
  liveAt_of_listeners (.refl _) rfl

/-- A listener that is registered comes after those that are there. -/
theorem liveAt_listen (b : Board) (page page' : PageKey) (scope : ScopeId) (handler : Handler) :
    (b.onPage page' (·.listen b.scopes scope handler)).liveAt page =
      (b.liveAt page ++ if page' = page ∧ (b.listeners page).isSome then
        [Registration.mk scope handler] else []).filter (·.isLive b.scopes) := by
  have hkept : ∀ l : Listeners Handler, (l.live b.scopes).filter (·.isLive b.scopes) =
      l.live b.scopes :=
    fun l => Registration.filter_isLive (.refl _) (fun reg => reg) l.registrations
  unfold liveAt onPage
  dsimp only
  by_cases hpage : page = page'
  · subst hpage
    cases b.listeners page with
    | none => simp
    | some l =>
      rw [if_pos rfl]
      simp only [Option.map_some, Option.isSome_some, and_self, if_true, List.filter_append, hkept]
      unfold Listeners.listen
      by_cases hscope : b.scopes.isCancelled scope = true
      · rw [if_pos hscope]
        simp [Registration.isLive, hscope, Listeners.prune, Listeners.live, List.filter_filter]
      · rw [if_neg hscope]
        simp [Registration.isLive, hscope, Listeners.live, List.filter_filter]
  · rw [if_neg hpage]
    cases b.listeners page with
    | none => simp
    | some l => simp [Ne.symm hpage, hkept]

/-- A board on which scopes stay cancelled, and on which those are live who were live before, or
are added on a page, and whose scope is not cancelled. -/
structure Carries (b : Board) (added : PageKey → List (Registration Handler)) (b' : Board) :
    Prop where
  scopes : b.scopes.Persists b'.scopes
  live : ∀ page, b'.liveAt page = (b.liveAt page ++ added page).filter (·.isLive b'.scopes)

theorem carries_of_listeners (hscopes : b.scopes.Persists b'.scopes)
    (hlisteners : b'.listeners = b.listeners) : b.Carries (fun _ => []) b' where
  scopes := hscopes
  live page := by
    rw [List.append_nil]
    exact liveAt_of_listeners hscopes (congrFun hlisteners page)

theorem carries_listen (b : Board) (page : PageKey) (scope : ScopeId) (handler : Handler) :
    b.Carries (fun page' => if page = page' ∧ (b.listeners page').isSome then
      [⟨scope, handler⟩] else []) (b.onPage page (·.listen b.scopes scope handler)) :=
  ⟨.refl _, fun page' => b.liveAt_listen page' page scope handler⟩

theorem Carries.of_eq {added : PageKey → List (Registration Handler)}
    (h : b.Carries (fun _ => []) b') (hadded : ∀ page, added page = []) : b.Carries added b' where
  scopes := h.scopes
  live page := hadded page ▸ h.live page

/-- Scopes may be made and cancelled before a listener is registered. -/
theorem Carries.trans {added : PageKey → List (Registration Handler)} {b'' : Board}
    (h : b.Carries (fun _ => []) b') (h' : b'.Carries added b'') : b.Carries added b'' where
  scopes := h.scopes.trans h'.scopes
  live page := by
    rw [h'.live, h.live, List.append_nil, List.filter_append, List.filter_append]
    exact congrArg (· ++ _) (Registration.filter_isLive h'.scopes (fun reg => reg) _)

end Board

namespace World

variable {w w₀ w₁ : World} {t : Transition} {page : PageKey}

/-- A listener that is to be registered by a transition, and the page. -/
def enrolment? (w : World) : Transition → Option (PageKey × Registration Handler)
  | .listen page scope recorder => some (page, ⟨scope, .recorder recorder⟩)
  | t => (w.arming? t).map fun arming =>
      (arming.2.page, ⟨w.scopes.next, .barrier arming.1 arming.2.wanted⟩)

/-- The listener that is registered on a page by a transition, if the page is there. -/
def enrolled? (w : World) (t : Transition) (page : PageKey) : Option (Registration Handler) :=
  match w.enrolment? t with
  | some (page', reg) => if page' = page ∧ (w.board.listeners page).isSome then some reg else none
  | none => none

theorem enrolment?_of_arming? (ht : ∀ page scope recorder, t ≠ .listen page scope recorder) :
    w.enrolment? t = (w.arming? t).map fun arming =>
      (arming.2.page, ⟨w.scopes.next, .barrier arming.1 arming.2.wanted⟩) := by
  cases t
  case listen page scope recorder => exact absurd rfl (ht page scope recorder)
  all_goals rfl

theorem enrolled?_toList {page' : PageKey} {reg : Registration Handler}
    (h : w.enrolment? t = some (page', reg)) (page : PageKey) : (w.enrolled? t page).toList =
      if page' = page ∧ (w.board.listeners page).isSome then [reg] else [] := by
  simp only [enrolled?, h]
  split <;> rfl

theorem enrolled?_of_arming?_none (ht : ∀ page scope recorder, t ≠ .listen page scope recorder)
    (h : w.arming? t = none) : w.enrolled? t page = none := by
  simp [enrolled?, enrolment?_of_arming? ht, h]

theorem persists_releaseAbandoned (w : World) : w.scopes.Persists w.releaseAbandoned.scopes := by
  unfold releaseAbandoned
  dsimp only
  generalize w.barriers.filter Barrier.abandoned = abandoned
  generalize w.scopes = s
  induction abandoned generalizing s with
  | nil => exact .refl s
  | cons b rest ih => exact (s.persists_cancel b.scope).trans (ih _)

theorem openPage_carries (w : World) (session : Option SessionId) (frame : Option FrameId)
    (holder : Holder) : w.board.Carries (fun _ => []) (w.openPage session frame holder).board where
  scopes := .refl _
  live page := by
    rw [List.append_nil]
    refine Eq.trans ?_ (w.board.liveAt_eq_filter page)
    -- On the new page nobody listens.
    unfold Board.liveAt
    simp only [board, openPage]
    rcases Nat.lt_trichotomy page w.pages.length with h | rfl | h
    · rw [List.getElem?_append_left h]
    · simp [Listeners.live, Listeners.empty]
    · rw [List.getElem?_eq_none (by simp; omega), List.getElem?_eq_none (Nat.le_of_lt h)]

/-- First the scope is made, and then the listener is registered under it. -/
theorem arm_carries (w : World) (a : Arming) (holder : Holder) :
    w.board.Carries (fun page => if a.page = page ∧ (w.board.listeners page).isSome then
      [⟨w.scopes.next, .barrier w.barriers.length a.wanted⟩] else [])
      (w.arm a.page a.ctx a.wanted holder).board := by
  have hmade : w.board.Carries (fun _ => []) (w.unheard a.ctx holder) :=
    Board.carries_of_listeners (w.scopes.persists_append _) rfl
  rw [arm_board]
  exact hmade.trans (Board.carries_listen ..)

theorem release_persists (w : World) (key : BarrierKey) :
    w.scopes.Persists (w.release key).scopes := by
  unfold release
  split
  · exact w.scopes.persists_cancel _
  · exact .refl _

theorem BoardStep.carries (h : w.BoardStep t w₀ w₁) (hw : w₀.board = w.board)
    (ht : ∀ page scope recorder, t ≠ .listen page scope recorder) (hd : w.delivered? t = none) :
    w.board.Carries (fun page => (w.enrolled? t page).toList) w₁.board := by
  -- What registers nobody has only to keep the scopes.
  have hnone : w.arming? t = none → w₀.board.Carries (fun _ => []) w₁.board →
      w.board.Carries (fun page => (w.enrolled? t page).toList) w₁.board := fun harming hcarries =>
    (hw ▸ hcarries).of_eq fun page => by rw [enrolled?_of_arming?_none ht harming]; rfl
  cases h with
  | rest h => exact hnone h.arming (Board.carries_of_listeners (.refl _) rfl)
  | newScope parent h =>
    subst h
    refine hnone rfl (Board.carries_of_listeners ?_ rfl)
    cases parent with
    | none => exact w₀.scopes.persists_append _
    | some parent => exact w₀.scopes.persists_append _
  | cancel scope h =>
    subst h
    exact hnone rfl (Board.carries_of_listeners (w₀.scopes.persists_cancel scope) rfl)
  | openPage session frame holder h => exact hnone h.arming (openPage_carries ..)
  | @arm a holder harming _ =>
    have henrolled : ∀ page, (w.enrolled? t page).toList =
        if a.page = page ∧ (w₀.board.listeners page).isSome then
          [⟨w₀.scopes.next, .barrier w₀.barriers.length a.wanted⟩] else [] := by
      intro page
      have hscopes : w₀.scopes = w.scopes := congrArg Board.scopes hw
      have hbarriers : w₀.barriers = w.barriers := congrArg Board.barriers hw
      rw [hw, hscopes, hbarriers]
      exact enrolled?_toList (by rw [enrolment?_of_arming? ht, harming]; rfl) page
    rw [funext henrolled, ← hw]
    exact arm_carries w₀ a holder
  | give key task h =>
    subst h
    exact hnone rfl (Board.carries_of_listeners (.refl _) rfl)
  | release key h =>
    subst h
    exact hnone rfl
      (Board.carries_of_listeners (release_persists w₀ key) (release_listeners ..))
  | loosen h =>
    exact hnone h.plain.arming
      (Board.carries_of_listeners (persists_releaseAbandoned (w₀.modifyBarrier _ _)) rfl)
  | retire h =>
    exact hnone h.plain.arming (Board.carries_of_listeners
      (persists_releaseAbandoned { w₀ with pages := _, barriers := _ }) (dropHoldings_listeners ..))
  | listen page scope recorder h => exact absurd h (ht page scope recorder)
  | deliver h => cases hd.symm.trans h

/-- A transition that delivers nothing cancels scopes and registers a listener, at most. -/
theorem apply_carries (w : World) (t : Transition) (hd : w.delivered? t = none) :
    w.board.Carries (fun page => (w.enrolled? t page).toList) (w.apply t).board := by
  by_cases ht : ∃ page scope recorder, t = .listen page scope recorder
  · obtain ⟨page, scope, recorder, rfl⟩ := ht
    rw [funext (enrolled?_toList (w := w) rfl)]
    show w.board.Carries _ (w.listen page scope (.recorder recorder)).board
    rw [listen_board]
    exact w.board.carries_listen page scope (.recorder recorder)
  · obtain ⟨w₀, w₁, hw, hstep, hboard⟩ := (apply_board w t).step
    rw [hboard]
    exact hstep.carries hw (fun page scope recorder h => ht ⟨page, scope, recorder, h⟩) hd

theorem handle_persists (page : PageKey) (event : Event) (handler : Handler) (w : World) :
    w.scopes.Persists (handle page event handler w).scopes := by
  cases handler with
  | recorder name => exact .refl _
  | barrier key wanted =>
    dsimp only [handle]
    split
    · exact w.scopes.persists_cancel _
    · exact .refl _

end World

end PagePilot
