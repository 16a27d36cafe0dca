import PagePilot.Proofs.Barrier.Layout
/-!
# PagePilot.Proofs.Barrier.Delivery

Which barriers an event matches. A delivery calls its handlers one after the other, and
each may free a barrier that comes later. But a handler frees its own barrier only, so
the outcome is the same as if all had been called at once: those are matched whose
listener was live when the delivery started and that wait for the event (`Board.Hits`).
-/

namespace PagePilot

open Wire

namespace Board

/-- A live listener on a page belongs to a barrier that waits for an event. -/
def Hits (b : Board) (page : PageKey) (event : Event) (key : BarrierKey) : Prop :=
  ∃ l reg wanted, b.listeners page = some l ∧ reg ∈ l.registrations ∧
    reg.handler = .barrier key wanted ∧ wanted event = true ∧
      b.scopes.isCancelled reg.scope = false

/-- Some barriers are matched, and thereby freed. -/
structure Matches (b b' : Board) (hit : BarrierKey → Prop) : Prop extends Frees b b' hit where
  barrier : ∀ key x, b.barriers[key]? = some x → ∃ m,
    b'.barriers[key]? = some { x with matched := m } ∧
      (m = true ↔ x.matched = true ∨ hit key)

variable {b b' b'' : Board} {hit hit' : BarrierKey → Prop} {key : BarrierKey}

namespace Matches

theorem refl (hb : b.Tidy) : b.Matches b fun _ => False :=
  { Frees.refl hb with barrier := fun _ x hx => ⟨x.matched, hx, by simp⟩ }

theorem trans (h : b.Matches b' hit) (h' : b'.Matches b'' hit') :
    b.Matches b'' fun key => hit key ∨ hit' key :=
  { h.toFrees.trans h'.toFrees with
    barrier := fun key x hx => by
      obtain ⟨m, hm, hiff⟩ := h.barrier key x hx
      obtain ⟨m', hm', hiff'⟩ := h'.barrier key _ hm
      exact ⟨m', hm', by rw [hiff', hiff, or_assoc]⟩ }

theorem congr (h : b.Matches b' hit)
    (hiff : ∀ key scope ctx, b.place? key = some (scope, ctx) → (hit key ↔ hit' key)) :
    b.Matches b' hit' :=
  { h.toFrees.congr hiff with
    barrier := fun key x hx => by
      obtain ⟨m, hm, hm'⟩ := h.barrier key x hx
      refine ⟨m, hm, hm'.trans (or_congr_right ?_)⟩
      exact hiff key x.scope x.ctx (by simp [place?, hx]) }

end Matches

end Board

namespace World

variable {w : World} {key : BarrierKey}

/-- A match frees the barrier, and no other. -/
theorem mark_matches (hw : w.board.Tidy) {x : Barrier} (hx : w.barriers[key]? = some x) :
    w.board.Matches
      ((w.modifyBarrier key fun b => { b with matched := true }).cancel x.scope).board (· = key) := by
  have hsame := modifyBarrier_frees (f := fun b => { b with matched := true }) hw key
    fun _ => ⟨rfl, rfl⟩
  have hplace := (hsame.place key).trans (place?_of_barrier hx)
  have hfrees := hsame.trans (cancel_frees (hsame.tidy hw) hplace)
  refine { hfrees.congr fun _ _ _ _ => iff_of_eq (false_or _) with barrier := fun key' y hy => ?_ }
  refine ⟨y.matched || decide (key' = key), ?_, by simp⟩
  show (w.barriers.modify key _)[key']? = _
  have hy : w.barriers[key']? = some y := hy
  rw [List.getElem?_modify, hy]
  by_cases h : key = key'
  · simp [h]
  · simp [h, Ne.symm h]

theorem handle_matches (hw : w.board.Tidy) (page : PageKey) (event : Event) (handler : Handler) :
    w.board.Matches (handle page event handler w).board fun key =>
      ∃ wanted, handler = .barrier key wanted ∧ wanted event = true := by
  cases handler with
  | recorder name => exact (Board.Matches.refl hw).congr fun _ _ _ _ => by simp
  | barrier key wanted =>
    dsimp only [handle]
    cases hx : w.barriers[key]? with
    | none =>
      refine (Board.Matches.refl hw).congr fun key' scope ctx hplace => ⟨False.elim, ?_⟩
      rintro ⟨wanted', heq, -⟩
      cases heq
      simp [Board.place?, board, hx] at hplace
    | some x =>
      cases hwanted : wanted event with
      | false =>
        refine (Board.Matches.refl hw).congr fun key' _ _ _ => ⟨False.elim, ?_⟩
        rintro ⟨wanted', heq, hwanted'⟩
        cases heq
        rw [hwanted] at hwanted'
        cases hwanted'
      | true =>
        refine (mark_matches hw hx).congr fun key' _ _ _ => ⟨?_, ?_⟩
        · rintro rfl
          exact ⟨wanted, rfl, hwanted⟩
        · rintro ⟨wanted', heq, -⟩
          cases heq
          rfl

theorem callAll_matches (hw : w.board.Tidy) (page : PageKey) (event : Event)
    (regs : List (Registration Handler))
    (hregs : ∀ reg ∈ regs, ∀ key wanted, reg.handler = .barrier key wanted →
      ∃ ctx, w.board.place? key = some (reg.scope, ctx)) :
    w.board.Matches (Listeners.callAll (·.scopes) (handle page event) regs w).board fun key =>
      ∃ reg ∈ regs, ∃ wanted, reg.handler = .barrier key wanted ∧ wanted event = true ∧
        w.scopes.isCancelled reg.scope = false := by
  induction regs generalizing w with
  | nil => exact (Board.Matches.refl hw).congr fun _ _ _ _ => by simp
  | cons reg rest ih =>
    have hrest := fun reg' h => hregs reg' (List.mem_cons_of_mem reg h)
    unfold Listeners.callAll
    by_cases hcancelled : w.scopes.isCancelled reg.scope = true
    · rw [if_pos hcancelled]
      exact (ih hw hrest).congr fun _ _ _ _ => by simp [hcancelled]
    · rw [if_neg hcancelled]
      have hfirst := handle_matches hw page event reg.handler
      have hothers := ih (hfirst.tidy hw) fun reg' h key wanted heq => by
        rw [hfirst.place]
        exact hrest reg' h key wanted heq
      refine (hfirst.trans hothers).congr fun key scope ctx hplace => ⟨?_, ?_⟩
      · intro hhit
        rcases hhit with ⟨wanted, heq, hwanted⟩ | ⟨reg', hmem, wanted, heq, hwanted, hlive⟩
        · exact ⟨reg, List.mem_cons_self .., wanted, heq, hwanted, by simpa using hcancelled⟩
        · refine ⟨reg', List.mem_cons_of_mem reg hmem, wanted, heq, hwanted, ?_⟩
          refine Bool.eq_false_iff.mpr ?_
          intro h
          have hlive' := (hfirst.cancelled reg'.scope).mpr (.inl h)
          exact Bool.false_ne_true (hlive.symm.trans hlive')
      · rintro ⟨reg', hmem, wanted, heq, hwanted, hlive⟩
        rcases List.mem_cons.mp hmem with rfl | hmem
        · exact .inl ⟨wanted, heq, hwanted⟩
        · -- A later listener is as live as before, unless the first one was of the same barrier.
          obtain ⟨ctx', hplace'⟩ := hrest reg' hmem key wanted heq
          by_cases hfirst' : ∃ wanted, reg.handler = .barrier key wanted ∧ wanted event = true
          · exact .inl hfirst'
          · refine .inr ⟨reg', hmem, wanted, heq, hwanted, Bool.eq_false_iff.mpr ?_⟩
            intro h
            rcases (hfirst.isCancelled_place hw hplace').mp h with h | h
            · exact Bool.false_ne_true (hlive.symm.trans h)
            · exact hfirst' h

theorem handle_pages (page : PageKey) (event : Event) (handler : Handler) (w : World) :
    (handle page event handler w).pages = w.pages := by
  cases handler with
  | recorder name => rfl
  | barrier key wanted =>
    dsimp only [handle]
    split <;> rfl

theorem callAll_pages (page : PageKey) (event : Event) (regs : List (Registration Handler))
    (w : World) :
    (Listeners.callAll (·.scopes) (handle page event) regs w).pages = w.pages := by
  induction regs generalizing w with
  | nil => rfl
  | cons reg rest ih =>
    unfold Listeners.callAll
    split
    · exact ih w
    · exact (ih _).trans (handle_pages ..)

end World

/-- The listeners of a page that are live. -/
def Board.liveAt (b : Board) (page : PageKey) : List (Registration Handler) :=
  match b.listeners page with
  | some l => l.live b.scopes
  | none => []

namespace World

variable {w : World} {key : BarrierKey}

theorem follow_board (w : World) (page : PageKey) (event : Event) :
    (w.follow page event).board = w.board := by
  unfold follow
  split
  · exact modifyPage_board w page fun _ => rfl
  · rfl

/-- The world in which a delivery has begun: the page has followed its main frame, and knows
of no listeners any more that are gone. -/
def opening (w : World) (page : PageKey) (event : Event) : World :=
  (w.follow page event).modifyPage page fun p =>
    { p with listeners := p.listeners.prune w.scopes }

theorem opening_board (w : World) (page : PageKey) (event : Event) :
    (w.opening page event).board = w.board.onPage page (·.prune w.scopes) := by
  refine (modifyPage_onPage _ page (g := (·.prune w.scopes)) fun _ => rfl).trans ?_
  rw [follow_board]

/-- A delivery calls the listeners of the page that are live when it begins. -/
theorem deliver_eq (w : World) (page : PageKey) (event : Event) :
    w.deliver page event =
      Listeners.callAll (·.scopes) (handle page event) (w.board.liveAt page)
        (w.opening page event) := by
  have hu := follow_board w page event
  rw [deliver_eq_callListeners]
  unfold opening
  generalize w.follow page event = u at hu
  have hscopes : u.scopes = w.scopes := congrArg Board.scopes hu
  have hpage : u.pages[page]?.map (·.listeners) = w.board.listeners page :=
    congrFun (congrArg Board.listeners hu) page
  unfold callListeners Board.liveAt
  cases hp : u.pages[page]? with
  | none =>
    have hsame : ∀ f, u.modifyPage page f = u := by
      intro f
      simp only [modifyPage, List.modify_eq_self (List.getElem?_eq_none_iff.mp hp)]
    rw [hp] at hpage
    rw [← hpage]
    exact (congrArg (Listeners.callAll _ _ []) (hsame _)).symm
  | some p =>
    rw [hp] at hpage
    rw [← hpage]
    show Listeners.callAll _ _ (p.listeners.live u.scopes) (u.modifyPage page _) =
      Listeners.callAll _ _ (p.listeners.live w.scopes) _
    rw [hscopes]

/-- A delivery matches the barriers that wait for the event with a live listener. -/
theorem deliver_matches (hw : w.board.Tidy) (page : PageKey) (event : Event)
    (hregs : ∀ l, w.board.listeners page = some l → ∀ reg ∈ l.registrations, ∀ key wanted,
      reg.handler = .barrier key wanted → ∃ ctx, w.board.place? key = some (reg.scope, ctx)) :
    w.board.Matches (w.deliver page event).board (w.board.Hits page event) ∧
      (w.deliver page event).board.listeners = (w.board.onPage page (·.prune w.scopes)).listeners := by
  have hv := opening_board w page event
  have heq := deliver_eq w page event
  generalize w.opening page event = v at hv heq
  have hlive : ∀ reg, reg ∈ w.board.liveAt page ↔
      ∃ l, w.board.listeners page = some l ∧ reg ∈ l.registrations ∧
        w.board.scopes.isCancelled reg.scope = false := by
    intro reg
    unfold Board.liveAt Listeners.live
    cases w.board.listeners page <;> simp
  have hbarriers : v.board.barriers = w.board.barriers := by rw [hv]; rfl
  have hscopes : v.board.scopes = w.board.scopes := by rw [hv]; rfl
  have hpruned : w.board.Matches v.board fun _ => False :=
    { Board.Frees.of_place hw hscopes fun key => by simp [Board.place?, hbarriers] with
      barrier := fun key x hx => ⟨x.matched, by rw [hbarriers]; exact hx, by simp⟩ }
  have hcalls := callAll_matches (hpruned.tidy hw) page event (w.board.liveAt page)
    fun reg hreg key wanted heq => by
      obtain ⟨l, hl, hmem, -⟩ := (hlive reg).mp hreg
      rw [hpruned.place]
      exact hregs l hl reg hmem key wanted heq
  rw [heq]
  refine ⟨(hpruned.trans hcalls).congr fun key _ _ _ => ?_, ?_⟩
  · rw [false_or]
    constructor
    · rintro ⟨reg, hreg, wanted, heq, hwanted, -⟩
      obtain ⟨l, hl, hmem, hnot⟩ := (hlive reg).mp hreg
      exact ⟨l, reg, wanted, hl, hmem, heq, hwanted, hnot⟩
    · rintro ⟨l, reg, wanted, hl, hmem, heq, hwanted, hnot⟩
      refine ⟨reg, (hlive reg).mpr ⟨l, hl, hmem, hnot⟩, wanted, heq, hwanted, ?_⟩
      exact (congrArg (·.isCancelled reg.scope) hscopes).trans hnot
  · funext page'
    show ((Listeners.callAll _ _ _ v).pages[page']?).map _ = _
    rw [callAll_pages, ← hv]
    rfl

end World

end PagePilot
