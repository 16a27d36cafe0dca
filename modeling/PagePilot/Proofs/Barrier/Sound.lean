import PagePilot.Proofs.Barrier.Round
import PagePilot.Proofs.Barrier.Settled
/-!
# PagePilot.Proofs.Barrier.Sound

What is known of a world whose history is known (`World.Sound`): which barriers were armed,
which were released, and which contexts were cancelled. Every transition goes on with the
history (`World.Sound.apply`), and so do the start of a round and each of its turns, which
add nothing to it but perhaps a match.
-/

namespace PagePilot

open Wire

namespace World

/-- A world whose board is as the history has it, and whose tasks know contexts only. -/
structure Sound (w : World) (armed : BarrierKey → Arming → Prop) (released : BarrierKey → Prop)
    (cancelled : ScopeId → Prop) : Prop where
  tidy : w.board.Tidy
  registered : w.board.Registered armed
  settled : w.board.Settled released
  ended : w.board.Ended cancelled
  released : ∀ key, released key → key < w.barriers.length
  cancelled : ∀ a, cancelled a → w.board.IsContext a
  within : ∀ (task : TaskId) (p : Program Outcome), w.tasks[task]? = some (.running p) →
    p.Within w.board.IsContext

variable {w : World} {armed : BarrierKey → Arming → Prop} {released : BarrierKey → Prop}
  {cancelled : ScopeId → Prop} {t : Transition}

theorem Keeps.congr {w₀ w₁ w' : World} (h : w₀.Keeps w₁ armed) (h₀ : w₀.board = w.board)
    (h₁ : w'.board = w₁.board) : w.Keeps w' armed := by
  obtain ⟨htidy, hregistered, hcontexts, hplace, hpages, hcancelled⟩ := h
  rw [← h₁] at htidy hregistered hcontexts hplace hpages hcancelled
  rw [h₀] at hcontexts hplace hpages hcancelled
  exact ⟨htidy, hregistered, hcontexts, hplace, hpages, hcancelled⟩

theorem lt_of_place? {key : BarrierKey} {p : ScopeId × Context}
    (h : w.board.place? key = some p) : key < w.barriers.length := by
  obtain ⟨x, hx, -⟩ := barrier_of_place? h
  exact (List.getElem?_eq_some_iff.mp hx).1

/-- Nothing is armed but under a context. -/
theorem Sound.isContext_of_arming (h : w.Sound armed released cancelled) (ht : t.Admissible w)
    {key : BarrierKey} {a : Arming} (ha : w.arming? t = some (key, a)) :
    w.board.IsContext a.ctx.scope := by
  obtain ⟨-, hby⟩ := armsBy_of_arming ha
  cases hby with
  | caller | milestone => exact isContext_iff.mp ht.2
  | task hrest => exact (h.within _ _ hrest).1 _ _ _ rfl

theorem Sound.keeps (h : w.Sound armed released cancelled) (ht : t.Admissible w) :
    w.Keeps (w.apply t) fun key a =>
      armed key a ∨ (w.arming? t = some (key, a) ∧ (w.board.listeners a.page).isSome) := by
  obtain ⟨w₀, w₁, h₀, hstep, h₁⟩ := (apply_board w t).step
  exact (hstep.keeps h₀ h.tidy h.registered ht fun _ _ => h.isContext_of_arming ht).congr h₀ h₁

/-- Every transition goes on with the history. -/
theorem Sound.apply (h : w.Sound armed released cancelled) (ht : t.Admissible w) :
    (w.apply t).Sound
      (fun key a =>
        armed key a ∨ (w.arming? t = some (key, a) ∧ (w.board.listeners a.page).isSome))
      (fun key => released key ∨ t = .release key) fun a => cancelled a ∨ t = .cancel a := by
  have hkeeps := h.keeps ht
  obtain ⟨w₀, w₁, h₀, hstep, h₁⟩ := (apply_board w t).step
  refine ⟨hkeeps.tidy, hkeeps.registered, ?_, ?_, ?_, ?_, ?_⟩
  · rw [h₁]
    exact hstep.settled h₀ h.tidy h.registered h.settled h.released ht
      fun _ _ => h.isContext_of_arming ht
  · rw [h₁]
    exact hstep.ended h₀ h.tidy h.registered h.ended (fun a ha => (h.cancelled a ha).1) ht
  · rintro key (hkey | rfl)
    · have hx := List.getElem?_eq_getElem (h.released key hkey)
      exact lt_of_place? (hkeeps.place key _ (place?_of_barrier hx))
    · obtain ⟨x, hx, -⟩ := ht
      exact lt_of_place? (hkeeps.place key _ (place?_of_barrier hx))
  · rintro a (ha | rfl)
    · exact hkeeps.contexts a (h.cancelled a ha)
    · exact hkeeps.contexts a (isContext_iff.mp ht)
  · intro task p hp
    -- A task that was not there is started just now; the others go on with what they know.
    have hknown : p.Within w.board.IsContext := by
      cases hbefore : w.tasks[task]? with
      | none =>
        obtain ⟨p', rfl, -, heq⟩ := spawn_of_apply hbefore hp
        cases heq
        exact ht.within.mono fun _ => isContext_iff.mp
      | some state =>
        obtain ⟨state', hstate', htask⟩ := apply_task (t := t) hbefore
        cases hp.symm.trans hstate'
        cases htask with
        | rest => exact h.within task p hbefore
        | deed hd => exact (h.within task _ hbefore).2 _
    exact hknown.mono hkeeps.contexts

/-- What frees barriers for a reason goes on with the history. -/
theorem Sound.frees {w' : World} {freed : BarrierKey → Prop} (h : w.Sound armed released cancelled)
    (hfrees : w.board.Frees w'.board freed) (hregistered : w'.board.Registered armed)
    (hreason : ∀ key x x', w.board.barriers[key]? = some x → w'.board.barriers[key]? = some x' →
      (x'.matched = true ∨ released key ∨ x'.abandoned = true ↔
        (x.matched = true ∨ released key ∨ x.abandoned = true) ∨ freed key))
    (htasks : w'.tasks = w.tasks) : w'.Sound armed released cancelled where
  tidy := hfrees.tidy h.tidy
  registered := hregistered
  settled := h.settled.frees h.tidy hfrees hreason
  ended := h.ended.frees hfrees
  released key hkey := by
    have hx := List.getElem?_eq_getElem (h.released key hkey)
    exact lt_of_place? ((hfrees.place key).trans (place?_of_barrier hx))
  cancelled a ha := hfrees.isContext (h.cancelled a ha)
  within task p hp := by
    rw [htasks] at hp
    exact (h.within task p hp).mono fun _ => hfrees.isContext

/-! ### Rounds -/

variable {page : PageKey} {event : Event} {reg : Registration Handler}

theorem opening_aside (w : World) (page : PageKey) (event : Event) :
    w.Aside (w.opening page event) := by
  unfold opening follow
  split
  · exact (modifyPage_aside ..).trans (modifyPage_aside ..)
  · exact modifyPage_aside ..

theorem opening_frees (hw : w.board.Tidy) (page : PageKey) (event : Event) :
    w.board.Frees (w.opening page event).board fun _ => False := by
  rw [opening_board]
  exact .of_place hw rfl fun _ => rfl

theorem opening_keeps (hw : w.board.Tidy) (h : w.board.Registered armed) (page : PageKey)
    (event : Event) : w.Keeps (w.opening page event) armed := by
  have hfrees := opening_frees hw page event
  refine ⟨hfrees.tidy hw, ?_, fun _ => hfrees.isContext, fun key _ hp => (hfrees.place key).trans hp,
    fun page' hpage => ?_, fun scope hc => (hfrees.cancelled scope).mpr (.inl hc)⟩
  · rw [opening_board]
    exact h.prune page
  · rw [opening_board]
    exact isSome_onPage _ _ _ page' hpage

/-- The start of a round goes on with the history. -/
theorem Sound.opening (h : w.Sound armed released cancelled) (page : PageKey) (event : Event) :
    (w.opening page event).Sound armed released cancelled := by
  refine h.frees (opening_frees h.tidy page event) (opening_keeps h.tidy h.registered ..).registered ?_
    (opening_aside w page event).tasks
  intro key x x' hx hx'
  rw [opening_board] at hx'
  cases hx.symm.trans hx'
  simp

theorem giveTurn_aside (w : World) (page : PageKey) (event : Event) (reg : Registration Handler) :
    w.Aside (w.giveTurn page event reg) := by
  unfold giveTurn
  split
  · exact .refl w
  · exact handle_aside ..

theorem giveTurn_listeners (w : World) (page : PageKey) (event : Event)
    (reg : Registration Handler) :
    (w.giveTurn page event reg).board.listeners = w.board.listeners := by
  unfold giveTurn
  split
  · rfl
  · simp only [board, handle_pages]

/-- By its turn a listener matches its own barrier, if the barrier waits for the event and the
listener is not cancelled by then. -/
theorem giveTurn_matches (hw : w.board.Tidy) (page : PageKey) (event : Event)
    (reg : Registration Handler) :
    w.board.Matches (w.giveTurn page event reg).board fun key =>
      w.scopes.isCancelled reg.scope = false ∧
        ∃ wanted, reg.handler = .barrier key wanted ∧ wanted event = true := by
  unfold giveTurn
  split
  next hcancelled =>
    exact (Board.Matches.refl hw).congr fun _ _ _ _ => by simp [hcancelled]
  next hlive =>
    have hlive : w.scopes.isCancelled reg.scope = false := by simpa using hlive
    exact (handle_matches hw page event reg.handler).congr fun _ _ _ _ => by simp [hlive]

theorem giveTurn_keeps (hw : w.board.Tidy) (h : w.board.Registered armed) (page : PageKey)
    (event : Event) (reg : Registration Handler) : w.Keeps (w.giveTurn page event reg) armed :=
  .of_frees hw h (giveTurn_matches hw page event reg).toFrees (giveTurn_listeners ..)

/-- A turn goes on with the history. -/
theorem Sound.giveTurn (h : w.Sound armed released cancelled) (page : PageKey) (event : Event)
    (reg : Registration Handler) : (w.giveTurn page event reg).Sound armed released cancelled := by
  have hmatches := giveTurn_matches h.tidy page event reg
  refine h.frees hmatches.toFrees (giveTurn_keeps h.tidy h.registered ..).registered ?_
    (giveTurn_aside w page event reg).tasks
  intro key x x' hx hx'
  obtain ⟨m, hm, hiff⟩ := hmatches.barrier key x hx
  cases hm.symm.trans hx'
  show m = true ∨ released key ∨ x.abandoned = true ↔ _
  rw [hiff]
  grind

/-! ### The beginning -/

theorem initial_sound (refused : List String) (network : Network) :
    (World.initial refused network).Sound (fun _ _ => False) (fun _ => False) fun _ => False where
  tidy := ⟨.empty, by simp [Board.place?, board, initial], by simp [Board.place?, board, initial],
    by simp [Board.place?, board, initial]⟩
  registered := ⟨fun _ _ h => h.elim, by simp [board, initial], fun _ _ _ h => h.elim,
    by simp [board, initial]⟩
  settled := by simp [Board.Settled, board, initial]
  ended scope h := absurd h.1 (Nat.not_lt_zero scope)
  released _ h := h.elim
  cancelled _ h := h.elim
  within := by simp [initial]

end World

end PagePilot
