import PagePilot.Proofs.Barrier.Invariant
/-!
# PagePilot.Proofs.Barrier.Settled

When the listener of a barrier is gone: when the barrier was matched, when it was
released, when nobody has a half of it any more, or when its context is cancelled, and
then only (`Board.Settled`). And a context is cancelled when it or one that it derives
from was cancelled, and then only (`Board.Ended`).
-/

namespace PagePilot

open Wire

namespace Barrier

theorem abandoned_dropHalves {x : Barrier} (holder : Holder) (h : x.abandoned = true) :
    (x.dropHalves holder).abandoned = true := by
  simp only [abandoned, Bool.and_eq_true, Option.isNone_iff_eq_none] at h
  simp [abandoned, dropHalves, h]

end Barrier

namespace Board

/-- The scope of a barrier is cancelled for one of four reasons. -/
def Settled (b : Board) (released : BarrierKey → Prop) : Prop :=
  ∀ key x, b.barriers[key]? = some x →
    (b.scopes.isCancelled x.scope = true ↔
      x.matched = true ∨ released key ∨ x.abandoned = true ∨
        b.scopes.isCancelled x.ctx.scope = true)

variable {b b' : Board} {released released' freed : BarrierKey → Prop}

/-- Freeing a barrier for a reason keeps the account. -/
theorem Settled.frees (h : b.Settled released) (hb : b.Tidy) (hfrees : b.Frees b' freed)
    (hreason : ∀ key x x', b.barriers[key]? = some x → b'.barriers[key]? = some x' →
      (x'.matched = true ∨ released' key ∨ x'.abandoned = true ↔
        (x.matched = true ∨ released key ∨ x.abandoned = true) ∨ freed key)) :
    b'.Settled released' := by
  intro key x' hx'
  have hplace' := (hfrees.place key).symm.trans (place?_of_barrier hx')
  obtain ⟨x, hx, hscope, hctx⟩ := place?_eq_some.mp hplace'
  have hplace := place?_of_barrier hx
  have hcontext := hfrees.isCancelled_context (hb.isContext hplace)
  rw [← hscope, ← hctx, hfrees.isCancelled_place hb hplace, hcontext, h key x hx]
  -- Both accounts speak of the old board by now; the rest is propositional.
  have hkey := hreason key x x' hx hx'
  grind

/-- What happens to other scopes keeps the account. -/
theorem Settled.congr (h : b.Settled released) (hbarriers : b'.barriers = b.barriers)
    (hscopes : ∀ key scope ctx, b.place? key = some (scope, ctx) →
      b'.scopes.isCancelled scope = b.scopes.isCancelled scope ∧
        b'.scopes.isCancelled ctx.scope = b.scopes.isCancelled ctx.scope) :
    b'.Settled released := by
  intro key x hx
  rw [hbarriers] at hx
  obtain ⟨hscope, hctx⟩ := hscopes key _ _ (place?_of_barrier hx)
  rw [hscope, hctx]
  exact h key x hx

end Board

namespace World

variable {w : World} {released : BarrierKey → Prop}

theorem Loosens.matched {t : Transition} {key : BarrierKey} {f : Barrier → Barrier}
    (h : w.Loosens t key f) (x : Barrier) : (f x).matched = x.matched := by
  cases h <;> rfl

/-- Nobody gets a half by letting go. -/
theorem Loosens.abandoned {t : Transition} {key : BarrierKey} {f : Barrier → Barrier}
    (h : w.Loosens t key f) {x : Barrier} (hx : x.abandoned = true) : (f x).abandoned = true := by
  cases h with
  | disarm | dropHalves => exact Barrier.abandoned_dropHalves _ hx
  | dropWait | dropRelease =>
    simp only [Barrier.abandoned, Bool.and_eq_true] at hx ⊢
    simp [hx]

theorem newScope_settled (hw : w.board.Tidy) (h : w.board.Settled released)
    (parent : Option ScopeId) : (w.newScope parent).board.Settled released := by
  have hold : ∀ scope, scope < w.scopes.next →
      (w.newScope parent).scopes.isCancelled scope = w.scopes.isCancelled scope := by
    intro scope hlt
    cases parent with
    | none => exact Scopes.isCancelled_addRoot
    | some p => exact Scopes.isCancelled_addChild hlt
  exact h.congr rfl fun key scope ctx hplace =>
    ⟨hold scope (hw.lt_next hplace), hold ctx.scope (hw.isContext hplace).1⟩

/-- The cancellation of a context reaches the barriers under it, and no others. -/
theorem cancel_settled (hw : w.board.Tidy) (h : w.board.Settled released) {scope : ScopeId}
    (hscope : w.board.IsContext scope) : (w.cancel scope).board.Settled released := by
  intro key x hx
  have hplace := Board.place?_of_barrier hx
  have hchild : w.scopes.parentOf? x.scope = some x.ctx.scope := hw.child key _ _ hplace
  have hne : x.scope ≠ scope := fun heq => hscope.2 key x.ctx (heq ▸ hplace)
  have hstep : (w.scopes.cancel scope).isCancelled x.scope = true ↔ _ :=
    Scopes.isCancelled_cancel_iff hw.grown
  have hctx : w.scopes.isCancelled x.ctx.scope = true →
      (w.scopes.cancel scope).isCancelled x.ctx.scope = true :=
    fun hc => (Scopes.isCancelled_cancel_iff hw.grown).mpr (.inl hc)
  have hx' := h key x hx
  show (w.scopes.cancel scope).isCancelled x.scope = true ↔
    x.matched = true ∨ released key ∨ x.abandoned = true ∨
      (w.scopes.cancel scope).isCancelled x.ctx.scope = true
  change w.scopes.isCancelled x.scope = true ↔ _ ∨ _ ∨ _ ∨ w.scopes.isCancelled x.ctx.scope = true
    at hx'
  rw [hchild] at hstep
  rw [hstep, hx']
  simp only [hne, false_and, false_or, Option.some.injEq, exists_eq_left']
  constructor
  · intro hreason
    rcases hreason with (hm | hr | ha | hc) | hc
    · exact .inl hm
    · exact .inr (.inl hr)
    · exact .inr (.inr (.inl ha))
    · exact .inr (.inr (.inr (hctx hc)))
    · exact .inr (.inr (.inr hc))
  · intro hreason
    rcases hreason with hm | hr | ha | hc
    · exact .inl (.inl hm)
    · exact .inl (.inr (.inl hr))
    · exact .inl (.inr (.inr (.inl ha)))
    · exact .inr hc

theorem arm_settled (hw : w.board.Tidy) (h : w.board.Settled released)
    (hreleased : ∀ key, released key → key < w.barriers.length) (a : Arming)
    (hctx : w.board.IsContext a.ctx.scope) (holder : Holder) :
    (w.arm a.page a.ctx a.wanted holder).board.Settled released := by
  rw [arm_board]
  intro key x hx
  have hx : (w.barriers ++ _)[key]? = some x := hx
  have hold : ∀ scope, scope < w.scopes.next →
      (w.scopes.addChild a.ctx.scope).isCancelled scope = w.scopes.isCancelled scope :=
    fun scope hlt => Scopes.isCancelled_addChild hlt
  show (w.scopes.addChild a.ctx.scope).isCancelled x.scope = true ↔
    _ ∨ _ ∨ _ ∨ (w.scopes.addChild a.ctx.scope).isCancelled x.ctx.scope = true
  by_cases hkey : key = w.barriers.length
  · subst hkey
    rw [List.getElem?_concat_length] at hx
    cases hx
    have hnot : ¬ released w.barriers.length := fun h => Nat.lt_irrefl _ (hreleased _ h)
    rw [hold _ hctx.1]
    show (w.scopes.addChild a.ctx.scope).isCancelled w.scopes.next = true ↔ _
    rw [Scopes.isCancelled_addChild_next]
    simp [hnot, Barrier.abandoned]
  · have hlt : key < w.barriers.length := by
      have hlt := (List.getElem?_eq_some_iff.mp hx).1
      simp only [List.length_append, List.length_singleton] at hlt
      exact Nat.lt_of_le_of_ne (Nat.le_of_lt_succ hlt) hkey
    rw [List.getElem?_append_left hlt] at hx
    have hplace := Board.place?_of_barrier (b := w.board) hx
    rw [hold _ (hw.lt_next hplace), hold _ (hw.isContext hplace).1]
    exact h key x hx

theorem give_settled (hw : w.board.Tidy) (h : w.board.Settled released) {key : BarrierKey}
    (task : TaskId) (hcaller : w.CallerHas (·.waitHolder) key) :
    (w.modifyBarrier key fun b => { b with waitHolder := some (.task task) }).board.Settled
      released := by
  obtain ⟨y, hy, hwait⟩ := hcaller
  refine h.frees hw (modifyBarrier_frees hw key fun _ => ⟨rfl, rfl⟩) ?_
  intro key' x x' hx hx'
  have hx : w.barriers[key']? = some x := hx
  have hx' : (w.barriers.modify key _)[key']? = some x' := hx'
  rw [List.getElem?_modify, hx] at hx'
  by_cases hkey : key = key'
  · subst hkey
    cases hy.symm.trans hx
    have hwait : y.waitHolder = some .caller := hwait
    simp only [if_pos, Option.map_eq_map, Option.map_some, Option.some.injEq] at hx'
    subst hx'
    simp [Barrier.abandoned, hwait]
  · simp only [if_neg hkey, Option.map_eq_map, Option.map_some, Option.some.injEq] at hx'
    subst hx'
    simp

/-- When halves are let go of, those barriers are freed that nobody has then. -/
theorem settled_of_abandoned {w' : World} (hw : w.board.Tidy) (h : w.board.Settled released)
    (hfrees : w.board.Frees w'.board fun key =>
      ∃ x : Barrier, w'.barriers[key]? = some x ∧ x.abandoned = true)
    (hflags : ∀ (key : BarrierKey) (x x' : Barrier), w.barriers[key]? = some x →
      w'.barriers[key]? = some x' →
        x'.matched = x.matched ∧ (x.abandoned = true → x'.abandoned = true)) :
    w'.board.Settled released := by
  refine h.frees hw hfrees ?_
  intro key x x' hx hx'
  obtain ⟨hmatched, habandoned⟩ := hflags key x x' hx hx'
  have hx' : w'.barriers[key]? = some x' := hx'
  rw [hmatched, hx']
  simp only [Option.some.injEq, exists_eq_left']
  grind

theorem loosen_settled {t : Transition} {key : BarrierKey} {f : Barrier → Barrier}
    (hl : w.Loosens t key f) {w₀ : World} (hw : w₀.board.Tidy)
    (h : w₀.board.Settled released) : (w₀.regrip key f).board.Settled released := by
  refine settled_of_abandoned hw h (regrip_frees hw key hl.place) ?_
  intro key' x x' hx hx'
  have hx' : (w₀.barriers.modify key f)[key']? = some x' := hx'
  rw [List.getElem?_modify, hx] at hx'
  by_cases hkey : key = key'
  · simp only [if_pos hkey, Option.map_eq_map, Option.map_some, Option.some.injEq] at hx'
    subst hx'
    exact ⟨hl.matched x, hl.abandoned⟩
  · simp only [if_neg hkey, Option.map_eq_map, Option.map_some, Option.some.injEq] at hx'
    subst hx'
    exact ⟨rfl, fun hx => hx⟩

theorem dropHoldings_settled (hw : w.board.Tidy) (h : w.board.Settled released)
    (holder : Holder) : (w.dropHoldings holder).board.Settled released := by
  refine settled_of_abandoned hw h (dropHoldings_frees hw holder) ?_
  intro key x x' hx hx'
  have hx' : (w.barriers.map (Barrier.dropHalves holder))[key]? = some x' := hx'
  rw [List.getElem?_map, hx] at hx'
  simp only [Option.map_some, Option.some.injEq] at hx'
  subst hx'
  exact ⟨rfl, Barrier.abandoned_dropHalves holder⟩

theorem release_barriers (w : World) (key : BarrierKey) :
    (w.release key).barriers = w.barriers := by
  unfold release
  split <;> rfl

theorem release_settled (hw : w.board.Tidy) (h : w.board.Settled released) (key : BarrierKey) :
    (w.release key).board.Settled fun key' => released key' ∨ key' = key := by
  refine h.frees hw (release_frees hw key) ?_
  intro key' x x' hx hx'
  have hx' : (w.release key).barriers[key']? = some x' := hx'
  rw [release_barriers] at hx'
  cases hx.symm.trans hx'
  grind

theorem deliver_settled {armed : BarrierKey → Arming → Prop} (hw : w.board.Tidy)
    (hr : w.board.Registered armed) (h : w.board.Settled released) (page : PageKey)
    (event : Event) : (w.deliver page event).board.Settled released := by
  obtain ⟨hmatches, -⟩ := deliver_matches hw page event fun l hl => hr.place hl
  refine h.frees hw hmatches.toFrees ?_
  intro key x x' hx hx'
  obtain ⟨m, hm, hiff⟩ := hmatches.barrier key x hx
  cases hm.symm.trans hx'
  show m = true ∨ released key ∨ x.abandoned = true ↔ _
  rw [hiff]
  grind

/-- Every step of a board keeps the account of the cancelled barriers. -/
theorem BoardStep.settled {armed : BarrierKey → Arming → Prop} {w₀ w₁ : World} {t : Transition}
    (hstep : w.BoardStep t w₀ w₁) (hboard : w₀.board = w.board) (hw : w.board.Tidy)
    (hr : w.board.Registered armed) (h : w.board.Settled released)
    (hreleased : ∀ key, released key → key < w.barriers.length) (ht : t.Admissible w)
    (harm : ∀ key a, w.arming? t = some (key, a) → w.board.IsContext a.ctx.scope) :
    w₁.board.Settled fun key => released key ∨ t = .release key := by
  have hbarriers : w₀.barriers = w.barriers := congrArg Board.barriers hboard
  rw [← hbarriers] at hreleased
  rw [← hboard] at hw hr h harm
  have hplain : ∀ {w' : World}, (∀ key, t ≠ .release key) → w'.board.Settled released →
      w'.board.Settled fun key => released key ∨ t = .release key := by
    intro w' hnot hsettled
    have heq : (fun key => released key ∨ t = .release key) = released :=
      funext fun key => by simp [hnot key]
    rwa [heq]
  cases hstep with
  | rest hp => exact hplain hp.release h
  | newScope parent heq => exact hplain (by simp [heq]) (newScope_settled hw h parent)
  | cancel scope heq =>
    subst heq
    exact hplain nofun (cancel_settled hw h (hboard ▸ isContext_iff.mp ht))
  | openPage session frame holder hp => exact hplain hp.release h
  | @arm a holder ha _ =>
    refine hplain ?_ (arm_settled hw h hreleased a (harm _ _ ha) holder)
    rintro key rfl
    cases ha
  | give key task heq =>
    subst heq
    refine hplain nofun (give_settled hw h task ?_)
    obtain ⟨y, hy, hwait⟩ := ht
    exact ⟨y, by rw [hbarriers]; exact hy, hwait⟩
  | release key heq =>
    subst heq
    have heq : (fun key' => released key' ∨ Transition.release key = .release key') =
        fun key' => released key' ∨ key' = key :=
      funext fun key' => by simp [@eq_comm _ key']
    rw [heq]
    exact release_settled hw h key
  | loosen hl => exact hplain hl.plain.release (loosen_settled hl hw h)
  | retire hp => exact hplain hp.plain.release (dropHoldings_settled hw h _)
  | listen page scope recorder heq =>
    refine hplain (by simp [heq]) ?_
    rw [listen_board]
    exact h
  | deliver hd =>
    refine hplain ?_ (deliver_settled hw hr h _ _)
    rintro key rfl
    cases hd

end World

/-! ### Contexts -/

namespace Board

/-- The scope of a context is cancelled when it or a scope above it was. -/
def Ended (b : Board) (cancelled : ScopeId → Prop) : Prop :=
  ∀ scope, b.IsContext scope →
    (b.scopes.isCancelled scope = true ↔ ∃ a, cancelled a ∧ b.scopes.Descends a scope)

variable {b b' : Board} {cancelled : ScopeId → Prop} {freed : BarrierKey → Prop}

theorem Ended.frees (h : b.Ended cancelled) (hfrees : b.Frees b' freed) : b'.Ended cancelled := by
  intro scope hscope
  have hold : b.IsContext scope :=
    ⟨hfrees.next ▸ hscope.1, fun key ctx => hfrees.place key ▸ hscope.2 key ctx⟩
  rw [hfrees.isCancelled_context hold, h scope hold]
  simp only [Scopes.descends_congr hfrees.parent]

end Board

namespace World

variable {w : World} {cancelled : ScopeId → Prop}

theorem newScope_ended (hw : w.board.Tidy) (h : w.board.Ended cancelled)
    (hknown : ∀ a, cancelled a → a < w.scopes.next) (parent : Option ScopeId)
    (hparent : ∀ p, parent = some p → w.board.IsContext p) :
    (w.newScope parent).board.Ended cancelled := by
  have hgrown : w.scopes.Grown := hw.grown
  intro scope hscope
  have hold : scope < w.scopes.next → w.board.IsContext scope := fun hlt => ⟨hlt, hscope.2⟩
  have hnew : ¬ scope < w.scopes.next → scope = w.scopes.next := by
    intro hge
    have hlt : scope < w.scopes.next + 1 := by
      cases parent with
      | none => exact Nat.lt_of_lt_of_eq hscope.1 (Board.next_addRoot _)
      | some p => exact Nat.lt_of_lt_of_eq hscope.1 (Board.next_addChild _ p)
    exact Nat.le_antisymm (Nat.lt_succ_iff.mp hlt) (Nat.not_lt.mp hge)
  cases parent with
  | none =>
    show w.scopes.addRoot.isCancelled scope = true ↔
      ∃ a, cancelled a ∧ w.scopes.addRoot.Descends a scope
    rw [Scopes.isCancelled_addRoot]
    simp only [Scopes.descends_congr fun _ => Scopes.parentOf?_addRoot]
    by_cases hlt : scope < w.scopes.next
    · exact h scope (hold hlt)
    · obtain rfl := hnew hlt
      constructor
      · intro hc
        exact absurd (Scopes.lt_next_of_isCancelled hc) (Nat.lt_irrefl _)
      · rintro ⟨a, ha, hdescends⟩
        cases hdescends with
        | self => exact absurd (hknown _ ha) (Nat.lt_irrefl _)
        | child hp _ => exact absurd (Scopes.lt_next_of_parentOf? hp) (Nat.lt_irrefl _)
  | some p =>
    have hp := hparent p rfl
    show (w.scopes.addChild p).isCancelled scope = true ↔
      ∃ a, cancelled a ∧ (w.scopes.addChild p).Descends a scope
    by_cases hlt : scope < w.scopes.next
    · rw [Scopes.isCancelled_addChild hlt]
      simp only [Scopes.descends_addChild hgrown hlt]
      exact h scope (hold hlt)
    -- The new scope is cancelled if its parent is, and that was accounted for.
    · obtain rfl := hnew hlt
      rw [Scopes.isCancelled_addChild_next]
      simp only [Scopes.descends_addChild_next hgrown hp.1]
      refine (h p hp).trans (exists_congr fun a => and_congr_right fun ha => ?_)
      exact (or_iff_right (Nat.ne_of_lt (hknown a ha))).symm

theorem cancel_ended (hw : w.board.Tidy) (h : w.board.Ended cancelled) {a : ScopeId}
    (ha : a < w.scopes.next) :
    (w.cancel a).board.Ended fun scope => cancelled scope ∨ scope = a := by
  have hgrown : w.scopes.Grown := hw.grown
  intro scope hscope
  have hold : w.board.IsContext scope :=
    ⟨Nat.lt_of_lt_of_eq hscope.1 Scopes.next_cancel, hscope.2⟩
  show (w.scopes.cancel a).isCancelled scope = true ↔
    ∃ a', (cancelled a' ∨ a' = a) ∧ (w.scopes.cancel a).Descends a' scope
  simp only [Scopes.descends_congr fun _ => Scopes.parentOf?_cancel]
  rw [Scopes.isCancelled_cancel hgrown ha]
  have hbefore := h scope hold
  change w.scopes.isCancelled scope = true ↔ ∃ a', cancelled a' ∧ w.scopes.Descends a' scope
    at hbefore
  rw [hbefore]
  constructor
  · intro hreached
    rcases hreached with ⟨a', ha', hdescends⟩ | hdescends
    · exact ⟨a', .inl ha', hdescends⟩
    · exact ⟨a, .inr rfl, hdescends⟩
  · rintro ⟨a', ha' | rfl, hdescends⟩
    · exact .inl ⟨a', ha', hdescends⟩
    · exact .inr hdescends

theorem arm_ended (hw : w.board.Tidy) (h : w.board.Ended cancelled) (a : Arming)
    (holder : Holder) : (w.arm a.page a.ctx a.wanted holder).board.Ended cancelled := by
  have hgrown : w.scopes.Grown := hw.grown
  rw [arm_board]
  intro scope hscope
  have hplace := place?_unheard w a.ctx holder
  have hlt : scope < w.scopes.next := by
    have hlt : scope < (w.scopes.addChild a.ctx.scope).next := hscope.1
    rw [Board.next_addChild] at hlt
    refine Nat.lt_of_le_of_ne (Nat.lt_succ_iff.mp hlt) ?_
    rintro rfl
    exact hscope.2 w.barriers.length a.ctx ((hplace _).trans (if_pos rfl))
  have hold : w.board.IsContext scope :=
    ⟨hlt, fun key ctx hp => hscope.2 key ctx (place?_unheard_of_some hp)⟩
  show (w.scopes.addChild a.ctx.scope).isCancelled scope = true ↔
    ∃ a', cancelled a' ∧ (w.scopes.addChild a.ctx.scope).Descends a' scope
  rw [Scopes.isCancelled_addChild hlt]
  simp only [Scopes.descends_addChild hgrown hlt]
  exact h scope hold

/-- Every step of a board keeps the account of the cancelled contexts. -/
theorem BoardStep.ended {armed : BarrierKey → Arming → Prop} {w₀ w₁ : World} {t : Transition}
    (hstep : w.BoardStep t w₀ w₁) (hboard : w₀.board = w.board) (hw : w.board.Tidy)
    (hr : w.board.Registered armed) (h : w.board.Ended cancelled)
    (hknown : ∀ a, cancelled a → a < w.scopes.next) (ht : t.Admissible w) :
    w₁.board.Ended fun a => cancelled a ∨ t = .cancel a := by
  have hscopes : w₀.scopes = w.scopes := congrArg Board.scopes hboard
  rw [← hscopes] at hknown
  rw [← hboard] at hw hr h
  have hother : ∀ {w' : World}, (∀ a, t ≠ .cancel a) → w'.board.Ended cancelled →
      w'.board.Ended fun a => cancelled a ∨ t = .cancel a := by
    intro w' hnot hended
    have heq : (fun a => cancelled a ∨ t = .cancel a) = cancelled :=
      funext fun a => by simp [hnot a]
    rwa [heq]
  cases hstep with
  | rest hp => exact hother hp.cancel h
  | newScope parent heq =>
    refine hother (by simp [heq]) (newScope_ended hw h hknown parent ?_)
    intro p hp
    subst heq hp
    exact hboard ▸ isContext_iff.mp ht
  | cancel a heq =>
    subst heq
    have heq : (fun a' => cancelled a' ∨ Transition.cancel a = .cancel a') =
        fun a' => cancelled a' ∨ a' = a :=
      funext fun a' => by simp [@eq_comm _ a']
    rw [heq]
    exact cancel_ended hw h (hscopes ▸ ht.1)
  | openPage session frame holder hp => exact hother hp.cancel h
  | arm holder ha _ =>
    refine hother ?_ (arm_ended hw h _ holder)
    rintro a rfl
    cases ha
  | give key task heq =>
    exact hother (by simp [heq]) (h.frees (modifyBarrier_frees hw key fun _ => ⟨rfl, rfl⟩))
  | release key heq => exact hother (by simp [heq]) (h.frees (release_frees hw key))
  | loosen hl => exact hother hl.plain.cancel (h.frees (regrip_frees hw _ hl.place))
  | retire hp => exact hother hp.plain.cancel (h.frees (dropHoldings_frees hw _))
  | listen page scope recorder heq =>
    refine hother (by simp [heq]) ?_
    rw [listen_board]
    exact h
  | deliver hd =>
    refine hother ?_ (h.frees (deliver_matches hw _ _ fun l hl => hr.place hl).1.toFrees)
    rintro a rfl
    cases hd

end World

end PagePilot
