import PagePilot.Proofs.Barrier.Board
import PagePilot.Proofs.Scope
/-!
# PagePilot.Proofs.Barrier.Layout

How barriers lie on a board. Each has a scope of its own below that of its context, and
nothing derives from it (`Board.Tidy`). So freeing a barrier, by a match, by a release or
because nobody has it any more, concerns no other barrier and no context. `Board.Frees`
says this once for all ways of freeing.
-/

namespace PagePilot

open Wire

namespace Board

/-- The scope of a barrier, and the context above it. -/
def place? (b : Board) (key : BarrierKey) : Option (ScopeId × Context) :=
  b.barriers[key]?.map fun x => (x.scope, x.ctx)

/-- Every barrier has a scope of its own, which derives from that of its context and from
which nothing derives. -/
structure Tidy (b : Board) : Prop where
  grown : b.scopes.Grown
  child : ∀ key scope ctx, b.place? key = some (scope, ctx) →
    b.scopes.parentOf? scope = some ctx.scope
  leaf : ∀ key scope ctx, b.place? key = some (scope, ctx) →
    ∀ y, b.scopes.parentOf? y ≠ some scope
  distinct : ∀ key key' scope ctx ctx', b.place? key = some (scope, ctx) →
    b.place? key' = some (scope, ctx') → key = key'

/-- Whether a scope is that of a context. -/
def IsContext (b : Board) (scope : ScopeId) : Prop :=
  scope < b.scopes.next ∧ ∀ key ctx, b.place? key ≠ some (scope, ctx)

/-- The listeners of some barriers are gone, and nothing else has changed but what is
known of these barriers. -/
structure Frees (b b' : Board) (freed : BarrierKey → Prop) : Prop where
  next : b'.scopes.next = b.scopes.next
  grown : b'.scopes.Grown
  parent : ∀ y, b'.scopes.parentOf? y = b.scopes.parentOf? y
  place : ∀ key, b'.place? key = b.place? key
  cancelled : ∀ y, b'.scopes.isCancelled y = true ↔
    b.scopes.isCancelled y = true ∨ ∃ key ctx, freed key ∧ b.place? key = some (y, ctx)

variable {b b' b'' : Board} {freed freed' : BarrierKey → Prop} {key : BarrierKey}
  {scope : ScopeId} {ctx : Context}

theorem place?_eq_some :
    b.place? key = some (scope, ctx) ↔ ∃ x, b.barriers[key]? = some x ∧ x.scope = scope ∧ x.ctx = ctx := by
  simp only [place?, Option.map_eq_some_iff, Prod.mk.injEq]

theorem place?_of_barrier {x : Barrier} (h : b.barriers[key]? = some x) :
    b.place? key = some (x.scope, x.ctx) :=
  place?_eq_some.mpr ⟨x, h, rfl, rfl⟩

/-- What derives from nothing that is a barrier's is a context's. -/
theorem Tidy.isContext (hb : b.Tidy) (h : b.place? key = some (scope, ctx)) :
    b.IsContext ctx.scope := by
  have hchild := hb.child key scope ctx h
  refine ⟨Nat.lt_trans (hb.grown.ordered _ _ hchild) (Scopes.lt_next_of_parentOf? hchild), ?_⟩
  intro key' ctx' h'
  exact hb.leaf key' _ ctx' h' scope hchild

theorem Tidy.congr (hb : b.Tidy) (hgrown : b'.scopes.Grown)
    (hparent : ∀ y, b'.scopes.parentOf? y = b.scopes.parentOf? y)
    (hplace : ∀ key, b'.place? key = b.place? key) : b'.Tidy where
  grown := hgrown
  child key scope ctx h := by
    rw [hparent]
    exact hb.child key scope ctx (hplace key ▸ h)
  leaf key scope ctx h y := by
    rw [hparent]
    exact hb.leaf key scope ctx (hplace key ▸ h) y
  distinct key key' scope ctx ctx' h h' :=
    hb.distinct key key' scope ctx ctx' (hplace key ▸ h) (hplace key' ▸ h')

namespace Frees

theorem tidy (h : b.Frees b' freed) (hb : b.Tidy) : b'.Tidy :=
  hb.congr h.grown h.parent h.place

theorem refl (hb : b.Tidy) : b.Frees b fun _ => False :=
  ⟨rfl, hb.grown, fun _ => rfl, fun _ => rfl, fun _ => by simp⟩

theorem trans (h : b.Frees b' freed) (h' : b'.Frees b'' freed') :
    b.Frees b'' fun key => freed key ∨ freed' key where
  next := h'.next.trans h.next
  grown := h'.grown
  parent y := (h'.parent y).trans (h.parent y)
  place key := (h'.place key).trans (h.place key)
  cancelled y := by
    rw [h'.cancelled, h.cancelled, or_assoc]
    refine or_congr_right ?_
    simp only [h.place, or_and_right, exists_or]

/-- Which barriers are freed matters only for those that there are. -/
theorem congr (h : b.Frees b' freed)
    (hiff : ∀ key scope ctx, b.place? key = some (scope, ctx) → (freed key ↔ freed' key)) :
    b.Frees b' freed' :=
  { h with
    cancelled := fun y => by
      rw [h.cancelled]
      refine or_congr_right (exists_congr fun key => exists_congr fun ctx => ?_)
      exact and_congr_left fun hplace => hiff key y ctx hplace }

/-- What happens to the flags of barriers frees none. -/
theorem of_place (hb : b.Tidy) (hscopes : b'.scopes = b.scopes)
    (hplace : ∀ key, b'.place? key = b.place? key) : b.Frees b' fun _ => False :=
  ⟨by rw [hscopes], hscopes ▸ hb.grown, fun _ => by rw [hscopes], hplace, fun _ => by simp [hscopes]⟩

/-- Contexts are not concerned. -/
theorem isCancelled_context (h : b.Frees b' freed) (hscope : b.IsContext scope) :
    b'.scopes.isCancelled scope = b.scopes.isCancelled scope := by
  rw [Bool.eq_iff_iff, h.cancelled]
  refine ⟨fun h => h.elim (fun h => h) ?_, .inl⟩
  rintro ⟨key, ctx, -, hplace⟩
  exact absurd hplace (hscope.2 key ctx)

/-- Of the barriers, those that are freed are concerned, and no others. -/
theorem isCancelled_place (h : b.Frees b' freed) (hb : b.Tidy)
    (hplace : b.place? key = some (scope, ctx)) :
    b'.scopes.isCancelled scope = true ↔ b.scopes.isCancelled scope = true ∨ freed key := by
  rw [h.cancelled]
  refine or_congr_right ⟨?_, fun hkey => ⟨key, ctx, hkey, hplace⟩⟩
  rintro ⟨key', ctx', hkey', hplace'⟩
  exact hb.distinct key key' scope ctx ctx' hplace hplace' ▸ hkey'

end Frees

end Board

namespace World

variable {w : World} {key : BarrierKey}

theorem place?_of_barrier {x : Barrier} (h : w.barriers[key]? = some x) :
    w.board.place? key = some (x.scope, x.ctx) :=
  Board.place?_of_barrier h

theorem barrier_of_place? {scope : ScopeId} {ctx : Context}
    (h : w.board.place? key = some (scope, ctx)) :
    ∃ x : Barrier, w.barriers[key]? = some x ∧ x.scope = scope ∧ x.ctx = ctx :=
  Board.place?_eq_some.mp h

/-- Cancelling the scope of a barrier frees this barrier. -/
theorem cancel_frees (hw : w.board.Tidy) {scope : ScopeId} {ctx : Context}
    (hplace : w.board.place? key = some (scope, ctx)) :
    w.board.Frees (w.cancel scope).board (· = key) where
  next := Scopes.next_cancel
  grown := hw.grown.cancel
  parent _ := Scopes.parentOf?_cancel
  place _ := rfl
  cancelled y := by
    have hlt := Scopes.lt_next_of_parentOf? (hw.child key scope ctx hplace)
    refine (Scopes.isCancelled_cancel_leaf hw.grown hlt (hw.leaf key scope ctx hplace)).trans ?_
    refine or_congr_right ⟨?_, ?_⟩
    · rintro rfl
      exact ⟨key, ctx, rfl, hplace⟩
    · rintro ⟨key', ctx', rfl, hplace'⟩
      cases hplace.symm.trans hplace'
      rfl

theorem release_frees (hw : w.board.Tidy) (key : BarrierKey) :
    w.board.Frees (w.release key).board (· = key) := by
  unfold release
  cases hx : w.barriers[key]? with
  | none =>
    refine (Board.Frees.refl hw).congr fun key' scope ctx hplace => ⟨False.elim, ?_⟩
    rintro rfl
    simp [Board.place?, board, hx] at hplace
  | some x => exact cancel_frees hw (place?_of_barrier hx)

/-! ### Abandoned barriers -/

theorem cancelAll_frees (hw : w.board.Tidy) (xs : List Barrier)
    (hxs : ∀ x ∈ xs, ∃ key : BarrierKey, w.barriers[key]? = some x) :
    w.board.Frees
      { w with scopes := xs.foldl (fun s (b : Barrier) => s.cancel b.scope) w.scopes }.board
      fun key => ∃ x ∈ xs, w.barriers[key]? = some x := by
  induction xs generalizing w with
  | nil => exact (Board.Frees.refl hw).congr fun _ _ _ _ => by simp
  | cons x xs ih =>
    obtain ⟨key, hkey⟩ := hxs x (List.mem_cons_self ..)
    have hplace := place?_of_barrier hkey
    have hfirst := cancel_frees hw hplace
    have hrest := ih (hfirst.tidy hw) fun y hy => hxs y (List.mem_cons_of_mem x hy)
    refine (hfirst.trans hrest).congr fun key' scope ctx hplace' => ⟨?_, ?_⟩
    · intro hfreed
      rcases hfreed with rfl | ⟨y, hy, hkey'⟩
      · exact ⟨x, List.mem_cons_self .., hkey⟩
      · exact ⟨y, List.mem_cons_of_mem x hy, hkey'⟩
    · rintro ⟨y, hy, hkey'⟩
      rcases List.mem_cons.mp hy with rfl | hy
      -- Two barriers with one scope are one barrier.
      · refine .inl ?_
        exact hw.distinct key' key _ _ _ (place?_of_barrier hkey') hplace
      · exact .inr ⟨y, hy, hkey'⟩

theorem releaseAbandoned_frees (hw : w.board.Tidy) :
    w.board.Frees w.releaseAbandoned.board
      fun key => ∃ x, w.barriers[key]? = some x ∧ x.abandoned = true := by
  refine (cancelAll_frees hw (w.barriers.filter Barrier.abandoned) ?_).congr ?_
  · intro x hx
    exact List.mem_iff_getElem?.mp (List.mem_filter.mp hx).1
  · intro key scope ctx _
    constructor
    · rintro ⟨x, hx, hkey⟩
      exact ⟨x, hkey, (List.mem_filter.mp hx).2⟩
    · rintro ⟨x, hkey, hx⟩
      exact ⟨x, List.mem_filter.mpr ⟨List.mem_of_getElem? hkey, hx⟩, hkey⟩

theorem place?_modifyBarrier (w : World) (key key' : BarrierKey) {f : Barrier → Barrier}
    (hf : ∀ x, (f x).scope = x.scope ∧ (f x).ctx = x.ctx) :
    (w.modifyBarrier key f).board.place? key' = w.board.place? key' := by
  simp only [Board.place?, board, modifyBarrier, List.getElem?_modify]
  cases w.barriers[key']? with
  | none => rfl
  | some x =>
    by_cases h : key = key'
    · simp [h, hf]
    · simp [h]

/-- A barrier that changes otherwise than in its place is not freed by that. -/
theorem modifyBarrier_frees (hw : w.board.Tidy) (key : BarrierKey) {f : Barrier → Barrier}
    (hf : ∀ x, (f x).scope = x.scope ∧ (f x).ctx = x.ctx) :
    w.board.Frees (w.modifyBarrier key f).board fun _ => False :=
  .of_place hw rfl fun key' => place?_modifyBarrier w key key' hf

/-- When a barrier changes hands, those are freed that nobody has then. -/
theorem regrip_frees (hw : w.board.Tidy) (key : BarrierKey) {f : Barrier → Barrier}
    (hf : ∀ x, (f x).scope = x.scope ∧ (f x).ctx = x.ctx) :
    w.board.Frees (w.regrip key f).board fun key' =>
      ∃ x, (w.regrip key f).barriers[key']? = some x ∧ x.abandoned = true := by
  have hsame := modifyBarrier_frees hw key hf
  exact (hsame.trans (releaseAbandoned_frees (hsame.tidy hw))).congr fun _ _ _ _ => iff_of_eq (false_or _)

/-- When somebody lets go of everything, those are freed that nobody has then. -/
theorem dropHoldings_frees (hw : w.board.Tidy) (holder : Holder) :
    w.board.Frees (w.dropHoldings holder).board fun key =>
      ∃ x, (w.dropHoldings holder).barriers[key]? = some x ∧ x.abandoned = true := by
  have hsame : w.board.Frees
      { w with
        pages := w.pages.map (PageState.dropHolder holder)
        barriers := w.barriers.map (Barrier.dropHalves holder) }.board fun _ => False := by
    refine .of_place hw rfl ?_
    intro key
    simp only [Board.place?, board, List.getElem?_map, Option.map_map]
    rfl
  exact (hsame.trans (releaseAbandoned_frees (hsame.tidy hw))).congr fun _ _ _ _ => iff_of_eq (false_or _)

end World

end PagePilot
