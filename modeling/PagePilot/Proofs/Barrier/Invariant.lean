import PagePilot.Proofs.Barrier.Registered
import PagePilot.Proofs.Machine.Run
/-!
# PagePilot.Proofs.Barrier.Invariant

What every step keeps of a board: barriers lie apart from each other and from contexts
(`Board.Tidy`), their listeners are registered (`Board.Registered`), and what there is once
stays (`World.Keeps`). The reasons for which scopes are cancelled are followed in
`PagePilot.Proofs.Barrier.Settled`, and runs in `PagePilot.Proofs.Barrier.History`.
-/

namespace PagePilot

open Wire

namespace Board

variable {b b' : Board} {armed : BarrierKey → Arming → Prop} {freed : BarrierKey → Prop}
  {key : BarrierKey} {scope p : ScopeId} {ctx : Context}

/-! ### New scopes and barriers -/

theorem Tidy.onPage (hb : b.Tidy) (page : PageKey) (f : Listeners Handler → Listeners Handler) :
    (b.onPage page f).Tidy :=
  ⟨hb.grown, hb.child, hb.leaf, hb.distinct⟩

theorem Tidy.lt_next (hb : b.Tidy) (h : b.place? key = some (scope, ctx)) :
    scope < b.scopes.next :=
  Scopes.lt_next_of_parentOf? (hb.child key scope ctx h)

theorem Tidy.addRoot (hb : b.Tidy) : Tidy { b with scopes := b.scopes.addRoot } :=
  hb.congr hb.grown.addRoot (fun _ => Scopes.parentOf?_addRoot) fun _ => rfl

theorem Tidy.addChild (hb : b.Tidy) (hp : b.IsContext p) :
    Tidy { b with scopes := b.scopes.addChild p } where
  grown := hb.grown.addChild hp.1
  child key scope ctx h :=
    (Scopes.parentOf?_addChild (Nat.ne_of_lt (hb.lt_next h))).trans (hb.child key scope ctx h)
  leaf key scope ctx h y hy := by
    by_cases hnext : y = b.scopes.next
    · rw [hnext, Scopes.parentOf?_addChild_next] at hy
      cases hy
      exact hp.2 key ctx h
    · rw [Scopes.parentOf?_addChild hnext] at hy
      exact hb.leaf key scope ctx h y hy
  distinct := hb.distinct

theorem place?_append (x : Barrier) (key : BarrierKey) :
    place? { b with barriers := b.barriers ++ [x] } key =
      if key = b.barriers.length then some (x.scope, x.ctx) else b.place? key := by
  unfold place?
  rcases Nat.lt_trichotomy key b.barriers.length with hlt | rfl | hgt
  · rw [if_neg (Nat.ne_of_lt hlt), List.getElem?_append_left hlt]
  · simp
  · rw [if_neg (Nat.ne_of_gt hgt), List.getElem?_eq_none (by simp; omega),
      List.getElem?_eq_none (Nat.le_of_lt hgt)]

theorem place?_length : b.place? b.barriers.length = none := by
  simp [place?]

/-- A barrier may come with a scope of its own. -/
theorem Tidy.append (hb : b.Tidy) {x : Barrier}
    (hchild : b.scopes.parentOf? x.scope = some x.ctx.scope)
    (hleaf : ∀ y, b.scopes.parentOf? y ≠ some x.scope)
    (hnew : ∀ key ctx, b.place? key ≠ some (x.scope, ctx)) :
    Tidy { b with barriers := b.barriers ++ [x] } where
  grown := hb.grown
  child key scope ctx h := by
    rw [place?_append] at h
    split at h
    · cases h
      exact hchild
    · exact hb.child key scope ctx h
  leaf key scope ctx h := by
    rw [place?_append] at h
    split at h
    · cases h
      exact hleaf
    · exact hb.leaf key scope ctx h
  distinct key key' scope ctx ctx' h h' := by
    rw [place?_append] at h h'
    split at h <;> split at h'
    · rename_i hkey hkey'
      rw [hkey, hkey']
    · cases h
      exact absurd h' (hnew key' ctx')
    · cases h'
      exact absurd h (hnew key ctx)
    · exact hb.distinct key key' scope ctx ctx' h h'

theorem Frees.isContext (h : b.Frees b' freed) (hscope : b.IsContext scope) :
    b'.IsContext scope :=
  ⟨h.next ▸ hscope.1, fun key ctx => h.place key ▸ hscope.2 key ctx⟩

theorem next_addRoot (s : Scopes) : s.addRoot.next = s.next + 1 := by
  simp [Scopes.next, Scopes.addRoot]

theorem next_addChild (s : Scopes) (p : ScopeId) : (s.addChild p).next = s.next + 1 := by
  simp [Scopes.next, Scopes.addChild]

end Board

namespace World

variable {w : World} {armed : BarrierKey → Arming → Prop}

/-- The board right before the listener of a new barrier is registered. -/
def unheard (w : World) (ctx : Context) (holder : Holder) : Board :=
  { w.board with
    scopes := w.scopes.addChild ctx.scope
    barriers := w.barriers ++
      [{ scope := w.scopes.next, ctx, matched := false, waitHolder := some holder,
         releaseHolder := some holder }] }

theorem arm_board (w : World) (page : PageKey) (ctx : Context) (wanted : Event → Bool)
    (holder : Holder) :
    (w.arm page ctx wanted holder).board = (w.unheard ctx holder).onPage page
      (·.listen (w.unheard ctx holder).scopes w.scopes.next (.barrier w.barriers.length wanted)) :=
  modifyPage_onPage { w with
    scopes := w.scopes.addChild ctx.scope
    barriers := w.barriers ++
      [{ scope := w.scopes.next, ctx, matched := false, waitHolder := some holder,
         releaseHolder := some holder }] } page fun _ => rfl

theorem place?_unheard (w : World) (ctx : Context) (holder : Holder) (key : BarrierKey) :
    (w.unheard ctx holder).place? key =
      if key = w.barriers.length then some (w.scopes.next, ctx) else w.board.place? key :=
  Board.place?_append (b := { w.board with scopes := w.scopes.addChild ctx.scope }) _ key

theorem place?_unheard_of_some {ctx : Context} {holder : Holder} {key : BarrierKey}
    {p : ScopeId × Context} (h : w.board.place? key = some p) :
    (w.unheard ctx holder).place? key = some p := by
  rw [place?_unheard, if_neg]
  · exact h
  · rintro rfl
    cases Board.place?_length.symm.trans h

theorem unheard_tidy (hw : w.board.Tidy) {ctx : Context} (hctx : w.board.IsContext ctx.scope)
    (holder : Holder) : (w.unheard ctx holder).Tidy := by
  refine (hw.addChild hctx).append Scopes.parentOf?_addChild_next ?_ ?_
  · intro y hy
    change (w.scopes.addChild ctx.scope).parentOf? y = some w.scopes.next at hy
    by_cases hnext : y = w.scopes.next
    · rw [hnext, Scopes.parentOf?_addChild_next] at hy
      exact Nat.ne_of_lt hctx.1 (Option.some.inj hy)
    · rw [Scopes.parentOf?_addChild hnext] at hy
      exact Nat.lt_asymm (Scopes.lt_next_of_parentOf? hy) (hw.grown.ordered _ _ hy)
  · intro key ctx' h
    have hold : w.board.place? key = some (w.scopes.next, ctx') := h
    exact Nat.lt_irrefl _ (hw.lt_next hold)

theorem arm_registered (hw : w.board.Tidy) (h : w.board.Registered armed) (a : Arming)
    (holder : Holder) :
    (w.arm a.page a.ctx a.wanted holder).board.Registered fun key' a' =>
      armed key' a' ∨ ((key', a') = (w.barriers.length, a) ∧ (w.board.listeners a'.page).isSome) := by
  have hunheard : (w.unheard a.ctx holder).Registered armed := by
    refine h.mono rfl (fun key p => place?_unheard_of_some) ?_
    intro key scope ctx hplace hlive
    exact (Scopes.isCancelled_addChild (hw.lt_next hplace)).symm.trans hlive
  have hnew : ∀ a', ¬ armed w.barriers.length a' := by
    intro a' ha'
    obtain ⟨scope, hplace⟩ := h.placed _ a' ha'
    cases Board.place?_length.symm.trans hplace
  have hplace : (w.unheard a.ctx holder).place? w.barriers.length = some (w.scopes.next, a.ctx) := by
    rw [place?_unheard, if_pos rfl]
  rw [arm_board]
  refine (hunheard.listen_barrier hnew hplace a.page a.wanted).congr ?_
  intro key' a'
  refine or_congr_right ⟨?_, ?_⟩
  · rintro ⟨rfl, rfl, hsome⟩
    exact ⟨rfl, hsome⟩
  · rintro ⟨heq, hsome⟩
    obtain ⟨rfl, rfl⟩ := Prod.mk.inj heq
    exact ⟨rfl, rfl, hsome⟩

/-! ### One step -/

theorem isContext_iff {scope : ScopeId} : w.IsContext scope ↔ w.board.IsContext scope := by
  refine and_congr_right fun _ => ⟨?_, ?_⟩
  · intro h key ctx hplace
    obtain ⟨x, hx, hscope, -⟩ := Board.place?_eq_some.mp hplace
    exact h x (List.mem_of_getElem? hx) hscope
  · intro h x hx heq
    obtain ⟨key, hkey⟩ := List.mem_iff_getElem?.mp hx
    exact h key x.ctx (heq ▸ place?_of_barrier hkey)

/-- What is kept of a board by each of its steps. -/
structure Keeps (w w' : World) (armed : BarrierKey → Arming → Prop) : Prop where
  tidy : w'.board.Tidy
  registered : w'.board.Registered armed
  contexts : ∀ scope, w.board.IsContext scope → w'.board.IsContext scope
  place : ∀ key p, w.board.place? key = some p → w'.board.place? key = some p
  pages : ∀ page, (w.board.listeners page).isSome → (w'.board.listeners page).isSome
  cancelled : ∀ scope, w.board.scopes.isCancelled scope = true →
    w'.board.scopes.isCancelled scope = true

theorem Keeps.of_frees {w' : World} {freed : BarrierKey → Prop} (hw : w.board.Tidy)
    (h : w.board.Registered armed) (hfrees : w.board.Frees w'.board freed)
    (hlisteners : w'.board.listeners = w.board.listeners) : w.Keeps w' armed :=
  ⟨hfrees.tidy hw, h.frees hfrees hlisteners, fun _ => hfrees.isContext,
    fun key _ hp => (hfrees.place key).trans hp, fun page hpage => by rwa [hlisteners],
    fun scope hc => (hfrees.cancelled scope).mpr (.inl hc)⟩

theorem isCancelled_addChild_mono {s : Scopes} {p scope : ScopeId}
    (h : s.isCancelled scope = true) : (s.addChild p).isCancelled scope = true :=
  (Scopes.isCancelled_addChild (Scopes.lt_next_of_isCancelled h)).trans h

theorem isSome_onPage (b : Board) (page : PageKey) (f : Listeners Handler → Listeners Handler)
    (page' : PageKey) (h : (b.listeners page').isSome) :
    ((b.onPage page f).listeners page').isSome := by
  simp only [Board.onPage]
  split
  · rwa [Option.isSome_map]
  · exact h

theorem newScope_keeps (hw : w.board.Tidy) (h : w.board.Registered armed)
    (parent : Option ScopeId) (hparent : ∀ p, parent = some p → w.board.IsContext p) :
    w.Keeps (w.newScope parent) armed := by
  cases parent with
  | none =>
    refine ⟨hw.addRoot, h.mono rfl (fun _ _ hp => hp) ?_, ?_,
      fun _ _ hp => hp, fun _ hp => hp, fun _ hc => Scopes.isCancelled_addRoot.trans hc⟩
    · intro key scope ctx _ hlive
      exact Scopes.isCancelled_addRoot.symm.trans hlive
    · intro s hs
      exact ⟨Nat.lt_of_lt_of_eq (Nat.lt_succ_of_lt hs.1) (Board.next_addRoot _).symm, hs.2⟩
  | some p =>
    refine ⟨hw.addChild (hparent p rfl), h.mono rfl (fun _ _ hp => hp) ?_, ?_,
      fun _ _ hp => hp, fun _ hp => hp, fun _ => isCancelled_addChild_mono⟩
    · intro key scope ctx hplace hlive
      exact (Scopes.isCancelled_addChild (hw.lt_next hplace)).symm.trans hlive
    · intro s hs
      exact ⟨Nat.lt_of_lt_of_eq (Nat.lt_succ_of_lt hs.1) (Board.next_addChild _ p).symm, hs.2⟩

theorem cancel_keeps (hw : w.board.Tidy) (h : w.board.Registered armed) (scope : ScopeId) :
    w.Keeps (w.cancel scope) armed := by
  refine ⟨hw.congr hw.grown.cancel (fun _ => Scopes.parentOf?_cancel) fun _ => rfl,
    h.mono rfl (fun _ _ hp => hp) ?_, ?_, fun _ _ hp => hp, fun _ hp => hp,
    fun _ hc => (Scopes.isCancelled_cancel_iff hw.grown).mpr (.inl hc)⟩
  · intro key s ctx _ hlive
    refine Bool.eq_false_iff.mpr fun hcancelled => Bool.eq_false_iff.mp hlive ?_
    exact (Scopes.isCancelled_cancel_iff hw.grown).mpr (.inl hcancelled)
  · intro s hs
    exact ⟨Nat.lt_of_lt_of_eq hs.1 Scopes.next_cancel.symm, hs.2⟩

theorem listeners_openPage {session : Option SessionId} {frame : Option FrameId} {holder : Holder}
    {page : PageKey} {l : Listeners Handler}
    (h : (w.openPage session frame holder).board.listeners page = some l) :
    w.board.listeners page = some l ∨ l = .empty := by
  simp only [openPage, board, List.getElem?_append] at h ⊢
  split at h
  · exact .inl h
  · refine .inr ?_
    rw [List.getElem?_singleton] at h
    split at h
    · cases h
      rfl
    · cases h

theorem openPage_keeps (hw : w.board.Tidy) (h : w.board.Registered armed)
    (session : Option SessionId) (frame : Option FrameId) (holder : Holder) :
    w.Keeps (w.openPage session frame holder) armed := by
  have hkept : ∀ page l, w.board.listeners page = some l →
      (w.openPage session frame holder).board.listeners page = some l := by
    intro page l hl
    obtain ⟨p, hp, rfl⟩ := Option.map_eq_some_iff.mp hl
    simp only [openPage, board]
    rw [List.getElem?_append_left (List.getElem?_eq_some_iff.mp hp).1, hp]
    rfl
  refine ⟨⟨hw.grown, hw.child, hw.leaf, hw.distinct⟩, ⟨h.placed, ?_, ?_, ?_⟩, fun _ hs => hs,
    fun _ _ hp => hp, fun page hpage => ?_, fun _ hc => hc⟩
  · intro page l reg key wanted hl hreg heq
    rcases listeners_openPage hl with hl | rfl
    · exact h.known page l reg key wanted hl hreg heq
    · cases hreg
  · intro key a scope ha hplace hlive
    obtain ⟨l, hl, hreg⟩ := h.kept key a scope ha hplace hlive
    exact ⟨l, hkept _ l hl, hreg⟩
  · intro page l hl
    rcases listeners_openPage hl with hl | rfl
    · exact h.once page l hl
    · exact List.nodup_nil
  · obtain ⟨l, hl⟩ := Option.isSome_iff_exists.mp hpage
    rw [hkept page l hl]
    rfl

theorem listen_keeps (hw : w.board.Tidy) (h : w.board.Registered armed) (page : PageKey)
    (scope : ScopeId) (name : String) :
    w.Keeps (w.listen page scope (.recorder name)) armed := by
  have hboard := listen_board w page scope (.recorder name)
  refine ⟨?_, ?_, ?_, fun key p hp => hp, ?_, fun _ hc => hc⟩
  · rw [hboard]
    exact hw.onPage ..
  · rw [hboard]
    exact h.listen_recorder page scope name
  · intro s hs
    rw [hboard]
    exact hs
  · intro page' hpage
    rw [hboard]
    exact isSome_onPage _ _ _ page' hpage

theorem deliver_keeps (hw : w.board.Tidy) (h : w.board.Registered armed) (page : PageKey)
    (event : Event) : w.Keeps (w.deliver page event) armed := by
  obtain ⟨hmatches, hlisteners⟩ := deliver_matches hw page event fun l hl => h.place hl
  have hpruned : (w.board.onPage page (·.prune w.scopes)).Frees (w.deliver page event).board _ :=
    ⟨hmatches.next, hmatches.grown, hmatches.parent, hmatches.place, hmatches.cancelled⟩
  refine ⟨hmatches.tidy hw, (h.prune page).frees hpruned hlisteners,
    fun _ => hmatches.toFrees.isContext, fun key _ hp => (hmatches.place key).trans hp,
    ?_, fun scope hc => (hmatches.cancelled scope).mpr (.inl hc)⟩
  intro page' hpage
  rw [hlisteners]
  exact isSome_onPage _ _ _ page' hpage

theorem arm_keeps (hw : w.board.Tidy) (h : w.board.Registered armed) (a : Arming)
    (hctx : w.board.IsContext a.ctx.scope) (holder : Holder) :
    w.Keeps (w.arm a.page a.ctx a.wanted holder) fun key' a' =>
      armed key' a' ∨ ((key', a') = (w.barriers.length, a) ∧ (w.board.listeners a'.page).isSome) := by
  refine ⟨?_, arm_registered hw h a holder, ?_, ?_, ?_, ?_⟩
  · rw [arm_board]
    exact (unheard_tidy hw hctx holder).onPage ..
  · intro s hs
    rw [arm_board]
    refine ⟨Nat.lt_of_lt_of_eq (Nat.lt_succ_of_lt hs.1) (Board.next_addChild _ _).symm, ?_⟩
    intro key ctx hplace
    change (w.unheard a.ctx holder).place? key = some (s, ctx) at hplace
    rw [place?_unheard] at hplace
    split at hplace
    · cases hplace
      exact Nat.lt_irrefl _ hs.1
    · exact hs.2 key ctx hplace
  · intro key p hp
    rw [arm_board]
    exact place?_unheard_of_some hp
  · intro page hpage
    rw [arm_board]
    exact isSome_onPage _ _ _ page hpage
  · intro scope hc
    rw [arm_board]
    exact isCancelled_addChild_mono hc

theorem Loosens.plain {t : Transition} {key : BarrierKey} {f : Barrier → Barrier}
    (h : w.Loosens t key f) : w.Plain t := by
  cases h with
  | disarm hd =>
    obtain ⟨rfl, -⟩ := deed?_eq_some hd
    exact plain_of_deed hd rfl
  | dropHalves | dropWait | dropRelease => exact ⟨rfl, rfl, rfl⟩

theorem Retires.plain {t : Transition} {task : TaskId} (h : w.Retires t task) : w.Plain t := by
  cases h with
  | finish h => exact plain_of_no_deed (by simp [deed?, h])
  | abort h => exact ⟨rfl, rfl, rfl⟩

theorem Loosens.place {t : Transition} {key : BarrierKey} {f : Barrier → Barrier}
    (h : w.Loosens t key f) (x : Barrier) : (f x).scope = x.scope ∧ (f x).ctx = x.ctx := by
  cases h <;> exact ⟨rfl, rfl⟩

theorem release_listeners (w : World) (key : BarrierKey) :
    (w.release key).board.listeners = w.board.listeners := by
  unfold release
  split <;> rfl

theorem dropHoldings_listeners (w : World) (holder : Holder) :
    (w.dropHoldings holder).board.listeners = w.board.listeners := by
  funext page
  simp only [dropHoldings, releaseAbandoned, board, List.getElem?_map, Option.map_map]
  rfl

/-- Every step of a board keeps it as it should be. -/
theorem BoardStep.keeps {w₀ w₁ : World} {t : Transition} (hstep : w.BoardStep t w₀ w₁)
    (hboard : w₀.board = w.board) (hw : w.board.Tidy) (h : w.board.Registered armed)
    (ht : t.Admissible w)
    (harm : ∀ key a, w.arming? t = some (key, a) → w.board.IsContext a.ctx.scope) :
    w₀.Keeps w₁ fun key a =>
      armed key a ∨ (w.arming? t = some (key, a) ∧ (w.board.listeners a.page).isSome) := by
  rw [← hboard] at hw h harm ⊢
  have hplain : ∀ {w' : World}, w.arming? t = none → w₀.Keeps w' armed → w₀.Keeps w' fun key a =>
      armed key a ∨ (w.arming? t = some (key, a) ∧ (w₀.board.listeners a.page).isSome) := by
    intro w' hnone hkeeps
    exact { hkeeps with registered := hkeeps.registered.congr fun key a => by simp [hnone] }
  cases hstep with
  | rest hp => exact hplain hp.arming (.of_frees hw h (.refl hw) rfl)
  | newScope parent heq =>
    subst heq
    refine hplain rfl (newScope_keeps hw h parent ?_)
    intro p hp
    subst hp
    exact hboard ▸ isContext_iff.mp ht
  | cancel scope heq =>
    subst heq
    exact hplain rfl (cancel_keeps hw h scope)
  | openPage session frame holder hp => exact hplain hp.arming (openPage_keeps hw h ..)
  | arm holder ha _ =>
    have hlength : w₀.barriers.length = w.barriers.length :=
      congrArg (fun b => b.barriers.length) hboard
    have hkeeps := arm_keeps hw h _ (harm _ _ ha) holder
    refine { hkeeps with registered := hkeeps.registered.congr ?_ }
    intro key a
    rw [ha, hlength, Option.some.injEq, @eq_comm _ (key, a)]
  | give key task heq =>
    subst heq
    exact hplain rfl (.of_frees hw h (modifyBarrier_frees hw key fun _ => ⟨rfl, rfl⟩) rfl)
  | release key heq =>
    subst heq
    exact hplain rfl (.of_frees hw h (release_frees hw key) (release_listeners ..))
  | loosen hl => exact hplain hl.plain.arming (.of_frees hw h (regrip_frees hw _ hl.place) rfl)
  | retire hp =>
    exact hplain hp.plain.arming
      (.of_frees hw h (dropHoldings_frees hw _) (dropHoldings_listeners ..))
  | listen page scope recorder heq =>
    subst heq
    exact hplain rfl (listen_keeps hw h page scope recorder)
  | deliver hd =>
    refine hplain ?_ (deliver_keeps hw h _ _)
    cases t
    case read | deliver => rfl
    all_goals cases hd

end World

end PagePilot
