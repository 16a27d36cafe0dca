import PagePilot.Proofs.Barrier.Staggered
/-!
# PagePilot.Proofs.Barrier.History

Barriers in runs. A run is a staggered run in which all deliveries are taken at one go, so
what is known of the barriers in staggered runs is known here: the scope of a barrier is
cancelled for reasons that the history tells (`Run.isCancelled_barrier`), and so is that of a
context (`Run.isCancelled_context`).
-/

namespace PagePilot

open Wire

namespace Run

variable (r : Run)

/-- A barrier is armed at a position, on a page that is there. -/
def Arms (k : Nat) (key : BarrierKey) (a : Arming) : Prop :=
  ∃ t, r.transitions[k]? = some t ∧ (r.world k).arming? t = some (key, a) ∧
    ((r.world k).board.listeners a.page).isSome

/-- A barrier was armed before a position. -/
def Armed (k : Nat) (key : BarrierKey) (a : Arming) : Prop :=
  ∃ m < k, r.Arms m key a

/-- A barrier was released before a position. -/
def Released (k : Nat) (key : BarrierKey) : Prop :=
  ∃ c < k, r.transitions[c]? = some (.release key)

/-- A context was cancelled before a position, by itself or by one that it derives from. -/
def Cancelled (k : Nat) (scope : ScopeId) : Prop :=
  ∃ c < k, ∃ a, r.transitions[c]? = some (.cancel a) ∧ (r.world k).scopes.Descends a scope

/-- An event reaches a page at a position. -/
def Delivers (k : Nat) (page : PageKey) (event : Event) : Prop :=
  ∃ t, r.transitions[k]? = some t ∧ (r.world k).delivered? t = some (page, event)

variable {r} {k m n : Nat} {key : BarrierKey} {a : Arming}

/-! ### As a staggered run -/

@[simp] theorem staggered_arms : r.staggered.Arms k key a ↔ r.Arms k key a := by
  simp only [Staggered.Arms, Arms, staggered_beat, staggered_world]

@[simp] theorem staggered_armed : r.staggered.Armed k = r.Armed k := by
  funext key a
  simp only [Staggered.Armed, Armed, staggered_arms]

@[simp] theorem staggered_released : r.staggered.Released k = r.Released k := by
  funext key
  simp only [Staggered.Released, Released, staggered_beat]

@[simp] theorem staggered_cancelled : r.staggered.Cancelled k = r.Cancelled k := by
  funext scope
  simp only [Staggered.Cancelled, Cancelled, staggered_beat, staggered_world]

/-- In every run the board is as the history has it. -/
theorem sound (hr : r.Admissible) (k : Nat) :
    (r.world k).Sound (r.Armed k) (r.Released k)
      fun a => ∃ c < k, r.transitions[c]? = some (.cancel a) := by
  simpa only [staggered_world, staggered_armed, staggered_released, staggered_beat]
    using Staggered.sound hr.staggered k

/-- A barrier keeps its place. -/
theorem place?_mono (hr : r.Admissible) (hmn : m ≤ n) {p : ScopeId × Context}
    (h : (r.world m).board.place? key = some p) : (r.world n).board.place? key = some p := by
  rw [← staggered_world] at h ⊢
  exact Staggered.place?_mono hr.staggered hmn h

/-- A page stays. -/
theorem page_mono (hr : r.Admissible) (hmn : m ≤ n) {page : PageKey}
    (h : ((r.world m).board.listeners page).isSome) :
    ((r.world n).board.listeners page).isSome := by
  rw [← staggered_world] at h ⊢
  exact Staggered.page_mono hr.staggered hmn h

/-- A context stays. -/
theorem isContext_mono (hr : r.Admissible) (hmn : m ≤ n) {scope : ScopeId}
    (h : (r.world m).board.IsContext scope) : (r.world n).board.IsContext scope := by
  rw [← staggered_world] at h ⊢
  exact Staggered.isContext_mono hr.staggered hmn h

/-- What is cancelled stays so. -/
theorem isCancelled_mono (hr : r.Admissible) (hmn : m ≤ n) {scope : ScopeId}
    (h : (r.world m).scopes.isCancelled scope = true) :
    (r.world n).scopes.isCancelled scope = true := by
  rw [← staggered_world] at h ⊢
  exact Staggered.isCancelled_mono hr.staggered hmn h

/-- A context is cancelled when it, or one that it derives from, was. -/
theorem isCancelled_context (hr : r.Admissible) {scope : ScopeId}
    (hscope : (r.world k).board.IsContext scope) :
    (r.world k).scopes.isCancelled scope = true ↔ r.Cancelled k scope := by
  rw [← staggered_world] at hscope ⊢
  rw [← staggered_cancelled]
  exact Staggered.isCancelled_context hr.staggered hscope

/-- The listener of a barrier is gone for one of four reasons. -/
theorem isCancelled_barrier (hr : r.Admissible) {x : Barrier}
    (hx : (r.world k).barriers[key]? = some x) :
    (r.world k).scopes.isCancelled x.scope = true ↔
      x.matched = true ∨ r.Released k key ∨ x.abandoned = true ∨ r.Cancelled k x.ctx.scope := by
  rw [← staggered_world] at hx ⊢
  rw [← staggered_cancelled, ← staggered_released]
  exact Staggered.isCancelled_barrier hr.staggered hx

end Run

end PagePilot
