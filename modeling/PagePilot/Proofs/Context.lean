import PagePilot.Context
/-!
# PagePilot.Proofs.Context

When a context has ended: by its cancellation, or else by its deadline. Scopes stay cancelled
and time goes on, so a context that has ended stays so (`Context.errorAt_none_of_le`).
-/

namespace PagePilot.Context

variable {ctx : Context} {scopes scopes' : Scopes} {time time' : Nat} {e : Error}

theorem passed_iff {deadline : Option Nat} :
    passed deadline time = true ↔ ∃ d, deadline = some d ∧ d ≤ time := by
  cases deadline <;> simp [passed]

theorem errorAt_eq_some : ctx.errorAt scopes time = some e ↔
    (scopes.isCancelled ctx.scope = true ∧ e = .cancelled) ∨
      (¬ scopes.isCancelled ctx.scope = true ∧ (∃ d, ctx.deadline = some d ∧ d ≤ time) ∧
        e = .deadlineExceeded) := by
  rw [← passed_iff]
  unfold errorAt
  split
  next hcancelled => simp [hcancelled, @eq_comm _ e]
  next hlive =>
    split
    next hpassed => simp [hlive, hpassed, @eq_comm _ e]
    next hahead => simp [hlive, hahead]

theorem errorAt_eq_none : ctx.errorAt scopes time = none ↔
    ¬ scopes.isCancelled ctx.scope = true ∧ ∀ d, ctx.deadline = some d → time < d := by
  unfold errorAt
  split
  next hcancelled => simp [hcancelled]
  next hlive =>
    have hahead : ¬ passed ctx.deadline time = true ↔ ∀ d, ctx.deadline = some d → time < d := by
      simp only [passed_iff, not_exists, not_and, Nat.not_le]
    rw [← hahead]
    split
    next hpassed => simp [hpassed]
    next hnot => simp [hlive, hnot]

/-- A context that has not ended had not ended before. -/
theorem errorAt_none_of_le
    (hcancelled : scopes.isCancelled ctx.scope = true → scopes'.isCancelled ctx.scope = true)
    (hle : time ≤ time') (h : ctx.errorAt scopes' time' = none) :
    ctx.errorAt scopes time = none := by
  obtain ⟨hlive, hahead⟩ := errorAt_eq_none.mp h
  refine errorAt_eq_none.mpr ⟨fun hc => hlive (hcancelled hc), ?_⟩
  intro d hd
  exact Nat.lt_of_le_of_lt hle (hahead d hd)

end PagePilot.Context
