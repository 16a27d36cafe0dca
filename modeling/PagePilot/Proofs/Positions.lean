/-!
# PagePilot.Proofs.Positions

What is collected along a history that gives at most one thing at each position. The things
come in the order of their positions, and a thing is the `j`th one if `j` of them come before
its position (`getElem?_filterMap_range`).
-/

namespace PagePilot

variable {α : Type}

theorem filterMap_range_succ (f : Nat → Option α) (k : Nat) :
    (List.range (k + 1)).filterMap f = (List.range k).filterMap f ++ (f k).toList := by
  rw [List.range_succ, List.filterMap_append]
  cases hf : f k <;> simp [hf]

theorem getElem?_filterMap_range {f : Nat → Option α} {n j : Nat} {x : α} :
    ((List.range n).filterMap f)[j]? = some x ↔
      ∃ k < n, f k = some x ∧ ((List.range k).filterMap f).length = j := by
  induction n with
  | zero => simp
  | succ n ih =>
    rw [filterMap_range_succ, Nat.exists_lt_succ_right, ← ih]
    rcases Nat.lt_or_ge j ((List.range n).filterMap f).length with hlt | hge
    · rw [List.getElem?_append_left hlt]
      exact (or_iff_left fun hlast => Nat.ne_of_gt hlt hlast.2).symm
    · rw [List.getElem?_append_right hge, List.getElem?_eq_none hge]
      cases f n with
      | none => simp
      | some y =>
        simp only [Option.toList_some, List.getElem?_singleton]
        split
        next hzero => simp [Nat.le_antisymm hge (Nat.le_of_sub_eq_zero hzero)]
        next hpos => simp; omega

/-- What is taken from a queue, and what is left in it, is what was put into it. -/
theorem taken_append_left {left : Nat → List α} {taken? put? : Nat → Option α} (h : left 0 = [])
    (hstep : ∀ k, (taken? k).toList ++ left (k + 1) = left k ++ (put? k).toList) (k : Nat) :
    (List.range k).filterMap taken? ++ left k = (List.range k).filterMap put? := by
  induction k with
  | zero => exact h
  | succ k ih =>
    rw [filterMap_range_succ, filterMap_range_succ, ← ih, List.append_assoc, List.append_assoc,
      hstep]

end PagePilot
