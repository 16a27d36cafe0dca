import Mathlib.Data.List.TakeWhile
/-!
# PagePilot.Proofs.Text.Runs

Where runs of characters end: in front of the first character that they do not take, whatever
comes behind it.
-/

namespace PagePilot.Text

variable {p q : Char → Bool} {front rest text tail : List Char} {c : Char}

theorem takeWhile_append_cons (hfront : ∀ a ∈ front, p a) (hc : p c = false) (rest : List Char) :
    (front ++ c :: rest).takeWhile p = front := by
  rw [List.takeWhile_append_of_pos hfront, List.takeWhile_cons_of_neg (by simp [hc]),
    List.append_nil]

theorem dropWhile_append_cons (hfront : ∀ a ∈ front, p a) (hc : p c = false) (rest : List Char) :
    (front ++ c :: rest).dropWhile p = c :: rest := by
  rw [List.dropWhile_append_of_pos hfront, List.dropWhile_cons_of_neg (by simp [hc])]

theorem dropWhile_of_neg (h : ∀ c ∈ text, p c = false) : text.dropWhile p = text := by
  refine List.dropWhile_eq_self_iff.mpr ?_
  intro hlength
  rw [h _ (List.getElem_mem hlength)]
  exact Bool.false_ne_true

/-- What is dropped in front of a character that stays is dropped from what stands there. -/
theorem dropWhile_append_cons_of_neg (hc : p c = false) :
    (front ++ c :: rest).dropWhile p = front.dropWhile p ++ c :: rest := by
  induction front with
  | nil => simp [hc]
  | cons a front ih =>
    rw [List.cons_append, List.dropWhile_cons, List.dropWhile_cons]
    split
    · exact ih
    · rfl

theorem takeWhile_eq_of_forall (hpq : ∀ c, q c → p c)
    (h : ∀ c ∈ text.takeWhile p, q c) : text.takeWhile q = text.takeWhile p := by
  induction text with
  | nil => rfl
  | cons c rest ih =>
    rw [List.takeWhile_cons] at h ⊢
    rw [List.takeWhile_cons]
    cases hp : p c with
    | false =>
      have hq : q c = false := by
        refine Bool.eq_false_iff.mpr ?_
        intro hq
        exact Bool.eq_false_iff.mp hp (hpq c hq)
      simp [hq]
    | true =>
      rw [hp, if_pos rfl] at h
      have hq := h c List.mem_cons_self
      simp [hq, ih fun a ha => h a (List.mem_cons_of_mem _ ha)]

/-- A run ends where it did when only characters are left out that it does not end at. -/
theorem takeWhile_filter_of_forall {keep : Char → Bool} (h : ∀ c, keep c = false → p c) :
    (text.filter keep).takeWhile p = (text.takeWhile p).filter keep := by
  rw [List.takeWhile_filter]
  have hsame : (fun c => !keep c || p c) = p := by
    funext c
    cases hkeep : keep c with
    | false => simp [h c hkeep]
    | true => simp
  rw [hsame]

/-! ### Up to a mark -/

variable {mark : Char}

theorem ne_of_not_mem (h : mark ∉ text) : ∀ c ∈ text, decide (c ≠ mark) = true := by
  intro c hc
  refine decide_eq_true ?_
  rintro rfl
  exact h hc

/-- What stands behind the last mark, in a text with a tail that has none. -/
theorem behind_append (htail : mark ∉ tail) (front : List Char) :
    ((front ++ tail).reverse.takeWhile (· ≠ mark)).reverse =
      (front.reverse.takeWhile (· ≠ mark)).reverse ++ tail := by
  have htail := ne_of_not_mem fun hmem => htail (List.mem_reverse.mp hmem)
  rw [List.reverse_append, List.takeWhile_append_of_pos htail, List.reverse_append,
    List.reverse_reverse]

theorem behind_of_not_mem (h : mark ∉ text) :
    (text.reverse.takeWhile (· ≠ mark)).reverse = text :=
  behind_append h []

theorem behind_append_cons (htail : mark ∉ tail) (front : List Char) :
    ((front ++ mark :: tail).reverse.takeWhile (· ≠ mark)).reverse = tail := by
  have hall := behind_append htail (front ++ [mark])
  simpa using hall

/-- What stands in front of a mark, by the length of what stands behind it. -/
theorem take_append_cons (front : List Char) (mark : Char) (tail : List Char) :
    (front ++ mark :: tail).take ((front ++ mark :: tail).length - tail.length - 1) = front := by
  have hlength : (front ++ mark :: tail).length - tail.length - 1 = front.length := by
    simp only [List.length_append, List.length_cons]
    omega
  rw [hlength, List.take_left]

end PagePilot.Text
