import PagePilot.Idna.Ascii
import PagePilot.Url.Reader
/-!
# PagePilot.Proofs.Url.Splitting

Texts that are cut at every occurrence of a character. Cutting undoes putting together, for pieces
without that character (`splitAt_joinWith`). The parts of a name and of a path are cut in the same
way.
-/

namespace PagePilot.Url

variable {sep : Char} {text : List Char} {pieces : List (List Char)}

theorem splitAt_ne_nil (sep : Char) (text : List Char) : splitAt sep text ≠ [] := by
  cases text with
  | nil => exact List.cons_ne_nil _ _
  | cons c rest =>
    unfold splitAt
    split
    · exact List.cons_ne_nil _ _
    · split <;> exact List.cons_ne_nil _ _

theorem splitAt_sep (sep : Char) (text : List Char) :
    splitAt sep (sep :: text) = [] :: splitAt sep text := by
  rw [splitAt, if_pos rfl]

/-- A character in front of a text goes to the first piece. -/
theorem splitAt_cons {c : Char} (hc : c ≠ sep) (text : List Char) :
    ∃ piece rest, splitAt sep text = piece :: rest ∧
      splitAt sep (c :: text) = (c :: piece) :: rest := by
  obtain ⟨piece, rest, h⟩ := List.exists_cons_of_ne_nil (splitAt_ne_nil sep text)
  refine ⟨piece, rest, h, ?_⟩
  rw [splitAt, if_neg hc, h]

theorem splitAt_append_sep {piece : List Char} (hpiece : sep ∉ piece) (text : List Char) :
    splitAt sep (piece ++ sep :: text) = piece :: splitAt sep text := by
  induction piece with
  | nil => exact splitAt_sep sep text
  | cons c piece ih =>
    have hc : c ≠ sep := fun heq => hpiece (heq ▸ List.mem_cons_self)
    obtain ⟨front, rest, htail, hcons⟩ := splitAt_cons hc (piece ++ sep :: text)
    rw [ih fun hmem => hpiece (List.mem_cons_of_mem _ hmem)] at htail
    cases htail
    exact hcons

theorem splitAt_of_not_mem {piece : List Char} (hpiece : sep ∉ piece) :
    splitAt sep piece = [piece] := by
  induction piece with
  | nil => rfl
  | cons c piece ih =>
    have hc : c ≠ sep := fun heq => hpiece (heq ▸ List.mem_cons_self)
    obtain ⟨front, rest, htail, hcons⟩ := splitAt_cons hc piece
    rw [ih fun hmem => hpiece (List.mem_cons_of_mem _ hmem)] at htail
    cases htail
    exact hcons

/-- Pieces that are put together are cut apart again. -/
theorem splitAt_joinWith (hpieces : ∀ piece ∈ pieces, sep ∉ piece) (hne : pieces ≠ []) :
    splitAt sep (joinWith sep pieces) = pieces := by
  induction pieces with
  | nil => exact absurd rfl hne
  | cons piece rest ih =>
    have hpiece := hpieces piece List.mem_cons_self
    cases rest with
    | nil => exact splitAt_of_not_mem hpiece
    | cons next rest =>
      have hrest := ih (fun p hp => hpieces p (List.mem_cons_of_mem _ hp)) (List.cons_ne_nil _ _)
      show splitAt sep (piece ++ sep :: joinWith sep (next :: rest)) = _
      rw [splitAt_append_sep hpiece, hrest]

theorem not_mem_of_mem_splitAt {piece : List Char} (h : piece ∈ splitAt sep text) :
    sep ∉ piece := by
  induction text generalizing piece with
  | nil =>
    rw [splitAt, List.mem_singleton] at h
    simp [h]
  | cons c text ih =>
    by_cases hc : c = sep
    · rw [hc, splitAt_sep] at h
      rcases List.mem_cons.mp h with rfl | h
      · exact List.not_mem_nil
      · exact ih h
    · obtain ⟨front, rest, htail, hcons⟩ := splitAt_cons hc text
      rw [htail] at ih
      rw [hcons] at h
      rcases List.mem_cons.mp h with rfl | h
      · intro hmem
        rcases List.mem_cons.mp hmem with heq | hmem
        · exact hc heq.symm
        · exact ih List.mem_cons_self hmem
      · exact ih (List.mem_cons_of_mem _ h)

/-- What a text consists of when it is put together. -/
theorem mem_joinWith {c : Char} (h : c ∈ joinWith sep pieces) :
    c = sep ∨ ∃ piece ∈ pieces, c ∈ piece := by
  induction pieces with
  | nil => cases h
  | cons piece rest ih =>
    cases rest with
    | nil => exact .inr ⟨piece, List.mem_cons_self, h⟩
    | cons next rest =>
      rcases List.mem_append.mp h with h | h
      · exact .inr ⟨piece, List.mem_cons_self, h⟩
      rcases List.mem_cons.mp h with h | h
      · exact .inl h
      rcases ih h with h | ⟨p, hp, hc⟩
      · exact .inl h
      · exact .inr ⟨p, List.mem_cons_of_mem _ hp, hc⟩

theorem mem_joinWith_of_mem {piece : List Char} {c : Char} (hpiece : piece ∈ pieces)
    (hc : c ∈ piece) : c ∈ joinWith sep pieces := by
  induction pieces with
  | nil => cases hpiece
  | cons first rest ih =>
    cases rest with
    | nil =>
      obtain rfl := List.mem_singleton.mp hpiece
      exact hc
    | cons next rest =>
      rcases List.mem_cons.mp hpiece with rfl | hpiece
      · exact List.mem_append_left _ hc
      · exact List.mem_append_right _ (List.mem_cons_of_mem _ (ih hpiece))

/-- What is not cut at is in one of the pieces. -/
theorem exists_mem_splitAt {c : Char} (hc : c ≠ sep) (h : c ∈ text) :
    ∃ piece ∈ splitAt sep text, c ∈ piece := by
  induction text with
  | nil => cases h
  | cons a text ih =>
    by_cases ha : a = sep
    · subst ha
      obtain ⟨piece, hpiece, hmem⟩ := ih ((List.mem_cons.mp h).resolve_left hc)
      exact ⟨piece, splitAt_sep a text ▸ List.mem_cons_of_mem _ hpiece, hmem⟩
    · obtain ⟨front, rest, htail, hcons⟩ := splitAt_cons ha text
      rw [htail] at ih
      rw [hcons]
      rcases List.mem_cons.mp h with rfl | h
      · exact ⟨c :: front, List.mem_cons_self, List.mem_cons_self⟩
      obtain ⟨piece, hpiece, hmem⟩ := ih h
      rcases List.mem_cons.mp hpiece with rfl | hpiece
      · exact ⟨a :: piece, List.mem_cons_self, List.mem_cons_of_mem _ hmem⟩
      · exact ⟨piece, List.mem_cons_of_mem _ hpiece, hmem⟩

/-- Pieces that are read one by one. -/
theorem mapM_eq_some {f : α → Option β} {xs : List α} {ys : List β} :
    xs.mapM f = some ys ↔ xs.map f = ys.map some := by
  induction xs generalizing ys with
  | nil => cases ys <;> simp
  | cons x xs ih =>
    rw [List.mapM_cons]
    cases ys with
    | nil => cases f x <;> cases xs.mapM f <;> simp
    | cons y ys =>
      rw [List.map_cons, List.map_cons, List.cons.injEq, ← ih]
      cases f x <;> cases xs.mapM f <;> simp

/-! ### Names and paths -/

theorem splitAtDots_eq (text : List Char) : Idna.splitAtDots text = splitAt '.' text := by
  induction text with
  | nil => rfl
  | cons c rest ih =>
    by_cases hc : c = '.'
    · subst hc
      rw [splitAt_sep, ← ih]
      rfl
    · have hcons := Idna.splitAtDots.eq_3 c rest hc
      rw [ih] at hcons
      exact hcons.trans (if_neg hc).symm

theorem joinWithDots_eq (pieces : List (List Char)) :
    Idna.joinWithDots pieces = joinWith '.' pieces := by
  induction pieces with
  | nil => rfl
  | cons piece rest ih =>
    cases rest with
    | nil => rfl
    | cons next rest =>
      have hcons := Idna.joinWithDots.eq_3 piece (next :: rest) (List.cons_ne_nil _ _)
      rw [ih] at hcons
      exact hcons

theorem splitAtSlashes_eq (h : '\\' ∉ text) : splitAtSlashes text = splitAt '/' text := by
  induction text with
  | nil => rfl
  | cons c rest ih =>
    have hback : c ≠ '\\' := fun heq => h (heq ▸ List.mem_cons_self)
    have hrest := ih fun hmem => h (List.mem_cons_of_mem _ hmem)
    have hslash : isSlash c = decide (c = '/') := by simp [isSlash, hback]
    unfold splitAtSlashes
    rw [hslash, hrest]
    by_cases hc : c = '/'
    · exact (if_pos (decide_eq_true hc)).trans (if_pos hc).symm
    · exact (if_neg (by simp [hc])).trans (if_neg hc).symm

end PagePilot.Url
