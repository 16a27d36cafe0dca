import PagePilot.Proofs.Idna.Ascii
/-!
# PagePilot.Proofs.Idna.Colon

No name has a colon in it (`toAscii?_colon`). A colon stays what it is on the way to ASCII: it
is mapped to itself, is a part of no composed character, and neither Punycode nor its reader
loses it. What is written for a name with a colon has one too, and no host may have that.
-/

namespace PagePilot.Idna

open Punycode Url

variable {text part name ascii : List Char}

/-! ### The table of composed characters -/

/-- A digit is written with one character. -/
theorem eq_of_digit36? {c : Char} {d : Nat} (h : digit36? c = some d) :
    d < 36 ∧ c = Char.ofNat (if d < 10 then 48 + d else 87 + d) := by
  rw [← Char.ofNat_toNat c]
  unfold digit36? at h
  split at h
  next hc =>
    have hlow : 48 ≤ c.toNat := hc.1
    have hhigh : c.toNat ≤ 57 := hc.2
    have hzero : '0'.toNat = 48 := rfl
    obtain rfl := Option.some.inj h
    refine ⟨by omega, ?_⟩
    rw [if_pos (by omega), hzero, Nat.add_sub_cancel' hlow]
  split at h
  next hc =>
    have hlow : 97 ≤ c.toNat := hc.1
    have hhigh : c.toNat ≤ 122 := hc.2
    have ha : 'a'.toNat = 97 := rfl
    obtain rfl := Option.some.inj h
    refine ⟨by omega, ?_⟩
    rw [if_neg (by omega), ha, show 87 + (c.toNat - 97 + 10) = c.toNat by omega]
  next => cases h

/-- Fifty-eight, the number of the colon, is written `1m`. -/
theorem infix_of_mem_readNumbersFrom {value : Nat} (h : 58 ∈ readNumbersFrom value text) :
    value = 58 ∨ (value = 1 ∧ ['m'] <+: text) ∨ ['1', 'm'] <:+: text := by
  induction text generalizing value with
  | nil => exact .inl (List.mem_singleton.mp h).symm
  | cons c rest ih =>
    unfold readNumbersFrom at h
    cases hdigit : digit36? c with
    | none =>
      rw [hdigit] at h
      rcases List.mem_cons.mp h with h | h
      · exact .inl h.symm
      rcases ih h with h | ⟨h, -⟩ | h
      · cases h
      · cases h
      · exact .inr (.inr (List.infix_cons h))
    | some d =>
      rw [hdigit] at h
      have hd := (eq_of_digit36? hdigit).1
      rcases ih h with h | ⟨h, hrest⟩ | h
      · obtain ⟨rfl, rfl⟩ : value = 1 ∧ d = 22 := by omega
        obtain rfl : c = 'm' := (eq_of_digit36? hdigit).2
        exact .inr (.inl ⟨rfl, (List.prefix_cons_inj _).mpr List.nil_prefix⟩)
      · obtain ⟨rfl, rfl⟩ : value = 0 ∧ d = 1 := by omega
        obtain rfl : c = '1' := (eq_of_digit36? hdigit).2
        exact .inr (.inr ((List.prefix_cons_inj _).mpr hrest).isInfix)
      · exact .inr (.inr (List.infix_cons h))

theorem infix_of_mem_entriesFrom {entry e : List Char} (h : e ∈ entriesFrom entry text) :
    e <:+: entry ++ text := by
  induction text generalizing entry with
  | nil =>
    obtain rfl := List.mem_singleton.mp h
    exact (List.prefix_append _ _).isInfix
  | cons c rest ih =>
    by_cases hc : c = ' '
    · subst hc
      rcases List.mem_cons.mp h with rfl | h
      · exact (List.prefix_append _ _).isInfix
      · have hsuffix := List.suffix_append (entry ++ [' ']) rest
        rw [List.append_assoc] at hsuffix
        exact (ih h).trans hsuffix.isInfix
    · rw [entriesFrom.eq_3 entry c rest hc] at h
      have hinfix := ih h
      rwa [List.append_assoc] at hinfix

theorem apart_of_ofList {l : List Char} (h : ¬ ['1', 'm'] <:+: l) :
    ¬ ['1', 'm'] <:+: (String.ofList l).toList := by
  rwa [String.toList_ofList]

-- Reading the numbers of all lines would take a minute; looking for two characters does not.
theorem pairLines_apart : ∀ line ∈ pairLines, ¬ ['1', 'm'] <:+: line.toList := by
  unfold pairLines
  repeat
    refine List.forall_mem_cons.mpr ⟨apart_of_ofList ?_, ?_⟩
    · decide +kernel
  exact List.forall_mem_nil _

theorem exists_of_mem_pairsFrom {position : Nat} {entries : List (List Char)} {p : Pair}
    (h : p ∈ pairsFrom position entries) :
    ∃ entry ∈ entries, ∃ gap, readNumbersFrom 0 entry = [gap, p.first, p.second] := by
  induction entries generalizing position with
  | nil => cases h
  | cons entry rest ih =>
    unfold pairsFrom at h
    split at h
    next gap first second heq =>
      rcases List.mem_cons.mp h with rfl | h
      · exact ⟨entry, List.mem_cons_self, gap, heq⟩
      · obtain ⟨e, he, hnumbers⟩ := ih h
        exact ⟨e, List.mem_cons_of_mem _ he, hnumbers⟩
    next =>
      obtain ⟨e, he, hnumbers⟩ := ih h
      exact ⟨e, List.mem_cons_of_mem _ he, hnumbers⟩

/-- No character is composed of a colon and something else. -/
theorem colon_not_in_pairs {p : Pair} (h : p ∈ pairs) : p.first ≠ 58 ∧ p.second ≠ 58 := by
  obtain ⟨entry, hentry, gap, hnumbers⟩ := exists_of_mem_pairsFrom h
  obtain ⟨line, hline, hentry⟩ := List.mem_flatMap.mp hentry
  have hnot : 58 ∉ readNumbersFrom 0 entry := by
    intro hmem
    rcases infix_of_mem_readNumbersFrom hmem with h | ⟨h, -⟩ | h
    · cases h
    · cases h
    · exact pairLines_apart line hline (h.trans (infix_of_mem_entriesFrom hentry))
  rw [hnumbers] at hnot
  refine ⟨?_, ?_⟩
  · intro heq
    exact hnot (by simp [heq])
  · intro heq
    exact hnot (by simp [heq])

/-! ### Composing -/

theorem composed?_colon {a b : Char} (h : a = ':' ∨ b = ':') : composed? a b = none := by
  have hnumber : a.toNat = 58 ∨ b.toNat = 58 := h.imp (congrArg Char.toNat) (congrArg Char.toNat)
  have hsyllable : syllable? a.toNat b.toNat = none := by
    unfold syllable?
    rw [if_neg (by omega), if_neg (by omega)]
  unfold composed?
  rw [hsyllable, Option.map_eq_none_iff, List.find?_eq_none]
  intro p hp heq
  obtain ⟨hfirst, hsecond⟩ := colon_not_in_pairs hp
  obtain ⟨ha, hb⟩ : p.first = a.toNat ∧ p.second = b.toNat := by simpa using heq
  rcases hnumber with h | h
  · exact hfirst (ha.trans h)
  · exact hsecond (hb.trans h)

theorem colon_mem_orderFrom {marks : List (Nat × Char)} (h : ':' ∈ text) :
    (0, ':') ∈ orderFrom marks text := by
  induction text generalizing marks with
  | nil => cases h
  | cons c rest ih =>
    unfold orderFrom
    dsimp only
    rcases List.mem_cons.mp h with rfl | h
    · have hclass : combiningClass ':' = 0 := rfl
      rw [if_pos hclass]
      exact List.mem_append_right _ List.mem_cons_self
    · split
      · exact List.mem_append_right _ (List.mem_cons_of_mem _ (ih h))
      · exact ih h

/-- What has been put together keeps its colons, since none is a part of what is put together. -/
theorem colon_mem_composeFrom {letter : Char} {held : List Char} {top : Option Nat}
    {marks : List (Nat × Char)} (h : ':' ∈ letter :: held ∨ (0, ':') ∈ marks) :
    ':' ∈ composeFrom letter held top marks := by
  induction marks generalizing letter held top with
  | nil => exact h.resolve_right List.not_mem_nil
  | cons m rest ih =>
    obtain ⟨k, c⟩ := m
    unfold composeFrom
    dsimp only
    split
    next whole hwhole =>
      have hcomposed : composed? letter c = some whole :=
        (Option.ite_none_right_eq_some.mp hwhole).2
      refine ih ?_
      rcases h with h | h
      · rcases List.mem_cons.mp h with rfl | h
        · cases (composed?_colon (.inl rfl)).symm.trans hcomposed
        · exact .inl (List.mem_cons_of_mem _ h)
      · rcases List.mem_cons.mp h with heq | h
        · cases heq
          cases (composed?_colon (.inr rfl)).symm.trans hcomposed
        · exact .inr h
    next =>
      split
      next hk =>
        rw [List.mem_append]
        rcases h with h | h
        · exact .inl h
        · rcases List.mem_cons.mp h with heq | h
          · cases heq
            exact .inr (ih (.inl List.mem_cons_self))
          · exact .inr (ih (.inr h))
      next hk =>
        refine ih ?_
        rcases h with h | h
        · rcases List.mem_cons.mp h with rfl | h
          · exact .inl List.mem_cons_self
          · exact .inl (List.mem_cons_of_mem _ (List.mem_append_left _ h))
        · rcases List.mem_cons.mp h with heq | h
          · cases heq
            exact absurd rfl hk
          · exact .inr h

theorem colon_mem_composeAll {marks : List (Nat × Char)} (h : (0, ':') ∈ marks) :
    ':' ∈ composeAll marks := by
  induction marks with
  | nil => cases h
  | cons m rest ih =>
    obtain ⟨k, c⟩ := m
    cases k with
    | zero =>
      refine colon_mem_composeFrom ?_
      rcases List.mem_cons.mp h with heq | h
      · cases heq
        exact .inl List.mem_cons_self
      · exact .inr h
    | succ k =>
      rcases List.mem_cons.mp h with heq | h
      · cases heq
      · exact List.mem_cons_of_mem _ (ih h)

theorem colon_mem_compose (h : ':' ∈ text) : ':' ∈ compose text := by
  unfold compose
  split
  · exact h
  · refine colon_mem_composeAll (colon_mem_orderFrom ?_)
    exact List.mem_flatMap.mpr ⟨':', h, List.mem_singleton.mpr rfl⟩

/-! ### Parts -/

theorem colon_mem_mapAll? (h : mapAll? name = some text) (hname : ':' ∈ name) : ':' ∈ text := by
  induction name generalizing text with
  | nil => cases hname
  | cons c rest ih =>
    obtain ⟨front, hfront, h⟩ := Option.bind_eq_some_iff.mp h
    obtain ⟨back, hback, h⟩ := Option.bind_eq_some_iff.mp h
    cases h
    rcases List.mem_cons.mp hname with rfl | hname
    · have hkept : isKept ':' := by decide +kernel
      cases (mapped?_of_isKept hkept).symm.trans hfront
      exact List.mem_append_left _ List.mem_cons_self
    · exact List.mem_append_right _ (ih hback hname)

/-- What a text is cut into at its last hyphen is all of it but the hyphen. -/
theorem mem_splitAtLastHyphen {c : Char} (hc : c ≠ '-') (h : c ∈ text) :
    c ∈ (splitAtLastHyphen text).1 ∨ c ∈ (splitAtLastHyphen text).2 := by
  by_cases hhyphen : '-' ∈ text
  · obtain ⟨behind, front, heq, hbehind⟩ :=
      List.eq_append_cons_of_mem (List.mem_reverse.mpr hhyphen)
    obtain rfl : text = front.reverse ++ '-' :: behind.reverse := by
      rw [← List.reverse_reverse text, heq]
      simp
    have hbehind : '-' ∉ behind.reverse := fun hmem => hbehind (List.mem_reverse.mp hmem)
    unfold splitAtLastHyphen
    simp only [Text.behind_append_cons hbehind, Text.take_append_cons]
    split
    next => exact .inr h
    next =>
      rcases List.mem_append.mp h with h | h
      · exact .inl h
      · exact .inr ((List.mem_cons.mp h).resolve_left hc)
  · rw [splitAtLastHyphen_of_not_mem hhyphen]
    exact .inr h

theorem mem_of_step {s s' : ReadState} {a c : Char} (h : s.step a = some s') (hc : c ∈ s.text) :
    c ∈ s'.text := by
  unfold ReadState.step at h
  obtain ⟨d, -, h⟩ := Option.bind_eq_some_iff.mp h
  dsimp only at h
  split at h
  next =>
    obtain ⟨inserted, hinserted⟩ := ReadState.exists_of_insert h
    rw [ReadState.insert_eq hinserted] at h
    cases h
    dsimp only
    rw [← List.take_append_drop _ s.text] at hc
    rcases List.mem_append.mp hc with hc | hc
    · exact List.mem_append_left _ hc
    · exact List.mem_append_right _ (List.mem_cons_of_mem _ hc)
  next =>
    cases h
    exact hc

theorem mem_of_foldlM {numbers : List Char} {s s' : ReadState} {c : Char}
    (h : numbers.foldlM ReadState.step s = some s') (hc : c ∈ s.text) : c ∈ s'.text := by
  induction numbers generalizing s with
  | nil =>
    cases h
    exact hc
  | cons a numbers ih =>
    rw [List.foldlM_cons] at h
    obtain ⟨s'', hstep, h⟩ := Option.bind_eq_some_iff.mp h
    exact ih h (mem_of_step hstep hc)

theorem not_mem_of_foldlM {numbers : List Char} {s s' : ReadState} {c : Char}
    (h : numbers.foldlM ReadState.step s = some s') (hc : value? c = none) : c ∉ numbers := by
  induction numbers generalizing s with
  | nil => exact List.not_mem_nil
  | cons a numbers ih =>
    rw [List.foldlM_cons] at h
    obtain ⟨s'', hstep, h⟩ := Option.bind_eq_some_iff.mp h
    intro hmem
    rcases List.mem_cons.mp hmem with rfl | hmem
    · unfold ReadState.step at hstep
      rw [hc] at hstep
      cases hstep
    · exact ih h hmem

/-- Punycode has no digit that is a colon, so a colon is read where it stands for itself. -/
theorem colon_mem_decode? (h : Punycode.decode? part = some text) (hpart : ':' ∈ part) :
    ':' ∈ text := by
  unfold Punycode.decode? at h
  obtain ⟨s, hreads, h⟩ := Option.bind_eq_some_iff.mp h
  split at h
  next =>
    cases h
    rcases mem_splitAtLastHyphen (by decide) hpart with hmem | hmem
    · exact mem_of_foldlM hreads hmem
    · exact absurd hmem (not_mem_of_foldlM hreads (by decide))
  next => cases h

theorem colon_mem_unwritten? (h : unwritten? part = some text) (hpart : ':' ∈ part) :
    ':' ∈ text := by
  unfold unwritten? at h
  split at h
  next hmark =>
    obtain ⟨tail, rfl⟩ := List.isPrefixOf_iff_prefix.mp hmark
    rw [List.drop_left] at h
    obtain ⟨text', hdecode, h⟩ := Option.bind_eq_some_iff.mp h
    split at h
    next => cases h
    next =>
      cases h
      refine colon_mem_decode? hdecode ?_
      exact (List.mem_append.mp hpart).resolve_left (by decide)
  next =>
    cases h
    exact hpart

theorem colon_mem_writePart (h : ':' ∈ text) : ':' ∈ writePart text := by
  unfold writePart
  split
  · exact h
  · obtain ⟨numbers, -, hencode, -⟩ := exists_numbers text
    have hbasic : ':' ∈ text.filter isBasic := List.mem_filter.mpr ⟨h, rfl⟩
    have hne : (text.filter isBasic).isEmpty = false :=
      List.isEmpty_eq_false_iff.mpr (List.ne_nil_of_mem hbasic)
    rw [hencode, hne]
    refine List.mem_append_right _ (List.mem_append_left _ ?_)
    exact List.mem_append_left _ hbasic

/-- No name has a colon in it. -/
theorem toAscii?_colon (h : toAscii? name = some ascii) : ':' ∉ name := by
  intro hname
  unfold toAscii? at h
  obtain ⟨text, hmapped, h⟩ := Option.bind_eq_some_iff.mp h
  obtain ⟨texts, hparts, h⟩ := Option.bind_eq_some_iff.mp h
  rw [splitAtDots_eq, mapM_eq_some] at hparts
  obtain ⟨part, hpart, hmem⟩ := exists_mem_splitAt (show ':' ≠ '.' by decide)
    (colon_mem_compose (colon_mem_mapAll? hmapped hname))
  obtain ⟨written, hwritten, htext⟩ := List.mem_map.mp (hparts ▸ List.mem_map_of_mem hpart)
  have hcolon : ':' ∈ joinWithDots (texts.map writePart) := by
    rw [joinWithDots_eq]
    refine mem_joinWith_of_mem (List.mem_map_of_mem hwritten) (colon_mem_writePart ?_)
    exact colon_mem_unwritten? (partText?_eq_some.mp htext.symm).1 hmem
  dsimp only at h
  split at h
  next => cases h
  next =>
    split at h
    next hallowed => exact absurd (List.all_eq_true.mp hallowed ':' hcolon) (by decide)
    next => cases h

end PagePilot.Idna
