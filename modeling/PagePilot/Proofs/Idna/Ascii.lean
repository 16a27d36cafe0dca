import PagePilot.Proofs.Idna.Punycode
import PagePilot.Proofs.Url.Splitting
/-!
# PagePilot.Proofs.Idna.Ascii

Names in ASCII. A name that is written in ASCII is read as itself (`toAscii?_toAscii?`): each part
is read as the text that it was written for, and that is written the same way again.
-/

namespace PagePilot.Idna

open Punycode Url

/-! ### Characters that stand for themselves -/

/-- The characters that are written besides those of the name. -/
theorem isKept_written : (mark ++ ['.']).all isKept := by
  decide +kernel

theorem isKept_of_isDigit {c : Char} (h : IsDigit c) : isKept c := by
  have hall : ∀ d ∈ List.range 36, isKept (digit d) := by
    decide +kernel
  obtain ⟨d, hd, rfl⟩ := h
  exact hall d (List.mem_range.mpr hd)

theorem isBasic_of_isDigit {c : Char} (h : IsDigit c) : isBasic c := by
  have hall : ∀ d ∈ List.range 36, isBasic (digit d) := by decide
  obtain ⟨d, hd, rfl⟩ := h
  exact hall d (List.mem_range.mpr hd)

theorem mapped?_of_isKept {c : Char} (h : isKept c) : mapped? c = some [c] := by
  unfold mapped?
  rw [of_decide_eq_true h]

theorem mapAll?_of_isKept {text : List Char} (h : ∀ c ∈ text, isKept c) :
    mapAll? text = some text := by
  induction text with
  | nil => rfl
  | cons c rest ih =>
    rw [mapAll?, mapped?_of_isKept (h c List.mem_cons_self),
      ih fun a ha => h a (List.mem_cons_of_mem _ ha)]
    rfl

theorem compose_of_isBasic {text : List Char} (h : ∀ c ∈ text, isBasic c) : compose text = text := by
  unfold compose
  exact if_pos (List.all_eq_true.mpr h)

/-! ### Parts -/

variable {part text name ascii : List Char}

theorem isPrefixOf_mark (tail : List Char) : mark.isPrefixOf (mark ++ tail) :=
  List.isPrefixOf_iff_prefix.mpr (List.prefix_append _ _)

/-- No part stands for a marked text. -/
theorem unmarked_of_unwritten? (h : unwritten? part = some text) : mark.isPrefixOf text = false := by
  unfold unwritten? at h
  split at h
  next =>
    obtain ⟨text', -, h⟩ := Option.bind_eq_some_iff.mp h
    split at h
    next => cases h
    next hneither =>
      cases h
      simp only [Bool.or_eq_true, not_or, Bool.not_eq_true] at hneither
      exact hneither.2
  next hmark =>
    cases h
    exact Bool.eq_false_iff.mpr hmark

/-- What is written for a text is read as the text. -/
theorem unwritten?_writePart (h : mark.isPrefixOf text = false) :
    unwritten? (writePart text) = some text := by
  unfold writePart
  cases hbasic : text.all isBasic with
  | true =>
    rw [if_pos rfl, unwritten?, if_neg (Bool.eq_false_iff.mp h)]
  | false =>
    rw [if_neg (Bool.false_ne_true), unwritten?, if_pos (isPrefixOf_mark _), List.drop_left,
      decode?_encode]
    show (if text.all isBasic || mark.isPrefixOf text then none else some text) = some text
    rw [hbasic, h]
    rfl

theorem partText?_eq_some :
    partText? part = some text ↔ unwritten? part = some text ∧ isValid text := by
  unfold partText?
  exact Option.filter_eq_some_iff

theorem partText?_writePart (h : partText? part = some text) :
    partText? (writePart text) = some text := by
  obtain ⟨hunwritten, hvalid⟩ := partText?_eq_some.mp h
  exact partText?_eq_some.mpr ⟨unwritten?_writePart (unmarked_of_unwritten? hunwritten), hvalid⟩

theorem isKept_of_isValid (h : isValid text) {c : Char} (hc : c ∈ text) : isKept c := by
  unfold isValid at h
  simp only [Bool.and_eq_true] at h
  exact List.all_eq_true.mp h.1.1.2 c hc

/-- The basic characters of the text of a part are its own. -/
theorem mem_of_unwritten? (h : unwritten? part = some text) {c : Char} (hc : c ∈ text) :
    c ∈ part ∨ isBasic c = false := by
  unfold unwritten? at h
  split at h
  next =>
    obtain ⟨text', hdecode, h⟩ := Option.bind_eq_some_iff.mp h
    split at h
    next => cases h
    next =>
      cases h
      exact (mem_of_decode? hdecode hc).imp_left List.mem_of_mem_drop
  next =>
    cases h
    exact .inl hc

/-- What is written for a text are its own basic characters and what writes the others. -/
theorem mem_writePart {c : Char} (h : c ∈ writePart text) :
    c ∈ text ∧ isBasic c ∨ c ∈ mark ∨ IsDigit c := by
  unfold writePart at h
  split at h
  next hbasic => exact .inl ⟨h, List.all_eq_true.mp hbasic c h⟩
  next =>
    rcases List.mem_append.mp h with h | h
    · exact .inr (.inl h)
    rcases mem_encode h with h | rfl | h
    · exact .inl (List.mem_filter.mp h)
    · exact .inr (.inl (by decide))
    · exact .inr (.inr h)

/-- What is written for a part is basic, and stands for itself. -/
theorem plain_of_mem_writePart (h : partText? part = some text) {c : Char}
    (hc : c ∈ writePart text) : isBasic c ∧ isKept c := by
  rcases mem_writePart hc with ⟨hc, hbasic⟩ | hc | hc
  · exact ⟨hbasic, isKept_of_isValid (partText?_eq_some.mp h).2 hc⟩
  · have hbasic : mark.all isBasic := by decide
    exact ⟨List.all_eq_true.mp hbasic c hc,
      List.all_eq_true.mp isKept_written c (List.mem_append_left _ hc)⟩
  · exact ⟨isBasic_of_isDigit hc, isKept_of_isDigit hc⟩

theorem dot_not_mem_writePart (h : partText? part = some text) (hpart : '.' ∉ part) :
    '.' ∉ writePart text := by
  intro hmem
  rcases mem_writePart hmem with ⟨hmem, hbasic⟩ | hmem | hmem
  · rcases mem_of_unwritten? (partText?_eq_some.mp h).1 hmem with hmem | hnot
    · exact hpart hmem
    · cases hbasic.symm.trans hnot
  · exact absurd hmem (by decide)
  · exact hmem.ne (by decide) rfl

/-! ### Names -/

/-- A name that is written in ASCII, by the texts of its parts. -/
structure Written (texts : List (List Char)) (ascii : List Char) : Prop where
  /-- The parts of some name stand for these texts. -/
  parts : ∃ parts, parts ≠ [] ∧ (∀ part ∈ parts, '.' ∉ part) ∧
    parts.map partText? = texts.map some
  directions : (texts.any hasRightToLeft && !texts.all directionsFit) = false
  eq : ascii = joinWith '.' (texts.map writePart)
  allowed : ascii.all isAllowed

theorem toAscii?_eq_some (h : toAscii? name = some ascii) : ∃ texts, Written texts ascii := by
  unfold toAscii? at h
  obtain ⟨text, -, h⟩ := Option.bind_eq_some_iff.mp h
  obtain ⟨texts, hparts, h⟩ := Option.bind_eq_some_iff.mp h
  rw [splitAtDots_eq, mapM_eq_some] at hparts
  dsimp only at h
  split at h
  next => cases h
  next hdirections =>
    split at h
    next hallowed =>
      cases h
      rw [joinWithDots_eq] at hallowed ⊢
      refine ⟨texts, ⟨_, splitAt_ne_nil _ _, ?_, hparts⟩, Bool.eq_false_iff.mpr hdirections, rfl,
        hallowed⟩
      exact fun part hpart => not_mem_of_mem_splitAt hpart
    next => cases h

namespace Written

variable {texts : List (List Char)}

theorem exists_part (h : Written texts ascii) {text : List Char} (htext : text ∈ texts) :
    ∃ part, '.' ∉ part ∧ partText? part = some text := by
  obtain ⟨parts, -, hdots, hparts⟩ := h.parts
  have hmem : some text ∈ parts.map partText? := hparts ▸ List.mem_map_of_mem htext
  obtain ⟨part, hpart, heq⟩ := List.mem_map.mp hmem
  exact ⟨part, hdots part hpart, heq⟩

theorem ne_nil (h : Written texts ascii) : texts ≠ [] := by
  obtain ⟨parts, hne, -, hparts⟩ := h.parts
  rintro rfl
  exact hne (List.map_eq_nil_iff.mp hparts)

/-- All characters are basic, and stand for themselves. -/
theorem plain (h : Written texts ascii) {c : Char} (hc : c ∈ ascii) : isBasic c ∧ isKept c := by
  rw [h.eq] at hc
  rcases mem_joinWith hc with rfl | ⟨piece, hpiece, hc⟩
  · exact ⟨by decide, List.all_eq_true.mp isKept_written _ (by decide)⟩
  · obtain ⟨text, htext, rfl⟩ := List.mem_map.mp hpiece
    obtain ⟨part, -, hpart⟩ := h.exists_part htext
    exact plain_of_mem_writePart hpart hc

/-- It is cut into what was written for the parts. -/
theorem splitAtDots (h : Written texts ascii) : splitAtDots ascii = texts.map writePart := by
  rw [splitAtDots_eq, h.eq]
  refine splitAt_joinWith ?_ fun hnil => h.ne_nil (List.map_eq_nil_iff.mp hnil)
  intro piece hpiece
  obtain ⟨text, htext, rfl⟩ := List.mem_map.mp hpiece
  obtain ⟨part, hdot, hpart⟩ := h.exists_part htext
  exact dot_not_mem_writePart hpart hdot

theorem mapM (h : Written texts ascii) :
    (texts.map writePart).mapM partText? = some texts := by
  rw [mapM_eq_some, List.map_map]
  refine List.map_congr_left ?_
  intro text htext
  obtain ⟨part, -, hpart⟩ := h.exists_part htext
  exact partText?_writePart hpart

/-- It is read as itself. -/
theorem toAscii? (h : Written texts ascii) : toAscii? ascii = some ascii := by
  have hmapped := mapAll?_of_isKept fun c hc => (h.plain hc).2
  have hcomposed := compose_of_isBasic fun c hc => (h.plain hc).1
  have hjoined : joinWithDots (texts.map writePart) = ascii := (joinWithDots_eq _).trans h.eq.symm
  unfold Idna.toAscii?
  rw [hmapped, Option.bind_eq_bind, Option.bind_some, hcomposed, h.splitAtDots, h.mapM]
  show (if texts.any hasRightToLeft && !texts.all directionsFit then none else
    if (joinWithDots (texts.map writePart)).all isAllowed then
      some (joinWithDots (texts.map writePart)) else none) = some ascii
  rw [h.directions, hjoined, h.allowed]
  rfl

end Written

/-- A name that is written in ASCII is read as itself. -/
theorem toAscii?_toAscii? (h : toAscii? name = some ascii) : toAscii? ascii = some ascii := by
  obtain ⟨texts, hwritten⟩ := toAscii?_eq_some h
  exact hwritten.toAscii?

/-! ### Numbers -/

theorem le_first_of_mem {position : Nat} {entries : List (List Char)} {r : Range}
    (h : r ∈ rangesFrom position entries) : position ≤ r.first := by
  induction entries generalizing position with
  | nil => cases h
  | cons entry rest ih =>
    unfold rangesFrom at h
    dsimp only at h
    split at h
    all_goals
      rcases List.mem_cons.mp h with rfl | h
      · exact Nat.le_add_right _ _
      · have hposition := ih h
        omega

/-- There are no marks below the first range of the table. -/
theorem isMark_eq_false {c : Char} (h : c.toNat < 0x300) : isMark c = false := by
  -- The table is in order, so its first entry is all that is looked at.
  obtain ⟨rest, hentries⟩ : ∃ rest, entries markLines = ['l', 'c', '.', '3', '3'] :: rest := ⟨_, rfl⟩
  have hranges : markRanges =
      { first := 0x300, last := 0x36f, tag := [] } :: rangesFrom 0x36f rest := by
    unfold markRanges ranges
    rw [hentries]
    rfl
  have hnone : tagOf? markRanges c = none := by
    unfold tagOf?
    rw [Option.map_eq_none_iff, List.find?_eq_none, hranges]
    intro r hr
    have hfirst : 0x300 ≤ r.first := by
      rcases List.mem_cons.mp hr with rfl | hr
      · exact Nat.le_refl _
      · exact Nat.le_trans (by decide) (le_first_of_mem hr)
    simp only [Bool.and_eq_true, decide_eq_true_eq, not_and, Nat.not_le]
    omega
  unfold isMark
  rw [hnone]
  rfl

/-- The digits of decimal numbers. -/
def decimalDigits : List Char :=
  (List.range 10).map Nat.digitChar

theorem decimalDigits_kept : decimalDigits.all isKept := by
  decide +kernel

theorem decimalDigits_direction : decimalDigits.all (directionOf · = .europeanNumber) := by
  decide +kernel

theorem decimalDigits_plain {c : Char} (h : c ∈ decimalDigits) :
    isBasic c ∧ isAllowed c ∧ c ∉ ['.', 'x', '\u200d', '\u200c'] := by
  have hall : decimalDigits.all fun c =>
      isBasic c && isAllowed c && decide (c ∉ ['.', 'x', '\u200d', '\u200c']) := by
    decide
  have hc := List.all_eq_true.mp hall c h
  simp only [Bool.and_eq_true, decide_eq_true_eq, and_assoc] at hc
  exact hc

theorem joinersFit_of_decimal {before : List Char} (h : ∀ c ∈ text, c ∈ decimalDigits) :
    joinersFit before text := by
  induction text generalizing before with
  | nil => rfl
  | cons c rest ih =>
    obtain ⟨-, -, hother⟩ := decimalDigits_plain (h c List.mem_cons_self)
    simp only [List.mem_cons, not_or] at hother
    unfold joinersFit
    simp [hother, ih fun a ha => h a (List.mem_cons_of_mem _ ha)]

/-- A part of decimal digits stands for itself. -/
theorem partText?_of_decimal (h : ∀ c ∈ part, c ∈ decimalDigits) : partText? part = some part := by
  have hmark : mark.isPrefixOf part = false := by
    cases part with
    | nil => rfl
    | cons c rest =>
      obtain ⟨-, -, hother⟩ := decimalDigits_plain (h c List.mem_cons_self)
      simp only [List.mem_cons, not_or] at hother
      simp [mark, List.isPrefixOf, Ne.symm hother.2.1]
  have hbasic : ∀ c ∈ part, isBasic c := fun c hc => (decimalDigits_plain (h c hc)).1
  refine partText?_eq_some.mpr ⟨?_, ?_⟩
  · rw [unwritten?, if_neg (Bool.eq_false_iff.mp hmark)]
  · have hkept : part.all isKept :=
      List.all_eq_true.mpr fun c hc => List.all_eq_true.mp decimalDigits_kept c (h c hc)
    have hstarts : part.head?.all (!isMark ·) := by
      cases part with
      | nil => rfl
      | cons c rest =>
        have hbasic : c.toNat < 0x80 := of_decide_eq_true (hbasic c List.mem_cons_self)
        simp [isMark_eq_false (show c.toNat < 0x300 by omega)]
    unfold isValid
    rw [compose_of_isBasic hbasic, hkept, hstarts, joinersFit_of_decimal h]
    simp

/-- Decimal numbers with dots between are written as they are. -/
theorem Written.of_decimal {parts : List (List Char)} (hne : parts ≠ [])
    (h : ∀ part ∈ parts, ∀ c ∈ part, c ∈ decimalDigits) : Written parts (joinWith '.' parts) where
  parts := by
    have hself : parts.map partText? = parts.map some :=
      List.map_congr_left fun part hpart => partText?_of_decimal (h part hpart)
    refine ⟨parts, hne, ?_, hself⟩
    intro part hpart hdot
    exact (decimalDigits_plain (h part hpart '.' hdot)).2.2 List.mem_cons_self
  directions := by
    have hnone : parts.any hasRightToLeft = false := by
      refine List.any_eq_false.mpr ?_
      intro part hpart hright
      obtain ⟨c, hc, hright⟩ := List.any_eq_true.mp hright
      have hnumber := List.all_eq_true.mp decimalDigits_direction c (h part hpart c hc)
      rw [of_decide_eq_true hnumber] at hright
      exact absurd hright (by decide)
    rw [hnone]
    rfl
  eq := by
    have hself : parts.map writePart = parts := by
      rw [List.map_congr_left (g := id), List.map_id]
      intro part hpart
      unfold writePart
      rw [if_pos (List.all_eq_true.mpr fun c hc => (decimalDigits_plain (h part hpart c hc)).1)]
      rfl
    rw [hself]
  allowed := by
    refine List.all_eq_true.mpr ?_
    intro c hc
    rcases mem_joinWith hc with rfl | ⟨part, hpart, hc⟩
    · decide
    · exact (decimalDigits_plain (h part hpart c hc)).2.1

end PagePilot.Idna
