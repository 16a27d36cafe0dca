import PagePilot.Proofs.Url.Percent
import PagePilot.Proofs.Url.Splitting
/-!
# PagePilot.Proofs.Url.Path

Paths. A path that has been walked along has no more parts that stay or go back, and its parts are
encoded. Read once more it stays as it is (`readPath_pathText`).

Whether a part says dots is asked before it is encoded. It does not matter when: encoding leaves
dots as they are, however they are written (`plainDots_encode`).
-/

namespace PagePilot.Url

variable {text part : List Char} {c : Char}

/-! ### Dots -/

theorem plainDots_cons (hc : c ≠ '%') (text : List Char) :
    plainDots (c :: text) = c :: plainDots text := by
  rw [plainDots]
  intro a rest heq
  exact absurd heq hc

/-- An encoded byte other than a dot is no dot. -/
theorem plainDots_encodeByte {b : UInt8} (hb : b ≠ 0x2e) (text : List Char) :
    plainDots (encodeByte b ++ text) = encodeByte b ++ plainDots text := by
  have hlt : b.toNat < 256 := b.toNat_lt
  have hplain : ∀ n ∈ List.range 16, capitalHex n ≠ '%' ∧ capitalHex n ≠ 'e' ∧
      (capitalHex n = 'E' → n = 14) ∧ (capitalHex n = '2' → n = 2) := by
    decide
  obtain ⟨hhigh, -, -, htwo⟩ := hplain (b.toNat / 16) (List.mem_range.mpr (by omega))
  obtain ⟨hlow, hsmall, hcapital, -⟩ := hplain (b.toNat % 16) (List.mem_range.mpr (by omega))
  unfold encodeByte
  simp only [List.cons_append, List.nil_append]
  by_cases h : capitalHex (b.toNat / 16) = '2'
  · have hdot : ¬ (capitalHex (b.toNat % 16) = 'e' ∨ capitalHex (b.toNat % 16) = 'E') := by
      rintro (heq | heq)
      · exact hsmall heq
      · have hhigh := htwo h
        have hlow := hcapital heq
        exact hb (UInt8.toNat_inj.mp (show b.toNat = 46 by omega))
    rw [h, plainDots, if_neg hdot, plainDots_cons hlow]
  · rw [plainDots, plainDots_cons hhigh, plainDots_cons hlow]
    intro c rest _ heq
    exact absurd (List.cons.inj heq).1 h

/-- No character but the dot has the byte of the dot. -/
theorem ne_dot_of_mem_utf8EncodeChar {b : UInt8} (hc : c ≠ '.') (h : b ∈ String.utf8EncodeChar c) :
    b ≠ 0x2e := by
  have hvalue : c.val.toNat ≠ 46 := by
    intro heq
    exact hc (Char.ext (UInt32.toNat_inj.mp heq))
  rintro rfl
  have hmem : (0x2e : UInt8).toNat ∈ (String.utf8EncodeChar c).map UInt8.toNat :=
    List.mem_map_of_mem h
  rw [show (0x2e : UInt8).toNat = 46 from rfl] at hmem
  unfold String.utf8EncodeChar at hmem
  dsimp only at hmem
  -- Only a character that is written as one byte has a byte below 0x80, and that is itself.
  repeat' split at hmem
  all_goals
    simp only [List.map_cons, List.map_nil, List.mem_cons, List.not_mem_nil, or_false,
      UInt8.toNat_ofNat'] at hmem
    omega

theorem plainDots_encodeChar (hpercent : c ≠ '%') (hdot : c ≠ '.') (text : List Char) :
    plainDots (Part.encodeChar .path c ++ text) = Part.encodeChar .path c ++ plainDots text := by
  unfold Part.encodeChar
  split
  · have hbytes : ∀ b ∈ String.utf8EncodeChar c, b ≠ 0x2e :=
      fun b => ne_dot_of_mem_utf8EncodeChar hdot
    generalize String.utf8EncodeChar c = bytes at hbytes
    induction bytes with
    | nil => rfl
    | cons b rest ih =>
      rw [List.flatMap_cons, List.append_assoc, plainDots_encodeByte (hbytes b List.mem_cons_self),
        ih fun a ha => hbytes a (List.mem_cons_of_mem _ ha), List.append_assoc]
  · exact plainDots_cons hpercent text

theorem encode_cons (c : Char) (text : List Char) :
    Part.encode .path (c :: text) = Part.encodeChar .path c ++ Part.encode .path text :=
  List.flatMap_cons

/-- The characters that dots are written with stay. -/
theorem encodeChar_of_mem (h : c ∈ ['%', '2', 'e', 'E', '.']) : Part.encodeChar .path c = [c] := by
  have hall : ['%', '2', 'e', 'E', '.'].all fun c => Part.encodeChar .path c = [c] := by
    decide
  exact of_decide_eq_true (List.all_eq_true.mp hall c h)

/-- What is written for a character begins with it, or with a percent sign. -/
theorem encodeChar_eq_cons (c : Char) :
    ∃ a tail, Part.encodeChar .path c = a :: tail ∧ (a = c ∨ a = '%') := by
  unfold Part.encodeChar
  split
  · cases hbytes : String.utf8EncodeChar c with
    | nil => exact absurd hbytes String.utf8EncodeChar_ne_nil
    | cons b rest => exact ⟨'%', _, rfl, .inr rfl⟩
  · exact ⟨c, [], rfl, .inl rfl⟩

theorem plainDots_percent (h : ∀ b tail, text ≠ '2' :: b :: tail) :
    plainDots ('%' :: text) = '%' :: plainDots text := by
  rw [plainDots]
  intro b tail _ heq
  exact h b tail heq

/-- An encoded text does not begin as a dot behind a percent sign if the text itself does not. -/
theorem encode_ne (h : ∀ b tail, text ≠ '2' :: b :: tail) :
    ∀ b tail, Part.encode .path text ≠ '2' :: b :: tail := by
  intro b tail heq
  cases text with
  | nil => cases heq
  | cons c rest =>
    obtain ⟨a, more, hchar, ha⟩ := encodeChar_eq_cons c
    rw [encode_cons, hchar, List.cons_append] at heq
    obtain ⟨rfl, heq⟩ := List.cons.inj heq
    rcases ha with rfl | ha
    · rw [encodeChar_of_mem (by decide)] at hchar
      cases hchar
      cases rest with
      | nil => cases heq
      | cons d rest => exact h d rest rfl
    · exact absurd ha (by decide)

/-- Dots may be looked for before and after the encoding. -/
theorem plainDots_encode (text : List Char) :
    plainDots (Part.encode .path text) = Part.encode .path (plainDots text) := by
  -- Three characters are read as a dot in the first case only, and these are not encoded. In the
  -- others encoding must not make such three out of what was not.
  induction text using plainDots.induct with
  | case1 c rest hc ih =>
    have hsmall : c ∈ ['%', '2', 'e', 'E', '.'] := by
      rcases hc with rfl | rfl <;> decide
    rw [encode_cons, encode_cons, encode_cons, encodeChar_of_mem hsmall,
      encodeChar_of_mem (by decide), encodeChar_of_mem (by decide), plainDots, if_pos hc,
      encode_cons, encodeChar_of_mem (by decide), ← ih]
    simp only [List.cons_append, List.nil_append]
    rw [plainDots, if_pos hc]
  | case2 c rest hc ih =>
    obtain ⟨a, tail, hchar, ha⟩ := encodeChar_eq_cons c
    have hother : ¬ (a = 'e' ∨ a = 'E') := by
      rcases ha with rfl | rfl
      · exact hc
      · decide
    have hnext : Part.encode .path (c :: rest) = a :: (tail ++ Part.encode .path rest) := by
      rw [encode_cons, hchar]
      rfl
    rw [hnext] at ih
    rw [plainDots, if_neg hc, encode_cons, encode_cons, encode_cons '%', encode_cons '2', ← ih,
      hnext, encodeChar_of_mem (by decide), encodeChar_of_mem (by decide)]
    simp only [List.cons_append, List.nil_append]
    rw [plainDots, if_neg hother]
  | case3 c rest hc ih =>
    by_cases hpercent : c = '%'
    · subst hpercent
      have hbehind : ∀ b tail, rest ≠ '2' :: b :: tail := fun b tail heq => hc b tail rfl heq
      rw [plainDots_percent hbehind, encode_cons, encode_cons, encodeChar_of_mem (by decide), ← ih]
      exact plainDots_percent (encode_ne hbehind)
    have hplain : plainDots (c :: rest) = c :: plainDots rest := plainDots_cons hpercent rest
    rw [hplain, encode_cons, encode_cons, ← ih]
    by_cases hdot : c = '.'
    · subst hdot
      rw [encodeChar_of_mem (by decide)]
      exact plainDots_cons (by decide) _
    · exact plainDots_encodeChar hpercent hdot _
  | case4 => rfl

/-- Whether a part says to stay or to go back. -/
def IsDots (part : List Char) : Prop :=
  plainDots part = ['.', '.'] ∨ plainDots part = ['.']

theorem isDots_encode : IsDots (Part.encode .path part) ↔ IsDots part := by
  -- Dots have no percent sign, and a text that is written without one was not encoded.
  have hself : ∀ {text : List Char}, '%' ∉ Part.encode .path text →
      Part.encode .path text = text := by
    intro text hpercent
    refine encode_of_plain ?_
    intro c hc
    refine Bool.eq_false_iff.mpr ?_
    intro hencoded
    have hchar : '%' ∈ Part.encodeChar .path c := by
      unfold Part.encodeChar
      rw [if_pos hencoded]
      cases hbytes : String.utf8EncodeChar c with
      | nil => exact absurd hbytes String.utf8EncodeChar_ne_nil
      | cons b rest => exact List.mem_append_left _ List.mem_cons_self
    exact hpercent (List.mem_flatMap.mpr ⟨c, hc, hchar⟩)
  have hdots : ∀ {dots : List Char}, '%' ∉ dots → Part.encode .path dots = dots →
      (Part.encode .path (plainDots part) = dots ↔ plainDots part = dots) := by
    intro dots hpercent hplain
    constructor
    · intro heq
      rw [← heq, hself (heq ▸ hpercent)]
    · intro heq
      rw [heq, hplain]
  unfold IsDots
  rw [plainDots_encode, hdots (by decide) (by decide), hdots (by decide) (by decide)]

/-! ### Walks -/

/-- A part of a path as it is kept: encoded, without slashes, and not dots. -/
structure IsStep (part : List Char) : Prop where
  plain : ∀ c ∈ part, Part.encodes .path c = false
  slash : '/' ∉ part
  backslash : '\\' ∉ part
  dots : ¬ IsDots part

theorem IsStep.nil : IsStep [] where
  plain := nofun
  slash := nofun
  backslash := nofun
  dots := by
    rintro (h | h) <;> cases h

theorem IsStep.encode (hslash : '/' ∉ part) (hbackslash : '\\' ∉ part) (hdots : ¬ IsDots part) :
    IsStep (Part.encode .path part) where
  plain _ := encodes_of_mem_encode
  slash := by
    intro hmem
    rcases mem_encode hmem with ⟨hmem, -⟩ | hmem
    · exact hslash hmem
    · exact absurd hmem (by decide)
  backslash := by
    intro hmem
    rcases mem_encode hmem with ⟨hmem, -⟩ | hmem
    · exact hbackslash hmem
    · exact absurd hmem (by decide)
  dots := mt isDots_encode.mp hdots

variable {walked parts : List (List Char)}

/-- One step of a walk. -/
def next (walked : List (List Char)) (part : List Char) : List (List Char) :=
  if plainDots part = ['.', '.'] then walked.drop 1
  else if plainDots part = ['.'] then walked
  else Part.encode .path part :: walked

theorem walk_cons (walked : List (List Char)) (part : List Char) (rest : List (List Char)) :
    walk walked (part :: rest) = if rest = [] then
      (if plainDots part = ['.', '.'] ∨ plainDots part = ['.'] then [] :: next walked part
        else next walked part).reverse
    else walk (next walked part) rest := by
  cases rest with
  | nil =>
    rw [if_pos rfl, walk]
    unfold next
    split <;> rfl
  | cons later rest =>
    rw [if_neg (List.cons_ne_nil _ _), walk]
    · rfl
    · exact nofun

theorem isStep_next (hwalked : ∀ p ∈ walked, IsStep p) (hslash : '/' ∉ part)
    (hbackslash : '\\' ∉ part) : ∀ p ∈ next walked part, IsStep p := by
  unfold next
  split
  next => exact fun p hp => hwalked p (List.mem_of_mem_drop hp)
  next hback =>
    split
    next => exact hwalked
    next hstay =>
      intro p hp
      rcases List.mem_cons.mp hp with rfl | hp
      · exact .encode hslash hbackslash fun h => h.elim hback hstay
      · exact hwalked p hp

/-- A walk leads along steps. -/
theorem isStep_walk (hwalked : ∀ p ∈ walked, IsStep p)
    (hparts : ∀ p ∈ parts, '/' ∉ p ∧ '\\' ∉ p) : ∀ p ∈ walk walked parts, IsStep p := by
  induction parts generalizing walked with
  | nil => exact fun p hp => hwalked p (List.mem_reverse.mp hp)
  | cons part rest ih =>
    obtain ⟨hslash, hbackslash⟩ := hparts part List.mem_cons_self
    have hnext := isStep_next hwalked hslash hbackslash
    rw [walk_cons]
    split
    next =>
      intro p hp
      rw [List.mem_reverse] at hp
      split at hp
      · rcases List.mem_cons.mp hp with rfl | hp
        · exact .nil
        · exact hnext p hp
      · exact hnext p hp
    next => exact ih hnext fun p hp => hparts p (List.mem_cons_of_mem _ hp)

theorem walk_ne_nil (hparts : parts ≠ []) : walk walked parts ≠ [] := by
  induction parts generalizing walked with
  | nil => exact absurd rfl hparts
  | cons part rest ih =>
    rw [walk_cons]
    split
    next =>
      rw [Ne, List.reverse_eq_nil_iff]
      split
      next => exact List.cons_ne_nil _ _
      next hdots =>
        unfold next
        rw [if_neg fun h => hdots (.inl h), if_neg fun h => hdots (.inr h)]
        exact List.cons_ne_nil _ _
    next hrest => exact ih hrest

theorem next_of_isStep (h : IsStep part) (walked : List (List Char)) :
    next walked part = part :: walked := by
  unfold next
  rw [if_neg fun heq => h.dots (.inl heq), if_neg fun heq => h.dots (.inr heq),
    encode_of_plain h.plain]

/-- Steps are walked along as they are. -/
theorem walk_of_isStep (hparts : ∀ p ∈ parts, IsStep p) (hne : parts ≠ []) :
    walk walked parts = walked.reverse ++ parts := by
  induction parts generalizing walked with
  | nil => exact absurd rfl hne
  | cons part rest ih =>
    have hpart := hparts part List.mem_cons_self
    rw [walk_cons, next_of_isStep hpart]
    split
    next hrest =>
      have hdots : ¬ (plainDots part = ['.', '.'] ∨ plainDots part = ['.']) := hpart.dots
      rw [if_neg hdots, hrest, List.reverse_cons]
    next hrest =>
      rw [ih (fun p hp => hparts p (List.mem_cons_of_mem _ hp)) hrest, List.reverse_cons,
        List.append_assoc]
      rfl

/-! ### Paths -/

theorem splitAtSlashes_ne_nil (text : List Char) : splitAtSlashes text ≠ [] := by
  cases text with
  | nil => exact List.cons_ne_nil _ _
  | cons c rest =>
    unfold splitAtSlashes
    split
    · exact List.cons_ne_nil _ _
    · split <;> exact List.cons_ne_nil _ _

theorem not_mem_of_mem_splitAtSlashes (h : part ∈ splitAtSlashes text) :
    '/' ∉ part ∧ '\\' ∉ part := by
  induction text generalizing part with
  | nil =>
    rw [splitAtSlashes, List.mem_singleton] at h
    simp [h]
  | cons c rest ih =>
    unfold splitAtSlashes at h
    split at h
    next =>
      rcases List.mem_cons.mp h with rfl | h
      · simp
      · exact ih h
    next hc =>
      split at h
      next heq => exact absurd heq (splitAtSlashes_ne_nil rest)
      next first parts heq =>
        rw [heq] at ih
        rcases List.mem_cons.mp h with rfl | h
        · obtain ⟨hslash, hbackslash⟩ := ih List.mem_cons_self
          simp only [isSlash, Bool.or_eq_true, decide_eq_true_eq, not_or] at hc
          simp [hslash, hbackslash, Ne.symm hc.1, Ne.symm hc.2]
        · exact ih (List.mem_cons_of_mem _ h)

/-- A path as it is kept. -/
structure IsPath (path : List (List Char)) : Prop where
  ne_nil : path ≠ []
  steps : ∀ part ∈ path, IsStep part

theorem isPath_readPath (text : List Char) : IsPath (readPath text) := by
  unfold readPath
  split
  next => exact ⟨List.cons_ne_nil _ _, fun p hp => List.mem_singleton.mp hp ▸ .nil⟩
  next c rest =>
    refine ⟨walk_ne_nil (splitAtSlashes_ne_nil _), isStep_walk (List.forall_mem_nil _) ?_⟩
    exact fun p hp => not_mem_of_mem_splitAtSlashes hp

theorem flatMap_slash {path : List (List Char)} (hne : path ≠ []) :
    path.flatMap ('/' :: ·) = '/' :: joinWith '/' path := by
  induction path with
  | nil => exact absurd rfl hne
  | cons part rest ih =>
    cases rest with
    | nil => simp [joinWith]
    | cons later rest =>
      rw [List.flatMap_cons, ih (List.cons_ne_nil _ _)]
      rfl

/-- A path that is kept is read as it is written. -/
theorem readPath_pathText {path : List (List Char)} (h : IsPath path) :
    readPath (path.flatMap ('/' :: ·)) = path := by
  have hbackslash : '\\' ∉ joinWith '/' path := by
    intro hmem
    rcases mem_joinWith hmem with heq | ⟨part, hpart, hmem⟩
    · exact absurd heq (by decide)
    · exact (h.steps part hpart).backslash hmem
  rw [flatMap_slash h.ne_nil]
  show walk [] (splitAtSlashes (joinWith '/' path)) = path
  rw [splitAtSlashes_eq hbackslash, splitAt_joinWith (fun p hp => (h.steps p hp).slash) h.ne_nil,
    walk_of_isStep h.steps h.ne_nil]
  rfl

end PagePilot.Url
