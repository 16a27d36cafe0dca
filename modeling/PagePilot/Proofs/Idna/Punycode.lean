import PagePilot.Idna.Punycode
import PagePilot.Proofs.Text.Runs
/-!
# PagePilot.Proofs.Idna.Punycode

What is written in Punycode is read as the text that it was written for (`decode?_encode`).

The writer and the reader go through the same pairs of a code point and a place, in the same order:
all places for the lowest code point, then all places for the next one. The writer counts the pairs
that it passes between two insertions, and the reader goes on by as many (`Caught`). So whatever the
writer has passed, the reader stands at the last insertion, with the same characters in place.
-/

namespace PagePilot.Idna.Punycode

/-! ### Numbers -/

theorem value?_digit {d : Nat} (h : d < 36) : value? (digit d) = some d := by
  have hall : ∀ d ∈ List.range 36, value? (digit d) = some d := by decide
  exact hall d (List.mem_range.mpr h)

/-- The characters of numbers. -/
def IsDigit (c : Char) : Prop :=
  ∃ d < 36, c = digit d

theorem IsDigit.ne {c a : Char} (h : IsDigit c) (ha : value? a = none) : c ≠ a := by
  rintro rfl
  obtain ⟨d, hd, rfl⟩ := h
  cases (value?_digit hd).symm.trans ha

theorem threshold_le (k bias : Nat) : threshold k bias ≤ 26 :=
  Nat.min_le_left ..

theorem isDigit_of_mem_writeNumber {bias k q : Nat} {c : Char} (h : c ∈ writeNumber bias k q) :
    IsDigit c := by
  have ht := threshold_le k bias
  rw [writeNumber] at h
  split at h
  next hq =>
    refine ⟨q, by omega, ?_⟩
    exact List.mem_singleton.mp h
  next hq =>
    rcases List.mem_cons.mp h with h | h
    · have hmod := Nat.mod_lt (q - threshold k bias) (show 0 < 36 - threshold k bias by omega)
      exact ⟨_, by omega, h⟩
    · exact isDigit_of_mem_writeNumber h
termination_by q
decreasing_by
  have hpos := threshold_pos k bias
  exact Nat.lt_of_le_of_lt (Nat.div_le_self _ _) (by omega)

theorem step_digit (s : ReadState) {d : Nat} (hd : d < 36) : s.step (digit d) =
    if d < threshold s.k s.bias then ({ s with place := s.place + d * s.weight } : ReadState).insert
    else some { s with
      place := s.place + d * s.weight
      k := s.k + 36
      weight := s.weight * (36 - threshold s.k s.bias) } := by
  unfold ReadState.step
  rw [value?_digit hd]
  rfl

/-- The digits of higher weight count for what the lowest leaves. -/
theorem place_add_weight (place weight : Nat) {t q : Nat} (hq : t ≤ q) :
    place + (t + (q - t) % (36 - t)) * weight + (q - t) / (36 - t) * (weight * (36 - t)) =
      place + q * weight := by
  have hdiv := Nat.div_add_mod (q - t) (36 - t)
  generalize (q - t) / (36 - t) = high at hdiv ⊢
  generalize (q - t) % (36 - t) = low at hdiv ⊢
  generalize 36 - t = step at hdiv ⊢
  have hwhole : q = t + (step * high + low) := by omega
  rw [hwhole]
  grind

/-- A number goes on by as much as was written. -/
theorem foldlM_writeNumber (q : Nat) (s : ReadState) :
    (writeNumber s.bias s.k q).foldlM ReadState.step s =
      ({ s with place := s.place + q * s.weight } : ReadState).insert := by
  have ht := threshold_le s.k s.bias
  have hpos := threshold_pos s.k s.bias
  rw [writeNumber]
  split
  next hq =>
    rw [List.foldlM_cons, step_digit s (by omega), if_pos hq]
    exact bind_pure _
  next hq =>
    have hmod := Nat.mod_lt (q - threshold s.k s.bias) (show 0 < 36 - threshold s.k s.bias by omega)
    -- A digit from the threshold on is not the last; the rest of the number counts at its weight.
    rw [List.foldlM_cons, step_digit s (by omega), if_neg (by omega)]
    refine (foldlM_writeNumber _ { s with
      place := s.place + (threshold s.k s.bias +
        (q - threshold s.k s.bias) % (36 - threshold s.k s.bias)) * s.weight
      k := s.k + 36
      weight := s.weight * (36 - threshold s.k s.bias) }).trans ?_
    rw [← place_add_weight s.place s.weight (Nat.le_of_not_lt hq)]
    rfl
termination_by q
decreasing_by
  exact Nat.lt_of_le_of_lt (Nat.div_le_self _ _) (by omega)

/-! ### Writer and reader -/

variable {basic m : Nat} {before after : List Char} {w : Written} {s : ReadState}

/-- The writer has come to a place in the text, on its way through the characters with code point
`m`: it has passed `before`, and `after` is still to come. The reader stands at the last insertion,
and has in place what the writer has. -/
structure Caught (basic m : Nat) (before after : List Char) (w : Written) (s : ReadState) :
    Prop where
  text : s.text = before.filter (·.toNat ≤ m) ++ after.filter (·.toNat < m)
  count : w.count = s.text.length
  point : s.point ≤ m
  /-- With what the writer has passed since, the reader would stand where the writer does. -/
  position : s.point * (w.count + 1) + (s.start + w.distance) =
    m * (w.count + 1) + (before.filter (·.toNat ≤ m)).length
  place : s.place = s.start
  k : s.k = 36
  weight : s.weight = 1
  bias : s.bias = w.bias
  first : s.start = 0 ↔ w.count = basic
  least : basic ≤ w.count

theorem ofNatAux_eq {n : Nat} {c : Char} (h : n.isValidChar) (hn : n = c.toNat) :
    Char.ofNatAux n h = c := by
  subst hn
  rfl

/-- Where a character is put in that is known. -/
theorem ReadState.insert_eq {c : Char} {s : ReadState}
    (h : s.point + s.place / (s.text.length + 1) = c.toNat) :
    s.insert = some
      { text := s.text.take (s.place % (s.text.length + 1)) ++
          c :: s.text.drop (s.place % (s.text.length + 1))
        point := c.toNat
        place := s.place % (s.text.length + 1) + 1
        start := s.place % (s.text.length + 1) + 1
        bias := adapt (s.place - s.start) (s.text.length + 1) (s.start = 0)
        k := 36
        weight := 1 } := by
  have hvalid : (s.point + s.place / (s.text.length + 1)).isValidChar := h ▸ c.valid
  refine (dif_pos hvalid).trans ?_
  rw [ofNatAux_eq hvalid h, h]

/-- Only a character is put in. -/
theorem ReadState.exists_of_insert {s s' : ReadState} (h : s.insert = some s') :
    ∃ c : Char, s.point + s.place / (s.text.length + 1) = c.toNat := by
  by_cases hvalid : (s.point + s.place / (s.text.length + 1)).isValidChar
  · exact ⟨Char.ofNatAux _ hvalid, rfl⟩
  · have hnone : s.insert = none := dif_neg hvalid
    cases hnone.symm.trans h

/-- Where the reader gets to when it goes on by what the writer has passed. -/
theorem Caught.lands (h : Caught basic m before after w s) :
    (s.start + w.distance) / (w.count + 1) = m - s.point ∧
      (s.start + w.distance) % (w.count + 1) = (before.filter (·.toNat ≤ m)).length := by
  have hplace : (before.filter (·.toNat ≤ m)).length < w.count + 1 := by
    rw [h.count, h.text, List.length_append]
    omega
  have htotal : s.start + w.distance =
      (before.filter (·.toNat ≤ m)).length + (w.count + 1) * (m - s.point) := by
    have hposition := h.position
    have hpoint := h.point
    obtain ⟨rise, rfl⟩ := Nat.exists_eq_add_of_le hpoint
    rw [Nat.add_sub_cancel_left]
    grind
  rw [htotal, Nat.add_mul_div_left _ _ (Nat.succ_pos _), Nat.add_mul_mod_self_left,
    Nat.div_eq_of_lt hplace, Nat.mod_eq_of_lt hplace, Nat.zero_add]
  exact ⟨rfl, rfl⟩

/-- A character that is written is put in at its place. -/
theorem Caught.insert {c : Char} (h : Caught basic c.toNat before (c :: after) w s) :
    ∃ s', ({ s with place := s.place + w.distance * s.weight } : ReadState).insert = some s' ∧
      Caught basic c.toNat (before ++ [c]) after (pass basic c.toNat w c) s' := by
  obtain ⟨hdiv, hmod⟩ := h.lands
  have hpoint : s.point + (s.place + w.distance * s.weight) / (s.text.length + 1) = c.toNat := by
    rw [h.place, h.weight, Nat.mul_one, ← h.count, hdiv, Nat.add_sub_of_le h.point]
  -- Both results of the division are known: the reader is at the writer's code point and place.
  rw [ReadState.insert_eq hpoint]
  simp only [h.place, h.weight, Nat.mul_one, ← h.count, hmod]
  refine ⟨_, rfl, ?_⟩
  have htext : s.text = before.filter (·.toNat ≤ c.toNat) ++ after.filter (·.toNat < c.toNat) := by
    rw [h.text, List.filter_cons_of_neg (by simp)]
  have hbefore : (before ++ [c]).filter (·.toNat ≤ c.toNat) =
      before.filter (·.toNat ≤ c.toNat) ++ [c] := by
    simp
  have hwritten : pass basic c.toNat w c =
      { text := w.text ++ writeNumber w.bias 36 w.distance, count := w.count + 1, distance := 0,
        bias := adapt w.distance (w.count + 1) (w.count = basic) } := by
    simp [pass]
  rw [hwritten]
  refine { text := ?_, count := ?_, point := Nat.le_refl _, position := ?_, place := rfl, k := rfl,
           weight := rfl, bias := ?_, first := ?_, least := Nat.le_succ_of_le h.least }
  · rw [htext, List.take_left, List.drop_left, hbefore, List.append_assoc]
    rfl
  · rw [h.count, htext, List.take_left, List.drop_left]
    simp only [List.length_append, List.length_cons]
    omega
  · rw [hbefore, List.length_append]
    rfl
  · simp only [Nat.add_sub_cancel_left, h.first]
  · have hleast := h.least
    exact iff_of_false (Nat.succ_ne_zero _) (by simp only; omega)

/-- A character that is not written is passed, and counts if it is in place. -/
theorem Caught.skip {c : Char} (h : Caught basic m before (c :: after) w s) (hc : c.toNat ≠ m) :
    Caught basic m (before ++ [c]) after (pass basic m w c) s := by
  have hposition := h.position
  have htext := h.text
  by_cases hlt : c.toNat < m
  · have hbefore : (before ++ [c]).filter (·.toNat ≤ m) = before.filter (·.toNat ≤ m) ++ [c] := by
      simp [Nat.le_of_lt hlt]
    rw [List.filter_cons_of_pos (by simpa using hlt)] at htext
    rw [pass, if_pos hlt]
    refine { h with text := ?_, position := ?_ }
    · rw [htext, hbefore, List.append_assoc]
      rfl
    · rw [hbefore, List.length_append]
      simp only [List.length_singleton]
      omega
  · have hbefore : (before ++ [c]).filter (·.toNat ≤ m) = before.filter (·.toNat ≤ m) := by
      simp [show m < c.toNat by omega]
    rw [List.filter_cons_of_neg (by simpa using hlt)] at htext
    rw [pass, if_neg hlt, if_neg hc]
    refine { h with text := ?_, position := ?_ }
    · rw [htext, hbefore]
    · rw [hbefore]
      exact hposition

/-! ### What is written -/

variable {front : List Char} {start : ReadState}

/-- What has been written behind `front` takes the reader from `start` to `s`. -/
def Brings (front : List Char) (start : ReadState) (w : Written) (s : ReadState) : Prop :=
  ∃ numbers, w.text = front ++ numbers ∧ (∀ c ∈ numbers, IsDigit c) ∧
    numbers.foldlM ReadState.step start = some s

theorem Brings.pass {c : Char} (h : Brings front start w s)
    (hs : Caught basic m before (c :: after) w s) : ∃ s',
      Brings front start (pass basic m w c) s' ∧
        Caught basic m (before ++ [c]) after (pass basic m w c) s' := by
  by_cases hc : c.toNat = m
  · subst hc
    obtain ⟨s', hinsert, hs'⟩ := hs.insert
    obtain ⟨numbers, htext, hdigits, hreads⟩ := h
    refine ⟨s', ⟨numbers ++ writeNumber w.bias 36 w.distance, ?_, ?_, ?_⟩, hs'⟩
    · simp [Punycode.pass, htext]
    · intro a ha
      rcases List.mem_append.mp ha with ha | ha
      · exact hdigits a ha
      · exact isDigit_of_mem_writeNumber ha
    · rw [List.foldlM_append, hreads, ← hs.bias, ← hs.k]
      exact (foldlM_writeNumber _ _).trans hinsert
  · refine ⟨s, ?_, hs.skip hc⟩
    obtain ⟨numbers, htext, hnumbers⟩ := h
    refine ⟨numbers, ?_, hnumbers⟩
    rw [← htext]
    unfold Punycode.pass
    split
    · rfl
    · rfl

theorem Brings.foldl (after : List Char) {before : List Char} {w : Written} {s : ReadState}
    (h : Brings front start w s) (hs : Caught basic m before after w s) : ∃ s',
      Brings front start (after.foldl (Punycode.pass basic m) w) s' ∧
        Caught basic m (before ++ after) [] (after.foldl (Punycode.pass basic m) w) s' := by
  induction after generalizing before w s with
  | nil => exact ⟨s, h, by simpa using hs⟩
  | cons c after ih =>
    obtain ⟨s', h', hs'⟩ := h.pass hs
    obtain ⟨s'', h'', hs''⟩ := ih h' hs'
    exact ⟨s'', h'', by simpa using hs''⟩

/-! ### Whole texts -/

variable {text : List Char} {next : Nat}

/-- Code points that the text does not have are passed. -/
theorem Caught.raise (h : Caught basic next [] text w s) {point : Nat} (hpoint : next ≤ point)
    (hnone : ∀ c ∈ text, c.toNat < next ∨ point ≤ c.toNat) : Caught basic point [] text
      { w with distance := w.distance + (point - next) * (w.count + 1) } s := by
  have hposition := h.position
  refine { h with text := ?_, point := Nat.le_trans h.point hpoint, position := ?_ }
  · rw [h.text]
    refine congrArg _ (List.filter_congr ?_)
    intro c hc
    refine decide_eq_decide.mpr ?_
    have hc := hnone c hc
    omega
  · obtain ⟨rise, rfl⟩ := Nat.exists_eq_add_of_le hpoint
    simp only [Nat.add_sub_cancel_left, List.filter_nil, List.length_nil] at hposition ⊢
    grind

/-- With the last place for a code point, the next one begins. -/
theorem Caught.wrap (h : Caught basic m text [] w s) :
    Caught basic (m + 1) [] text { w with distance := w.distance + 1 } s := by
  have hposition := h.position
  have htext : s.text = text.filter (·.toNat ≤ m) := by
    rw [h.text, List.filter_nil, List.append_nil]
  refine { h with text := ?_, point := Nat.le_succ_of_le h.point, position := ?_ }
  · rw [htext, List.filter_nil, List.nil_append]
    refine List.filter_congr ?_
    intro c _
    exact decide_eq_decide.mpr Nat.lt_succ_iff.symm
  · rw [← htext, ← h.count] at hposition
    simp only [List.filter_nil, List.length_nil]
    grind

theorem Brings.writePoints {points : List Nat} {next : Nat} {w : Written} {s : ReadState}
    (h : Brings front start w s) (hs : Caught basic next [] text w s)
    (hsorted : points.Pairwise (· < ·)) (hpoints : ∀ p ∈ points, next ≤ p)
    (hcovers : ∀ c ∈ text, c.toNat < next ∨ c.toNat ∈ points) : ∃ s',
      Brings front start (writePoints text basic next points w) s' ∧ s'.text = text ∧ s'.k = 36 := by
  induction points generalizing next w s with
  | nil =>
    refine ⟨s, h, ?_, hs.k⟩
    rw [hs.text, List.filter_nil, List.nil_append]
    refine List.filter_eq_self.mpr ?_
    intro c hc
    simpa using hcovers c hc
  | cons point rest ih =>
    have hpoint : next ≤ point := hpoints point List.mem_cons_self
    obtain ⟨hlater, hrest⟩ := List.pairwise_cons.mp hsorted
    have hnone : ∀ c ∈ text, c.toNat < next ∨ point ≤ c.toNat := by
      intro c hc
      rcases hcovers c hc with hlt | hmem
      · exact .inl hlt
      rcases List.mem_cons.mp hmem with heq | hmem
      · exact .inr (Nat.le_of_eq heq.symm)
      · exact .inr (Nat.le_of_lt (hlater _ hmem))
    -- Up to the next code point everything is passed at once, and then the text once for it.
    obtain ⟨s', h', hs'⟩ := Brings.foldl text (w := { w with
      distance := w.distance + (point - next) * (w.count + 1) }) h (hs.raise hpoint hnone)
    refine ih (w := { text.foldl (Punycode.pass basic point) _ with distance := _ }) h' hs'.wrap
      hrest ?_ ?_
    · exact hlater
    · intro c hc
      rcases hcovers c hc with hlt | hmem
      · exact .inl (by omega)
      rcases List.mem_cons.mp hmem with heq | hmem
      · exact .inl (by omega)
      · exact .inr hmem

theorem pairwise_eraseDups {points : List Nat} (h : points.Pairwise (· ≤ ·)) :
    points.eraseDups.Pairwise (· < ·) := by
  match points with
  | [] => exact .nil
  | point :: rest =>
    obtain ⟨hlater, hrest⟩ := List.pairwise_cons.mp h
    rw [List.eraseDups_cons]
    refine List.pairwise_cons.mpr ⟨?_, pairwise_eraseDups (hrest.filter _)⟩
    intro p hp
    obtain ⟨hp, hne⟩ := List.mem_filter.mp (List.mem_eraseDups.mp hp)
    have hle := hlater p hp
    have hne : p ≠ point := by simpa using hne
    omega
termination_by points.length
decreasing_by
  exact Nat.lt_succ_of_le (List.length_filter_le _ _)

theorem mem_otherPoints {n : Nat} :
    n ∈ otherPoints text ↔ ∃ c ∈ text, isBasic c = false ∧ c.toNat = n := by
  unfold otherPoints
  rw [List.mem_eraseDups, List.mem_mergeSort, List.mem_map]
  simp only [List.mem_filter, Bool.not_eq_true', and_assoc]

theorem pairwise_otherPoints (text : List Char) : (otherPoints text).Pairwise (· < ·) := by
  refine pairwise_eraseDups ?_
  refine (List.pairwise_mergeSort ?_ ?_ _).imp of_decide_eq_true
  · intro a b c hab hbc
    exact decide_eq_true (Nat.le_trans (of_decide_eq_true hab) (of_decide_eq_true hbc))
  · intro a b
    simpa using Nat.le_total a b

/-- What is written for a text: its basic characters, a hyphen behind them, and numbers that bring
the reader to the text. -/
theorem exists_numbers (text : List Char) : ∃ numbers s,
    encode text = (if (text.filter isBasic).isEmpty then [] else text.filter isBasic ++ ['-']) ++
      numbers ∧ (∀ c ∈ numbers, IsDigit c) ∧
        numbers.foldlM ReadState.step
          { text := text.filter isBasic, point := 0x80, place := 0, start := 0, bias := 72, k := 36,
            weight := 1 } = some s ∧ s.text = text ∧ s.k = 36 := by
  let written : Written :=
    { text := if (text.filter isBasic).isEmpty then [] else text.filter isBasic ++ ['-']
      count := (text.filter isBasic).length, distance := 0, bias := 72 }
  let start : ReadState :=
    { text := text.filter isBasic, point := 0x80, place := 0, start := 0, bias := 72, k := 36,
      weight := 1 }
  have hbrings : Brings written.text start written start :=
    ⟨[], (List.append_nil _).symm, nofun, rfl⟩
  have hcaught : Caught (text.filter isBasic).length 0x80 [] text written start :=
    { text := rfl, count := rfl, point := Nat.le_refl _, position := rfl, place := rfl, k := rfl,
      weight := rfl, bias := rfl, first := iff_of_true rfl rfl, least := Nat.le_refl _ }
  have hpoints : ∀ n ∈ otherPoints text, 0x80 ≤ n := by
    intro n hn
    obtain ⟨c, -, hc, rfl⟩ := mem_otherPoints.mp hn
    exact Nat.le_of_not_lt (of_decide_eq_false hc)
  have hcovers : ∀ c ∈ text, c.toNat < 0x80 ∨ c.toNat ∈ otherPoints text := by
    intro c hc
    cases hbasic : isBasic c with
    | true => exact .inl (of_decide_eq_true hbasic)
    | false => exact .inr (mem_otherPoints.mpr ⟨c, hc, hbasic, rfl⟩)
  obtain ⟨s, ⟨numbers, htext, hdigits, hreads⟩, hs, hk⟩ :=
    hbrings.writePoints hcaught (pairwise_otherPoints text) hpoints hcovers
  exact ⟨numbers, s, htext, hdigits, hreads, hs, hk⟩

theorem hyphen_not_mem {numbers : List Char} (h : ∀ c ∈ numbers, IsDigit c) : '-' ∉ numbers :=
  fun hmem => (h _ hmem).ne (by decide) rfl

/-- A text is cut at its last hyphen where it was put together. -/
theorem splitAtLastHyphen_append {front numbers : List Char} (hfront : front ≠ [])
    (hnumbers : '-' ∉ numbers) :
    splitAtLastHyphen (front ++ '-' :: numbers) = (front, numbers) := by
  unfold splitAtLastHyphen
  simp only [Text.behind_append_cons hnumbers, Text.take_append_cons]
  exact if_neg (by simpa using hfront)

/-- Without a hyphen all is behind. -/
theorem splitAtLastHyphen_of_not_mem {numbers : List Char} (hnumbers : '-' ∉ numbers) :
    splitAtLastHyphen numbers = ([], numbers) := by
  unfold splitAtLastHyphen
  simp only [Text.behind_of_not_mem hnumbers, Nat.sub_self, Nat.zero_sub, List.take_zero]
  rfl

/-- What is written for a text is read as the text. -/
theorem decode?_encode (text : List Char) : decode? (encode text) = some text := by
  obtain ⟨numbers, s, htext, hdigits, hreads, hs, hk⟩ := exists_numbers text
  have hsplit : splitAtLastHyphen (encode text) = (text.filter isBasic, numbers) := by
    rw [htext]
    cases hbasic : text.filter isBasic with
    | nil => exact splitAtLastHyphen_of_not_mem (hyphen_not_mem hdigits)
    | cons c rest =>
      have happend := splitAtLastHyphen_append (List.cons_ne_nil c rest) (hyphen_not_mem hdigits)
      rw [← happend]
      simp
  have hbasic : (text.filter isBasic).all isBasic := by simp
  unfold decode?
  simp only [hsplit, hreads, Option.bind_eq_bind, Option.bind_some, hk, hbasic, hs]
  simp

/-- What is written are basic characters of the text, the hyphen, and digits. -/
theorem mem_encode {text : List Char} {c : Char} (h : c ∈ encode text) :
    c ∈ text.filter isBasic ∨ c = '-' ∨ IsDigit c := by
  obtain ⟨numbers, -, htext, hdigits, -⟩ := exists_numbers text
  rw [htext] at h
  rcases List.mem_append.mp h with h | h
  · split at h
    next => cases h
    next =>
      rcases List.mem_append.mp h with h | h
      · exact .inl h
      · exact .inr (.inl (List.mem_singleton.mp h))
  · exact .inr (.inr (hdigits c h))

/-! ### What is read -/

/-- Every character is one of the text, or beyond the basic ones. -/
def Beyond (text : List Char) (s : ReadState) : Prop :=
  0x80 ≤ s.point ∧ ∀ c ∈ s.text, c ∈ text ∨ isBasic c = false

theorem Beyond.step {c : Char} {s' : ReadState} (h : Beyond text s) (hstep : s.step c = some s') :
    Beyond text s' := by
  unfold ReadState.step at hstep
  obtain ⟨d, -, hstep⟩ := Option.bind_eq_some_iff.mp hstep
  dsimp only at hstep
  split at hstep
  next =>
    obtain ⟨inserted, hinserted⟩ := ReadState.exists_of_insert hstep
    rw [ReadState.insert_eq hinserted] at hstep
    cases hstep
    have hpoint : 0x80 ≤ inserted.toNat :=
      hinserted ▸ Nat.le_trans h.1 (Nat.le_add_right ..)
    refine ⟨hpoint, ?_⟩
    intro a ha
    rcases List.mem_append.mp ha with ha | ha
    · exact h.2 a (List.mem_of_mem_take ha)
    rcases List.mem_cons.mp ha with rfl | ha
    · exact .inr (decide_eq_false (Nat.not_lt.mpr hpoint))
    · exact h.2 a (List.mem_of_mem_drop ha)
  next =>
    cases hstep
    exact h

theorem Beyond.foldlM {numbers : List Char} {s' : ReadState} (h : Beyond text s)
    (hreads : numbers.foldlM ReadState.step s = some s') : Beyond text s' := by
  induction numbers generalizing s with
  | nil =>
    cases hreads
    exact h
  | cons c numbers ih =>
    rw [List.foldlM_cons] at hreads
    obtain ⟨s'', hstep, hreads⟩ := Option.bind_eq_some_iff.mp hreads
    exact ih (h.step hstep) hreads

/-- The basic characters of what is read were there. -/
theorem mem_of_decode? {text written : List Char} (h : decode? written = some text) {c : Char}
    (hc : c ∈ text) : c ∈ written ∨ isBasic c = false := by
  unfold decode? at h
  obtain ⟨s, hreads, h⟩ := Option.bind_eq_some_iff.mp h
  split at h
  next =>
    cases h
    have hstart : Beyond written
        { text := (splitAtLastHyphen written).1, point := 0x80, place := 0, start := 0, bias := 72,
          k := 36, weight := 1 } := by
      refine ⟨Nat.le_refl _, ?_⟩
      intro a ha
      refine .inl ?_
      unfold splitAtLastHyphen at ha
      dsimp only at ha
      split at ha
      next => cases ha
      next => exact List.mem_of_mem_take ha
    exact (hstart.foldlM hreads).2 c hc
  next => cases h

end PagePilot.Idna.Punycode
