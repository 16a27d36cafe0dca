import PagePilot.Proofs.Url.Digits
import PagePilot.Proofs.Url.Splitting
/-!
# PagePilot.Proofs.Url.Ipv6

Addresses of eight pieces. The text of an address leaves out its longest run of zeros, and is read
as the address (`readIpv6?_writeIpv6`): the gap is the only place with two colons in a row, and
stands for as many zeros as there are pieces missing.
-/

namespace PagePilot.Url

variable {text : List Char} {pieces : List Nat}

/-! ### Pieces -/

theorem hexDigits_ne_nil (n : Nat) : hexDigits n ≠ [] :=
  Nat.toDigits_ne_nil

theorem exists_of_mem_hexDigits {n : Nat} {c : Char} (h : c ∈ hexDigits n) :
    ∃ d ∈ List.range 16, c = d.digitChar := by
  obtain ⟨d, hd, hc⟩ := exists_of_mem_toDigits (by decide) h
  exact ⟨d, List.mem_range.mpr hd, hc⟩

theorem not_mem_hexDigits {mark : Char} (hmark : ∀ d ∈ List.range 16, mark ≠ d.digitChar)
    (n : Nat) : mark ∉ hexDigits n := by
  intro h
  obtain ⟨d, hd, hc⟩ := exists_of_mem_hexDigits h
  exact hmark d hd hc

theorem pieceValue?_hexDigits {n : Nat} (h : n < 0x10000) : pieceValue? (hexDigits n) = some n := by
  unfold pieceValue?
  have hlength : (hexDigits n).length ≤ 4 :=
    (Nat.length_toDigits_le_iff (by decide) (by decide)).mpr h
  rw [if_pos ⟨Nat.length_toDigits_pos, hlength⟩]
  exact digitsValue?_toDigits (by decide) (by decide) n

theorem pieceValue?_lt {n : Nat} (h : pieceValue? text = some n) : n < 0x10000 := by
  unfold pieceValue? at h
  split at h
  next hlength =>
    exact Nat.lt_of_lt_of_le (digitsValue?_lt h) (Nat.pow_le_pow_right (by decide) hlength.2)
  next => cases h

theorem piecesOf?_hexDigits (tail : Bool) (h : ∀ n ∈ pieces, n < 0x10000) :
    piecesOf? tail (pieces.map hexDigits) = some pieces := by
  induction pieces with
  | nil => rfl
  | cons n rest ih =>
    have hn := pieceValue?_hexDigits (h n List.mem_cons_self)
    have hrest := ih fun m hm => h m (List.mem_cons_of_mem _ hm)
    cases rest with
    | nil =>
      have hdot : '.' ∉ hexDigits n := not_mem_hexDigits (by decide) n
      simp [piecesOf?, hdot, hn]
    | cons m rest =>
      rw [List.map_cons, List.map_cons, piecesOf?, ← List.map_cons, hrest, hn]
      · rfl
      · exact nofun

/-- Pieces with colons between. -/
def written (pieces : List Nat) : List Char :=
  joinWith ':' (pieces.map hexDigits)

theorem colon_not_mem_hexDigits (n : Nat) : ':' ∉ hexDigits n :=
  not_mem_hexDigits (by decide) n

theorem written_cons (n : Nat) (rest : List Nat) :
    ∃ c tail, written (n :: rest) = c :: tail ∧ c ≠ ':' := by
  obtain ⟨c, digits, hdigits⟩ := List.exists_cons_of_ne_nil (hexDigits_ne_nil n)
  have hc : c ≠ ':' := by
    rintro rfl
    exact colon_not_mem_hexDigits n (hdigits ▸ List.mem_cons_self)
  unfold written
  rw [List.map_cons, hdigits]
  cases rest with
  | nil => exact ⟨c, digits, rfl, hc⟩
  | cons m rest => exact ⟨c, _, rfl, hc⟩

theorem readPieces?_written (tail : Bool) (h : ∀ n ∈ pieces, n < 0x10000) :
    readPieces? tail (written pieces) = some pieces := by
  cases pieces with
  | nil => rfl
  | cons n rest =>
    obtain ⟨c, text, htext, -⟩ := written_cons n rest
    have hsplit : splitAt ':' (written (n :: rest)) = (n :: rest).map hexDigits := by
      refine splitAt_joinWith ?_ (List.cons_ne_nil _ _)
      intro piece hpiece
      obtain ⟨m, -, rfl⟩ := List.mem_map.mp hpiece
      exact colon_not_mem_hexDigits m
    unfold readPieces?
    rw [hsplit, if_neg (by simp [htext])]
    exact piecesOf?_hexDigits tail h

/-! ### The gap -/

theorem splitAtGap_append {piece : List Char} (hpiece : ':' ∉ piece) (tail : List Char) :
    splitAtGap (piece ++ tail) =
      (splitAtGap tail).map fun cut => (piece ++ cut.1, cut.2) := by
  induction piece with
  | nil =>
    show splitAtGap tail = _
    cases splitAtGap tail <;> rfl
  | cons c piece ih =>
    have hc : c ≠ ':' := fun heq => hpiece (heq ▸ List.mem_cons_self)
    rw [List.cons_append, splitAtGap, ih fun hmem => hpiece (List.mem_cons_of_mem _ hmem)]
    · cases splitAtGap tail <;> rfl
    · intro rest heq
      exact absurd heq hc

theorem splitAtGap_colon {c : Char} (hc : c ≠ ':') (rest : List Char) :
    splitAtGap (':' :: c :: rest) =
      (splitAtGap (c :: rest)).map fun cut => (':' :: cut.1, cut.2) := by
  rw [splitAtGap]
  intro rest' _ heq
  exact absurd (List.cons.inj heq).1 hc

/-- Pieces have no gap in them, nor behind them. -/
theorem splitAtGap_written (pieces : List Nat) (tail : List Char) :
    splitAtGap (written pieces ++ tail) =
      (splitAtGap tail).map fun cut => (written pieces ++ cut.1, cut.2) := by
  induction pieces with
  | nil =>
    show splitAtGap tail = _
    cases splitAtGap tail <;> rfl
  | cons n rest ih =>
    cases rest with
    | nil => exact splitAtGap_append (colon_not_mem_hexDigits n) tail
    | cons m rest =>
      have hjoined : written (n :: m :: rest) = hexDigits n ++ ':' :: written (m :: rest) := rfl
      -- Behind the colon between two pieces there is a digit.
      obtain ⟨c, text, htext, hc⟩ := written_cons m rest
      rw [hjoined, List.append_assoc, splitAtGap_append (colon_not_mem_hexDigits n),
        List.cons_append, htext, List.cons_append, splitAtGap_colon hc, ← List.cons_append, ← htext,
        ih]
      cases splitAtGap tail <;> simp

/-! ### Zeros -/

theorem eq_replicate_leadingZeros (pieces : List Nat) :
    ∃ back, pieces = List.replicate (leadingZeros pieces) 0 ++ back := by
  refine ⟨pieces.dropWhile (· = 0), ?_⟩
  have hzeros : pieces.takeWhile (· = 0) = List.replicate (leadingZeros pieces) 0 := by
    refine List.eq_replicate_iff.mpr ⟨rfl, ?_⟩
    intro n hn
    exact of_decide_eq_true (List.all_eq_true.mp List.all_takeWhile n hn)
  rw [← hzeros, List.takeWhile_append_dropWhile]

/-- Where the longest run of zeros is said to be, there are zeros. -/
theorem longestZeros_spec (start : Nat) (pieces : List Nat) (h : (longestZeros start pieces).2 ≠ 0) :
    ∃ front back, pieces = front ++ List.replicate (longestZeros start pieces).2 0 ++ back ∧
      (longestZeros start pieces).1 = start + front.length := by
  induction pieces generalizing start with
  | nil => exact absurd rfl h
  | cons n rest ih =>
    unfold longestZeros at h ⊢
    dsimp only at h ⊢
    split
    next =>
      obtain ⟨back, hback⟩ := eq_replicate_leadingZeros (n :: rest)
      exact ⟨[], back, hback, rfl⟩
    next hlater =>
      rw [if_neg hlater] at h
      obtain ⟨front, back, hrest, hstart⟩ := ih (start + 1) h
      refine ⟨n :: front, back, ?_, ?_⟩
      · rw [List.cons_append, List.cons_append, ← hrest]
      · rw [hstart, List.length_cons]
        omega

/-! ### Addresses -/

/-- The text of an address has all its pieces, or a gap for two zeros or more. -/
theorem writeIpv6_cases (pieces : List Nat) : writeIpv6 pieces = written pieces ∨
    ∃ front count back, 2 ≤ count ∧ pieces = front ++ List.replicate count 0 ++ back ∧
      writeIpv6 pieces = written front ++ ':' :: ':' :: written back := by
  have hspec := longestZeros_spec 0 pieces
  unfold writeIpv6
  generalize longestZeros 0 pieces = run at hspec ⊢
  obtain ⟨start, count⟩ := run
  by_cases hcount : count < 2
  · exact .inl (if_pos hcount)
  obtain ⟨front, back, hpieces, hstart⟩ := hspec (by simp only; omega)
  simp only [Nat.zero_add] at hpieces hstart
  refine .inr ⟨front, count, back, by omega, hpieces, ?_⟩
  have htake : pieces.take start = front := by
    rw [hstart, hpieces, List.append_assoc, List.take_left]
  have hdrop : pieces.drop (start + count) = back := by
    have hlength : (front ++ List.replicate count 0).length = start + count := by simp [hstart]
    rw [hpieces, ← hlength, List.drop_left]
  have hwritten : written (pieces.take start) ++ ':' :: ':' :: written (pieces.drop (start + count)) =
      written front ++ ':' :: ':' :: written back := by
    rw [htake, hdrop]
  exact (if_neg hcount).trans hwritten

/-- An address is read as it is written. -/
theorem readIpv6?_writeIpv6 (hlength : pieces.length = 8) (h : ∀ n ∈ pieces, n < 0x10000) :
    readIpv6? (writeIpv6 pieces) = some pieces := by
  rcases writeIpv6_cases pieces with heq | ⟨front, count, back, hcount, rfl, heq⟩
  · have hgap : splitAtGap (written pieces) = none := by
      have hgap := splitAtGap_written pieces []
      rwa [List.append_nil] at hgap
    unfold readIpv6?
    rw [heq, hgap]
    dsimp only
    rw [readPieces?_written true h]
    exact if_pos hlength
  · have hgap : splitAtGap (written front ++ ':' :: ':' :: written back) =
        some (written front, written back) := by
      rw [splitAtGap_written, splitAtGap, Option.map_some, List.append_nil]
    have hfront : readPieces? false (written front) = some front :=
      readPieces?_written false fun n hn => h n (by simp [hn])
    have hback : readPieces? true (written back) = some back :=
      readPieces?_written true fun n hn => h n (by simp [hn])
    simp only [List.length_append, List.length_replicate] at hlength
    unfold readIpv6?
    rw [heq, hgap]
    dsimp only
    rw [hfront, hback]
    -- There are eight pieces, so as many are missing as the gap stands for.
    have hmissing : 8 - front.length - back.length = count := by omega
    show (if front.length + back.length < 8 then
      some (front ++ List.replicate (8 - front.length - back.length) 0 ++ back) else none) = _
    rw [if_pos (by omega), hmissing]

theorem byteValue?_lt {n : Nat} (h : byteValue? text = some n) : n < 256 := by
  unfold byteValue? at h
  split at h
  next => cases h
  next => cases h; decide
  next => cases h
  next =>
    split at h
    next =>
      obtain ⟨-, hle⟩ := Option.filter_eq_some_iff.mp h
      exact Nat.lt_succ_of_le (of_decide_eq_true hle)
    next => cases h

theorem embedded?_lt (h : embedded? text = some pieces) : ∀ n ∈ pieces, n < 0x10000 := by
  unfold embedded? at h
  split at h
  next a b c d hbytes =>
    cases h
    have hlt : ∀ n ∈ [a, b, c, d], n < 256 := by
      intro n hn
      have hmem : some n ∈ (splitAt '.' text).map byteValue? :=
        (mapM_eq_some.mp hbytes) ▸ List.mem_map_of_mem hn
      obtain ⟨byte, -, hbyte⟩ := List.mem_map.mp hmem
      exact byteValue?_lt hbyte
    have ha := hlt a (by simp)
    have hb := hlt b (by simp)
    have hc := hlt c (by simp)
    have hd := hlt d (by simp)
    intro n hn
    simp only [List.mem_cons, List.not_mem_nil, or_false] at hn
    rcases hn with rfl | rfl <;> omega
  next => cases h

theorem piecesOf?_lt {tail : Bool} {texts : List (List Char)} {pieces : List Nat}
    (h : piecesOf? tail texts = some pieces) : ∀ n ∈ pieces, n < 0x10000 := by
  induction texts generalizing pieces with
  | nil =>
    cases h
    exact nofun
  | cons text rest ih =>
    cases rest with
    | nil =>
      rw [piecesOf?] at h
      split at h
      next => exact embedded?_lt h
      next =>
        obtain ⟨n, hn, rfl⟩ := Option.map_eq_some_iff.mp h
        intro m hm
        rw [List.mem_singleton.mp hm]
        exact pieceValue?_lt hn
    | cons next rest =>
      rw [piecesOf?] at h
      · obtain ⟨n, hn, h⟩ := Option.bind_eq_some_iff.mp h
        obtain ⟨later, hlater, h⟩ := Option.bind_eq_some_iff.mp h
        cases h
        intro m hm
        rcases List.mem_cons.mp hm with rfl | hm
        · exact pieceValue?_lt hn
        · exact ih hlater m hm
      · exact nofun

theorem readPieces?_lt {tail : Bool} (h : readPieces? tail text = some pieces) :
    ∀ n ∈ pieces, n < 0x10000 := by
  unfold readPieces? at h
  split at h
  next =>
    cases h
    exact nofun
  next => exact piecesOf?_lt h

/-- What is read has eight pieces of sixteen bits. -/
theorem readIpv6?_spec (h : readIpv6? text = some pieces) :
    pieces.length = 8 ∧ ∀ n ∈ pieces, n < 0x10000 := by
  unfold readIpv6? at h
  split at h
  next =>
    obtain ⟨read, hread, h⟩ := Option.bind_eq_some_iff.mp h
    split at h
    next hlength =>
      cases h
      exact ⟨hlength, readPieces?_lt hread⟩
    next => cases h
  next before after _ =>
    obtain ⟨front, hfront, h⟩ := Option.bind_eq_some_iff.mp h
    obtain ⟨back, hback, h⟩ := Option.bind_eq_some_iff.mp h
    split at h
    next hlength =>
      cases h
      refine ⟨by simp only [List.length_append, List.length_replicate]; omega, ?_⟩
      intro n hn
      simp only [List.mem_append, List.mem_replicate] at hn
      rcases hn with (hn | ⟨-, rfl⟩) | hn
      · exact readPieces?_lt hfront n hn
      · decide
      · exact readPieces?_lt hback n hn
    next => cases h

end PagePilot.Url
