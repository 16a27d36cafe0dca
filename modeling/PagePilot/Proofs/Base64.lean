import PagePilot.Base64
import PagePilot.Proofs.Result
/-!
# PagePilot.Proofs.Base64

What the decoder of base64 takes: what the encoder writes, and nothing else (`decode_eq_ok`).

Both work in groups, three bytes against four numbers below sixty-four. The numbers of a group
determine its bytes and the other way round, as long as the bits that belong to no byte are zero;
that is arithmetic, and said once for whole groups and for those that are cut short. The decoder
reads the last group apart, in one loop that counts symbols and padding (`readLast_eq_ok`).
-/

namespace PagePilot.Base64

/-! ### Symbols -/

theorem value?_symbol : ∀ n < 64, value? (symbol n) = some n := by
  decide

/-- Symbols are the bytes that have a number. -/
theorem value?_eq_some {b : UInt8} {n : Nat} : value? b = some n ↔ n < 64 ∧ b = symbol n := by
  have hall : ∀ m < 256, ∀ v ∈ value? (.ofNat m), v < 64 ∧ UInt8.ofNat m = symbol v := by
    decide +kernel
  constructor
  · intro h
    have hb := hall b.toNat b.toNat_lt n
    rw [UInt8.ofNat_toNat] at hb
    exact hb h
  · rintro ⟨hn, rfl⟩
    exact value?_symbol n hn

theorem symbol_ne_pad {n : Nat} (h : n < 64) : symbol n ≠ pad := by
  intro heq
  cases (value?_symbol n h).symm.trans (congrArg value? heq)

theorem symbolAt_eq_ok {offset n : Nat} {b : UInt8} :
    symbolAt offset b = .ok n ↔ n < 64 ∧ b = symbol n := by
  rw [← value?_eq_some]
  unfold symbolAt
  cases value? b <;> simp

/-! ### Groups -/

variable {v₁ v₂ v₃ v₄ : Nat}

theorem toNat_first (h₁ : v₁ < 64) (h₂ : v₂ < 64) :
    (UInt8.ofNat (v₁ * 4 + v₂ / 16)).toNat = v₁ * 4 + v₂ / 16 :=
  UInt8.toNat_ofNat_of_lt' (show _ < 256 by omega)

theorem toNat_second (h₃ : v₃ < 64) :
    (UInt8.ofNat (v₂ % 16 * 16 + v₃ / 4)).toNat = v₂ % 16 * 16 + v₃ / 4 :=
  UInt8.toNat_ofNat_of_lt' (show _ < 256 by omega)

theorem toNat_third (h₄ : v₄ < 64) :
    (UInt8.ofNat (v₃ % 4 * 64 + v₄)).toNat = v₃ % 4 * 64 + v₄ :=
  UInt8.toNat_ofNat_of_lt' (show _ < 256 by omega)

/-- The bytes of four numbers are encoded as these numbers. -/
theorem encode_whole (h₁ : v₁ < 64) (h₂ : v₂ < 64) (h₃ : v₃ < 64) (h₄ : v₄ < 64)
    (rest : List UInt8) :
    encode (.ofNat (v₁ * 4 + v₂ / 16) :: .ofNat (v₂ % 16 * 16 + v₃ / 4) ::
        .ofNat (v₃ % 4 * 64 + v₄) :: rest) =
      symbol v₁ :: symbol v₂ :: symbol v₃ :: symbol v₄ :: encode rest := by
  rw [encode, toNat_first h₁ h₂, toNat_second h₃, toNat_third h₄]
  have e₁ : (v₁ * 4 + v₂ / 16) / 4 = v₁ := by omega
  have e₂ : (v₁ * 4 + v₂ / 16) % 4 * 16 + (v₂ % 16 * 16 + v₃ / 4) / 16 = v₂ := by omega
  have e₃ : (v₂ % 16 * 16 + v₃ / 4) % 16 * 4 + (v₃ % 4 * 64 + v₄) / 64 = v₃ := by omega
  have e₄ : (v₃ % 4 * 64 + v₄) % 64 = v₄ := by omega
  rw [e₁, e₂, e₃, e₄]

/-- Two numbers are a byte when the last four bits are zero, -/
theorem encode_one (h₁ : v₁ < 64) (h₂ : v₂ < 64) (hunused : v₂ % 16 = 0) :
    encode [.ofNat (v₁ * 4 + v₂ / 16)] = [symbol v₁, symbol v₂, pad, pad] := by
  rw [encode, toNat_first h₁ h₂]
  have e₁ : (v₁ * 4 + v₂ / 16) / 4 = v₁ := by omega
  have e₂ : (v₁ * 4 + v₂ / 16) % 4 * 16 = v₂ := by omega
  rw [e₁, e₂]

/-- and three are two bytes when the last two bits are. -/
theorem encode_two (h₁ : v₁ < 64) (h₂ : v₂ < 64) (h₃ : v₃ < 64) (hunused : v₃ % 4 = 0) :
    encode [.ofNat (v₁ * 4 + v₂ / 16), .ofNat (v₂ % 16 * 16 + v₃ / 4)] =
      [symbol v₁, symbol v₂, symbol v₃, pad] := by
  rw [encode, toNat_first h₁ h₂, toNat_second h₃]
  have e₁ : (v₁ * 4 + v₂ / 16) / 4 = v₁ := by omega
  have e₂ : (v₁ * 4 + v₂ / 16) % 4 * 16 + (v₂ % 16 * 16 + v₃ / 4) / 16 = v₂ := by omega
  have e₃ : (v₂ % 16 * 16 + v₃ / 4) % 16 * 4 = v₃ := by omega
  rw [e₁, e₂, e₃]

/-- All bytes come from numbers. -/
theorem exists_numbers (a b c : UInt8) : ∃ v₁ v₂ v₃ v₄, (v₁ < 64 ∧ v₂ < 64 ∧ v₃ < 64 ∧ v₄ < 64) ∧
    a = .ofNat (v₁ * 4 + v₂ / 16) ∧ b = .ofNat (v₂ % 16 * 16 + v₃ / 4) ∧
      c = .ofNat (v₃ % 4 * 64 + v₄) := by
  have ha := a.toNat_lt
  have hb := b.toNat_lt
  have hc := c.toNat_lt
  refine ⟨a.toNat / 4, a.toNat % 4 * 16 + b.toNat / 16, b.toNat % 16 * 4 + c.toNat / 64,
    c.toNat % 64, ⟨by omega, by omega, by omega, by omega⟩, ?_, ?_, ?_⟩
  · rw [show a.toNat / 4 * 4 + (a.toNat % 4 * 16 + b.toNat / 16) / 16 = a.toNat by omega,
      UInt8.ofNat_toNat]
  · rw [show (a.toNat % 4 * 16 + b.toNat / 16) % 16 * 16 +
      (b.toNat % 16 * 4 + c.toNat / 64) / 4 = b.toNat by omega, UInt8.ofNat_toNat]
  · rw [show (b.toNat % 16 * 4 + c.toNat / 64) % 4 * 64 + c.toNat % 64 = c.toNat by omega,
      UInt8.ofNat_toNat]

/-! ### The last group -/

variable {offset place : Nat} {group g : LastGroup} {text bytes : List UInt8}

/-- What is read as the last group is some symbols, with padding behind them. -/
theorem readLast_eq_ok (h : readLast offset place group text = .ok g) :
    ∃ values padding, (∀ v ∈ values, v < 64) ∧
      text = values.map symbol ++ List.replicate padding pad ∧ g.values = group.values ++ values ∧
        g.padding = group.padding + padding ∧ (0 < group.padding → values = []) := by
  induction text generalizing place group with
  | nil =>
    cases h
    exact ⟨[], 0, nofun, rfl, (List.append_nil _).symm, rfl, fun _ => rfl⟩
  | cons b rest ih =>
    rw [readLast] at h
    split at h
    next hpad =>
      split at h
      next => cases h
      next =>
        obtain ⟨values, padding, -, htext, hvalues, hpadding, hnone⟩ := ih h
        obtain rfl : values = [] := hnone (Nat.succ_pos _)
        refine ⟨[], padding + 1, nofun, ?_, hvalues, ?_, fun _ => rfl⟩
        · rw [hpad, htext]
          rfl
        · rw [hpadding, Nat.add_assoc, Nat.add_comm 1]
    next =>
      split at h
      next => cases h
      next hpadding₀ =>
        split at h
        next => cases h
        next v hv =>
          obtain ⟨hlt, rfl⟩ := value?_eq_some.mp hv
          obtain ⟨values, padding, hvalues₀, rfl, hvalues, hpadding, -⟩ := ih h
          refine ⟨v :: values, padding, List.forall_mem_cons.mpr ⟨hlt, hvalues₀⟩, rfl, ?_,
            hpadding, fun hpos => absurd hpos hpadding₀⟩
          rw [hvalues, List.append_assoc]
          rfl

/-- What comes of a last group: there are none or at least two symbols, padding makes them four, and
no bits are left over. -/
theorem decodeLast_eq_ok (h : decodeLast offset text = .ok bytes) :
    ∃ values padding, (∀ v ∈ values, v < 64) ∧
      text = values.map symbol ++ List.replicate padding pad ∧ (text ≠ [] → 2 ≤ values.length) ∧
        (padding + values.length) % 4 = 0 ∧ lastBytes values = (bytes, 0) := by
  unfold decodeLast at h
  cases hread : readLast offset 0 { values := [], lastSymbol := 0, padding := 0 } text with
  | error e =>
    rw [hread] at h
    cases h
  | ok g =>
    obtain ⟨values, padding, hlt, htext, hvalues, hpadding, -⟩ := readLast_eq_ok hread
    obtain ⟨gvalues, last, gpadding⟩ := g
    obtain rfl : gvalues = values := hvalues
    obtain rfl : gpadding = padding := hpadding.trans (Nat.zero_add _)
    simp only [hread, bind, Except.bind] at h
    split at h
    next => cases h
    next hsome =>
      split at h
      next => cases h
      next hwhole =>
        split at h
        next => cases h
        next hunused =>
          refine ⟨gvalues, gpadding, hlt, htext, fun hne => ?_, Decidable.not_not.mp hwhole, ?_⟩
          · exact Nat.le_of_not_lt fun hfew => hsome ⟨hne, hfew⟩
          · exact Prod.ext (Except.ok.inj h) (Decidable.not_not.mp hunused)

/-- So a short text is read as what it is the encoding of. -/
theorem encode_of_decodeLast (hshort : text.length ≤ 4) (h : decodeLast offset text = .ok bytes) :
    text = encode bytes := by
  obtain ⟨values, padding, hlt, rfl, hsome, hwhole, hbytes⟩ := decodeLast_eq_ok h
  simp only [List.length_append, List.length_map, List.length_replicate] at hshort
  match values with
  | [] =>
    cases padding with
    | zero =>
      cases hbytes
      rfl
    | succ => exact absurd (hsome (by simp [List.replicate_succ])) (by decide)
  | [_] => exact absurd (hsome nofun) (Nat.not_succ_le_self 1)
  | [v₁, v₂] =>
    obtain ⟨hb, hunused⟩ := Prod.mk.inj hbytes
    obtain rfl : padding = 2 := by simp only [List.length_cons, List.length_nil] at *; omega
    rw [← hb, encode_one (hlt v₁ (by simp)) (hlt v₂ (by simp)) hunused]
    rfl
  | [v₁, v₂, v₃] =>
    obtain ⟨hb, hunused⟩ := Prod.mk.inj hbytes
    obtain rfl : padding = 1 := by simp only [List.length_cons, List.length_nil] at *; omega
    rw [← hb, encode_two (hlt v₁ (by simp)) (hlt v₂ (by simp)) (hlt v₃ (by simp)) hunused]
    rfl
  | [v₁, v₂, v₃, v₄] =>
    obtain ⟨hb, -⟩ := Prod.mk.inj hbytes
    obtain rfl : padding = 0 := by simp only [List.length_cons, List.length_nil] at *; omega
    rw [← hb, encode_whole (hlt v₁ (by simp)) (hlt v₂ (by simp)) (hlt v₃ (by simp))
      (hlt v₄ (by simp))]
    rfl
  | _ :: _ :: _ :: _ :: _ :: _ =>
    simp only [List.length_cons] at hshort
    omega

theorem decodeLast_whole (h₁ : v₁ < 64) (h₂ : v₂ < 64) (h₃ : v₃ < 64) (h₄ : v₄ < 64) :
    decodeLast offset [symbol v₁, symbol v₂, symbol v₃, symbol v₄] =
      .ok [.ofNat (v₁ * 4 + v₂ / 16), .ofNat (v₂ % 16 * 16 + v₃ / 4), .ofNat (v₃ % 4 * 64 + v₄)] := by
  simp [decodeLast, readLast, lastBytes, bind, Except.bind, symbol_ne_pad, value?_symbol, h₁, h₂, h₃,
    h₄]

theorem decodeLast_one (h₁ : v₁ < 64) (h₂ : v₂ < 64) (hunused : v₂ % 16 = 0) :
    decodeLast offset [symbol v₁, symbol v₂, pad, pad] = .ok [.ofNat (v₁ * 4 + v₂ / 16)] := by
  simp [decodeLast, readLast, lastBytes, bind, Except.bind, symbol_ne_pad, value?_symbol, h₁, h₂,
    hunused]

theorem decodeLast_two (h₁ : v₁ < 64) (h₂ : v₂ < 64) (h₃ : v₃ < 64) (hunused : v₃ % 4 = 0) :
    decodeLast offset [symbol v₁, symbol v₂, symbol v₃, pad] =
      .ok [.ofNat (v₁ * 4 + v₂ / 16), .ofNat (v₂ % 16 * 16 + v₃ / 4)] := by
  simp [decodeLast, readLast, lastBytes, bind, Except.bind, symbol_ne_pad, value?_symbol, h₁, h₂, h₃,
    hunused]

/-! ### Whole texts -/

theorem encode_ne_nil (h : bytes ≠ []) : encode bytes ≠ [] := by
  cases bytes using encode.fun_cases with
  | case1 => exact absurd rfl h
  | case2 | case3 | case4 => nofun

/-- Reading group by group takes what is encoded, -/
theorem decodeGroups_encode (offset : Nat) (bytes : List UInt8) :
    decodeGroups offset (encode bytes) = .ok bytes := by
  induction bytes using encode.induct generalizing offset with
  | case1 => rfl
  | case2 a =>
    obtain ⟨v₁, v₂, v₃, v₄, ⟨h₁, h₂, h₃, h₄⟩, rfl, hb, -⟩ := exists_numbers a 0 0
    have hunused : v₂ % 16 = 0 := by
      have htoNat := congrArg UInt8.toNat hb
      rw [toNat_second h₃, UInt8.toNat_zero] at htoNat
      omega
    rw [encode_one h₁ h₂ hunused]
    exact decodeLast_one h₁ h₂ hunused
  | case3 a b =>
    obtain ⟨v₁, v₂, v₃, v₄, ⟨h₁, h₂, h₃, h₄⟩, rfl, rfl, hc⟩ := exists_numbers a b 0
    have hunused : v₃ % 4 = 0 := by
      have htoNat := congrArg UInt8.toNat hc
      rw [toNat_third h₄, UInt8.toNat_zero] at htoNat
      omega
    rw [encode_two h₁ h₂ h₃ hunused]
    exact decodeLast_two h₁ h₂ h₃ hunused
  | case4 a b c rest ih =>
    obtain ⟨v₁, v₂, v₃, v₄, ⟨h₁, h₂, h₃, h₄⟩, rfl, rfl, rfl⟩ := exists_numbers a b c
    rw [encode_whole h₁ h₂ h₃ h₄]
    cases hrest : encode rest with
    | nil =>
      obtain rfl : rest = [] := Decidable.not_not.mp fun hne => encode_ne_nil hne hrest
      exact decodeLast_whole h₁ h₂ h₃ h₄
    | cons e more =>
      rw [decodeGroups, ← hrest, ih]
      simp [symbolAt, value?_symbol, h₁, h₂, h₃, h₄, bind, Except.bind]

/-- and nothing else. -/
theorem encode_of_decodeGroups (h : decodeGroups offset text = .ok bytes) :
    text = encode bytes := by
  induction offset, text using decodeGroups.induct generalizing bytes with
  | case1 offset a b c d e rest ih =>
    obtain ⟨v₁, ha, h⟩ := ok_of_bind_ok h
    obtain ⟨v₂, hb, h⟩ := ok_of_bind_ok h
    obtain ⟨v₃, hc, h⟩ := ok_of_bind_ok h
    obtain ⟨v₄, hd, h⟩ := ok_of_bind_ok h
    obtain ⟨more, hmore, h⟩ := ok_of_bind_ok h
    cases h
    obtain ⟨h₁, rfl⟩ := symbolAt_eq_ok.mp ha
    obtain ⟨h₂, rfl⟩ := symbolAt_eq_ok.mp hb
    obtain ⟨h₃, rfl⟩ := symbolAt_eq_ok.mp hc
    obtain ⟨h₄, rfl⟩ := symbolAt_eq_ok.mp hd
    rw [encode_whole h₁ h₂ h₃ h₄, ih hmore]
  | case2 offset last hlast =>
    rw [decodeGroups.eq_2 _ _ hlast] at h
    refine encode_of_decodeLast (Nat.le_of_not_lt fun hlong => ?_) h
    match last with
    | a :: b :: c :: d :: e :: rest => exact hlast a b c d e rest rfl

theorem length_encode (bytes : List UInt8) : (encode bytes).length % 4 = 0 := by
  induction bytes using encode.induct with
  | case1 => rfl
  | case2 | case3 => simp [encode]
  | case4 a b c rest ih =>
    simp only [encode, List.length_cons]
    omega

/-- Base64 is decoded when it is the encoding of what comes out. -/
theorem decode_eq_ok : decode text = .ok bytes ↔ text = encode bytes := by
  have hgroups : decodeGroups 0 text = .ok bytes ↔ text = encode bytes := by
    constructor
    · exact encode_of_decodeGroups
    · rintro rfl
      exact decodeGroups_encode 0 bytes
  unfold decode
  cases hlast : text.getLast? with
  | none =>
    obtain rfl := List.getLast?_eq_none_iff.mp hlast
    exact hgroups
  | some b =>
    dsimp only
    split
    next hsurplus =>
      refine iff_of_false nofun ?_
      rintro rfl
      have hlength := length_encode bytes
      omega
    next => exact hgroups

end PagePilot.Base64
