import Mathlib.Algebra.Group.Nat.Defs
import Mathlib.Data.List.Basic
import PagePilot.Proofs.Base64
/-!
# PagePilot.Proofs.Base64.Standard

Base64 as the standard has it: the bits of the bytes are cut into sextets, the last of which is
filled up with zeros; each sextet is the number of a symbol in the alphabet, and padding makes the
symbols a multiple of four (`Writes`). For any bytes there is exactly one such text, and it is what
the encoder writes; so a text is decoded when it is the standard base64 of what comes out, and every
other text is refused (`decode_utf8_eq_ok`).
-/

namespace PagePilot.Base64

/-! ### The standard -/

/-- The symbols, in the order of their numbers. -/
def alphabet : List Char :=
  "ABCDEFGHIJKLMNOPQRSTUVWXYZabcdefghijklmnopqrstuvwxyz0123456789+/".toList

/-- The last `width` binary digits of a number, the highest one first. -/
def bits : Nat → Nat → List Nat
  | 0, _ => []
  | width + 1, n => bits width (n / 2) ++ [n % 2]

/-- A text is the base64 of bytes, with some sextets, zero bits and padding. -/
structure WrittenAs (s : String) (bytes : List UInt8) (sextets : List Nat) (zeros padding : Nat) :
    Prop where
  /-- There is a symbol for each sextet, and padding behind them. -/
  symbols : s.toList.map some =
    sextets.map (alphabet[·]?) ++ List.replicate padding (some '=')
  /-- The sextets are the bits of the bytes, the last one filled up with zeros. -/
  bits : sextets.flatMap (bits 6) =
    bytes.flatMap (fun b => bits 8 b.toNat) ++ List.replicate zeros 0
  filled : zeros < 6
  /-- The padding fills up the last four characters. -/
  whole : s.length % 4 = 0
  padded : padding < 4

/-- A text is the standard base64 of bytes. -/
def Writes (s : String) (bytes : List UInt8) : Prop :=
  ∃ sextets zeros padding, WrittenAs s bytes sextets zeros padding

/-! ### Bits -/

@[simp] theorem length_bits (width n : Nat) : (bits width n).length = width := by
  induction width generalizing n with
  | zero => rfl
  | succ width ih => rw [bits, List.length_append, ih, List.length_singleton]

/-- Higher digits do not count. -/
theorem bits_mod (width n : Nat) : bits width (n % 2 ^ width) = bits width n := by
  induction width generalizing n with
  | zero => rfl
  | succ width ih =>
    have hhigh : n % 2 ^ (width + 1) / 2 = n / 2 % 2 ^ width := by
      rw [Nat.pow_succ', Nat.mod_mul_right_div_self]
    have hlow : n % 2 ^ (width + 1) % 2 = n % 2 :=
      Nat.mod_mod_of_dvd n ⟨2 ^ width, Nat.pow_succ'⟩
    rw [bits, bits, hhigh, hlow, ih]

/-- The digits of a number that is put together from two are theirs. -/
theorem bits_join (width low q : Nat) {r : Nat} (hr : r < 2 ^ low) :
    bits (width + low) (q * 2 ^ low + r) = bits width q ++ bits low r := by
  induction low generalizing r with
  | zero =>
    obtain rfl := Nat.lt_one_iff.mp hr
    simp [bits]
  | succ low ih =>
    have hhigh : (q * 2 ^ (low + 1) + r) / 2 = q * 2 ^ low + r / 2 := by
      rw [Nat.pow_succ, ← Nat.mul_assoc]
      omega
    have hlow : (q * 2 ^ (low + 1) + r) % 2 = r % 2 := by
      rw [Nat.pow_succ, ← Nat.mul_assoc]
      omega
    rw [← Nat.add_assoc, bits, hhigh, hlow, ih (by omega), bits, List.append_assoc]

/-- The digits of a number can be cut anywhere. -/
theorem bits_cut (width low n : Nat) :
    bits (width + low) n = bits width (n / 2 ^ low) ++ bits low n := by
  have hjoin := bits_join width low (n / 2 ^ low) (Nat.mod_lt n (Nat.two_pow_pos low))
  rwa [Nat.div_add_mod', bits_mod] at hjoin

theorem bits_inj {width m n : Nat} (hm : m < 2 ^ width) (hn : n < 2 ^ width)
    (h : bits width m = bits width n) : m = n := by
  induction width generalizing m n with
  | zero => omega
  | succ width ih =>
    obtain ⟨hhigh, hlow⟩ := List.append_inj h (by simp)
    have heq := ih (by omega) (by omega) hhigh
    have hmod := (List.cons.inj hlow).1
    omega

theorem length_flatMap_bits {α : Type} {width : Nat} {f : α → List Nat}
    (h : ∀ a, (f a).length = width) (l : List α) : (l.flatMap f).length = width * l.length := by
  induction l with
  | nil => rfl
  | cons a rest ih =>
    rw [List.flatMap_cons, List.length_append, ih, h, List.length_cons, Nat.mul_succ, Nat.add_comm]

/-- Bits determine the sextets that they were cut into. -/
theorem flatMap_bits_inj {l l' : List Nat} (hl : ∀ v ∈ l, v < 64) (hl' : ∀ v ∈ l', v < 64)
    (h : l.flatMap (bits 6) = l'.flatMap (bits 6)) : l = l' := by
  induction l generalizing l' with
  | nil =>
    cases l' with
    | nil => rfl
    | cons v rest => simp [bits] at h
  | cons v rest ih =>
    cases l' with
    | nil => simp [bits] at h
    | cons v' rest' =>
      obtain ⟨hv, hrest⟩ := List.forall_mem_cons.mp hl
      obtain ⟨hv', hrest'⟩ := List.forall_mem_cons.mp hl'
      obtain ⟨hbits, hmore⟩ := List.append_inj h (by simp)
      rw [bits_inj hv hv' hbits, ih hrest hrest' hmore]

/-! ### One text for some bytes -/

section

variable {s s' : String} {bytes : List UInt8} {sextets : List Nat} {zeros padding : Nat}

theorem WrittenAs.sextets_lt (h : WrittenAs s bytes sextets zeros padding) :
    ∀ v ∈ sextets, v < 64 := by
  intro v hv
  have hmem : alphabet[v]? ∈ s.toList.map some := by
    rw [h.symbols]
    exact List.mem_append_left _ (List.mem_map_of_mem hv)
  obtain ⟨c, -, hc⟩ := List.mem_map.mp hmem
  exact (List.getElem?_eq_some_iff.mp hc.symm).1

/-- The number of the bytes determines those of the sextets, the zero bits and the padding. -/
theorem WrittenAs.lengths (h : WrittenAs s bytes sextets zeros padding) :
    6 * sextets.length = 8 * bytes.length + zeros ∧ s.length = sextets.length + padding := by
  have hbits := congrArg List.length h.bits
  have hsymbols := congrArg List.length h.symbols
  rw [length_flatMap_bits (length_bits 6), List.length_append,
    length_flatMap_bits fun b : UInt8 => length_bits 8 b.toNat, List.length_replicate] at hbits
  simp only [List.length_append, List.length_map, List.length_replicate,
    String.length_toList] at hsymbols
  exact ⟨hbits, hsymbols⟩

/-- There is one such text at most. -/
theorem Writes.unique (h : Writes s bytes) (h' : Writes s' bytes) : s = s' := by
  obtain ⟨sextets, zeros, padding, h⟩ := h
  obtain ⟨sextets', zeros', padding', h'⟩ := h'
  obtain ⟨hbits, hsymbols⟩ := h.lengths
  obtain ⟨hbits', hsymbols'⟩ := h'.lengths
  obtain ⟨rfl, hcount⟩ : zeros = zeros' ∧ sextets.length = sextets'.length := by
    have hfilled := h.filled
    have hfilled' := h'.filled
    omega
  obtain rfl : padding = padding' := by
    have hwhole := h.whole
    have hwhole' := h'.whole
    have hpadded := h.padded
    have hpadded' := h'.padded
    omega
  obtain rfl : sextets = sextets' :=
    flatMap_bits_inj h.sextets_lt h'.sextets_lt (h.bits.trans h'.bits.symm)
  have hlist : s.toList = s'.toList :=
    (List.map_inj_right fun _ _ => Option.some.inj).mp (h.symbols.trans h'.symbols.symm)
  exact String.toList_inj.mp hlist

end

/-! ### The encoder writes the standard -/

theorem bits_second (a : Nat) {r : Nat} (hr : r < 16) :
    bits 6 (a % 4 * 16 + r) = bits 2 a ++ bits 4 r := by
  have hmod : bits 2 (a % 4) = bits 2 a := bits_mod 2 a
  rw [← hmod]
  exact bits_join 2 4 (a % 4) hr

theorem bits_third (b : Nat) {r : Nat} (hr : r < 4) :
    bits 6 (b % 16 * 4 + r) = bits 4 b ++ bits 2 r := by
  have hmod : bits 4 (b % 16) = bits 4 b := bits_mod 4 b
  rw [← hmod]
  exact bits_join 4 2 (b % 16) hr

section

variable (a b c : UInt8)

theorem byte_first : bits 8 a.toNat = bits 6 (a.toNat / 4) ++ bits 2 a.toNat :=
  bits_cut 6 2 a.toNat

theorem byte_second : bits 8 b.toNat = bits 4 (b.toNat / 16) ++ bits 4 b.toNat :=
  bits_cut 4 4 b.toNat

theorem byte_third : bits 8 c.toNat = bits 2 (c.toNat / 64) ++ bits 6 (c.toNat % 64) := by
  have hmod : bits 6 (c.toNat % 64) = bits 6 c.toNat := bits_mod 6 c.toNat
  rw [hmod]
  exact bits_cut 2 6 c.toNat

/-- The sextets of three bytes have their bits, -/
theorem bits_whole : bits 6 (a.toNat / 4) ++ (bits 6 (a.toNat % 4 * 16 + b.toNat / 16) ++
      (bits 6 (b.toNat % 16 * 4 + c.toNat / 64) ++ bits 6 (c.toNat % 64))) =
    bits 8 a.toNat ++ (bits 8 b.toNat ++ bits 8 c.toNat) := by
  have hb := b.toNat_lt
  have hc := c.toNat_lt
  rw [bits_second _ (by omega), bits_third _ (by omega), byte_first a, byte_second b, byte_third c]
  simp only [List.append_assoc]

/-- and those of two bytes or one have zeros besides. -/
theorem bits_two : bits 6 (a.toNat / 4) ++ (bits 6 (a.toNat % 4 * 16 + b.toNat / 16) ++
      bits 6 (b.toNat % 16 * 4)) =
    bits 8 a.toNat ++ (bits 8 b.toNat ++ List.replicate 2 0) := by
  have hb := b.toNat_lt
  rw [bits_second _ (by omega), ← Nat.add_zero (b.toNat % 16 * 4), bits_third _ (by decide),
    byte_first a, byte_second b]
  simp only [List.append_assoc]
  rfl

theorem bits_one : bits 6 (a.toNat / 4) ++ bits 6 (a.toNat % 4 * 16) =
    bits 8 a.toNat ++ List.replicate 4 0 := by
  rw [← Nat.add_zero (a.toNat % 4 * 16), bits_second _ (by decide), byte_first a]
  simp only [List.append_assoc]
  rfl

end

/-- What the encoder writes is symbols of sextets that have the bits of the bytes, and padding. -/
theorem encode_eq (bytes : List UInt8) : ∃ (sextets : List Nat) (zeros padding : Nat),
    (∀ v ∈ sextets, v < 64) ∧ encode bytes = sextets.map symbol ++ List.replicate padding pad ∧
      sextets.flatMap (bits 6) =
        bytes.flatMap (fun b => bits 8 b.toNat) ++ List.replicate zeros 0 ∧
        zeros < 6 ∧ padding < 4 := by
  induction bytes using encode.induct with
  | case1 => exact ⟨[], 0, 0, List.forall_mem_nil _, rfl, rfl, by decide, by decide⟩
  | case2 a =>
    have ha := a.toNat_lt
    refine ⟨[a.toNat / 4, a.toNat % 4 * 16], 4, 2, ?_, rfl, ?_, by decide, by decide⟩
    · simp only [List.forall_mem_cons]
      exact ⟨by omega, by omega, List.forall_mem_nil _⟩
    · simpa using bits_one a
  | case3 a b =>
    have ha := a.toNat_lt
    have hb := b.toNat_lt
    refine ⟨[a.toNat / 4, a.toNat % 4 * 16 + b.toNat / 16, b.toNat % 16 * 4], 2, 1, ?_, rfl, ?_,
      by decide, by decide⟩
    · simp only [List.forall_mem_cons]
      exact ⟨by omega, by omega, by omega, List.forall_mem_nil _⟩
    · simpa using bits_two a b
  | case4 a b c rest ih =>
    obtain ⟨sextets, zeros, padding, hlt, hencode, hbits, hfilled, hpadded⟩ := ih
    have ha := a.toNat_lt
    have hb := b.toNat_lt
    have hc := c.toNat_lt
    refine ⟨a.toNat / 4 :: (a.toNat % 4 * 16 + b.toNat / 16) :: (b.toNat % 16 * 4 + c.toNat / 64) ::
      c.toNat % 64 :: sextets, zeros, padding, ?_, ?_, ?_, hfilled, hpadded⟩
    · simp only [List.forall_mem_cons]
      exact ⟨by omega, by omega, by omega, by omega, hlt⟩
    · rw [encode, hencode]
      rfl
    · have hwhole := congrArg (· ++ sextets.flatMap (bits 6)) (bits_whole a b c)
      simpa [hbits] using hwhole

/-! ### Texts -/

/-- The text of some bytes. -/
def text (bytes : List UInt8) : String :=
  String.ofList ((encode bytes).map fun b => Char.ofNat b.toNat)

theorem text_writes (bytes : List UInt8) : Writes (text bytes) bytes := by
  obtain ⟨sextets, zeros, padding, hlt, hencode, hbits, hfilled, hpadded⟩ := encode_eq bytes
  have hsymbol : ∀ v < 64, some (Char.ofNat (symbol v).toNat) = alphabet[v]? := by
    decide +kernel
  refine ⟨sextets, zeros, padding, ⟨?_, hbits, hfilled, ?_, hpadded⟩⟩
  · rw [text, String.toList_ofList, hencode, List.map_append, List.map_append, List.map_map,
      List.map_map, List.map_replicate, List.map_replicate]
    exact congrArg (· ++ _) (List.map_congr_left fun v hv => hsymbol v (hlt v hv))
  · rw [← String.length_toList, text, String.toList_ofList, List.length_map]
    exact length_encode bytes

/-- The bytes of a text as a list are those of the array. -/
theorem toList_loop_eq (bytes : ByteArray) (i : Nat) (done : List UInt8) :
    ByteArray.toList.loop bytes i done = done.reverse ++ bytes.data.toList.drop i := by
  induction i, done using ByteArray.toList.loop.induct bytes with
  | case1 i done hlt ih =>
    have hi : i < bytes.data.toList.length := hlt
    have hget : bytes.get! i = bytes.data.toList[i] := getElem!_pos bytes.data i hlt
    rw [ByteArray.toList.loop, if_pos hlt, ih, List.drop_eq_getElem_cons hi, hget,
      List.reverse_cons, List.append_assoc]
    rfl
  | case2 i done hge =>
    have hle : bytes.data.toList.length ≤ i := Nat.le_of_not_lt hge
    rw [ByteArray.toList.loop, if_neg hge, List.drop_eq_nil_of_le hle, List.append_nil]

theorem toList_eq (bytes : ByteArray) : bytes.toList = bytes.data.toList := by
  rw [ByteArray.toList, toList_loop_eq]
  rfl

/-- Symbols and padding are one byte each. -/
theorem utf8EncodeChar_ascii {b : UInt8} (h : b.toNat < 128) :
    String.utf8EncodeChar (Char.ofNat b.toNat) = [b] := by
  have hall : ∀ n < 128, String.utf8EncodeChar (Char.ofNat n) = [UInt8.ofNat n] := by
    decide +kernel
  rw [hall _ h, UInt8.ofNat_toNat]

theorem ascii_of_mem_encode {bytes : List UInt8} {b : UInt8} (h : b ∈ encode bytes) :
    b.toNat < 128 := by
  have hsymbol : ∀ v < 64, (symbol v).toNat < 128 := by decide
  obtain ⟨sextets, zeros, padding, hlt, hencode, -⟩ := encode_eq bytes
  rw [hencode] at h
  rcases List.mem_append.mp h with h | h
  · obtain ⟨v, hv, rfl⟩ := List.mem_map.mp h
    exact hsymbol v (hlt v hv)
  · rw [List.eq_of_mem_replicate h]
    decide

theorem utf8_text (bytes : List UInt8) : (text bytes).toUTF8.toList = encode bytes := by
  have hbytes : (text bytes).toUTF8 =
      ((encode bytes).flatMap fun b => String.utf8EncodeChar (Char.ofNat b.toNat)).toByteArray := by
    show (text bytes).toByteArray = _
    rw [text, String.toByteArray_ofList, List.utf8Encode, List.flatMap_map]
  have hsame : (encode bytes).flatMap (fun b => String.utf8EncodeChar (Char.ofNat b.toNat)) =
      (encode bytes).flatMap fun b => [b] :=
    List.flatMap_congr fun b hb => utf8EncodeChar_ascii (ascii_of_mem_encode hb)
  rw [toList_eq, hbytes, hsame, List.flatMap_singleton', List.toList_data_toByteArray]

/-- A text is written in the bytes that the encoder writes when it is the standard base64. -/
theorem utf8_eq_encode {s : String} {bytes : List UInt8} :
    s.toUTF8.toList = encode bytes ↔ Writes s bytes := by
  constructor
  · intro h
    have heq : s = text bytes := by
      rw [← utf8_text, toList_eq, toList_eq] at h
      exact String.toByteArray_inj.mp (ByteArray.ext (Array.toList_inj.mp h))
    exact heq ▸ text_writes bytes
  · intro h
    rw [h.unique (text_writes bytes)]
    exact utf8_text bytes

/-- A text is decoded when it is the standard base64 of what comes out. -/
theorem decode_utf8_eq_ok {s : String} {bytes : List UInt8} :
    decode s.toUTF8.toList = .ok bytes ↔ Writes s bytes :=
  decode_eq_ok.trans utf8_eq_encode

end PagePilot.Base64
