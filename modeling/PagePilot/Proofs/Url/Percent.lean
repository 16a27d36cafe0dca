import PagePilot.Proofs.Url.Cutting
/-!
# PagePilot.Proofs.Url.Percent

Percent-encoding. What a part of an address writes consists of characters that it does not encode
(`encodes_of_mem_encode`), and a text of such characters stays as it is (`encode_of_plain`).
-/

namespace PagePilot.Url

variable {part : Part} {text : List Char} {c : Char}

/-- The characters that an encoded byte is written with. -/
def codeChars : List Char :=
  '%' :: (List.range 16).map capitalHex

theorem mem_encodeByte {b : UInt8} (h : c ∈ encodeByte b) : c ∈ codeChars := by
  have hlt : b.toNat < 256 := b.toNat_lt
  have hdigit : ∀ n < 16, capitalHex n ∈ codeChars := fun n hn =>
    List.mem_cons_of_mem _ (List.mem_map_of_mem (List.mem_range.mpr hn))
  unfold encodeByte at h
  simp only [List.mem_cons, List.not_mem_nil, or_false] at h
  rcases h with rfl | rfl | rfl
  · exact List.mem_cons_self
  · exact hdigit _ (by omega)
  · exact hdigit _ (by omega)

theorem encodes_of_mem_codeChars (h : c ∈ codeChars) : part.encodes c = false := by
  have hall : codeChars.all (!part.encodes ·) := by
    cases part <;> decide
  have hc := List.all_eq_true.mp hall c h
  rwa [Bool.not_eq_true'] at hc

/-- What is written is a character of the text that stays, or belongs to an encoded one. -/
theorem mem_encode (h : c ∈ part.encode text) :
    c ∈ text ∧ part.encodes c = false ∨ c ∈ codeChars := by
  obtain ⟨a, ha, hc⟩ := List.mem_flatMap.mp h
  unfold Part.encodeChar at hc
  split at hc
  next =>
    obtain ⟨b, -, hc⟩ := List.mem_flatMap.mp hc
    exact .inr (mem_encodeByte hc)
  next hplain =>
    rw [List.mem_singleton.mp hc]
    exact .inl ⟨ha, Bool.eq_false_iff.mpr hplain⟩

theorem encodes_of_mem_encode (h : c ∈ part.encode text) : part.encodes c = false := by
  rcases mem_encode h with ⟨-, hc⟩ | hc
  · exact hc
  · exact encodes_of_mem_codeChars hc

theorem encodeChar_of_plain (h : part.encodes c = false) : part.encodeChar c = [c] := by
  unfold Part.encodeChar
  rw [h]
  rfl

theorem encode_of_plain (h : ∀ c ∈ text, part.encodes c = false) : part.encode text = text := by
  induction text with
  | nil => rfl
  | cons c rest ih =>
    have hrest := ih fun a ha => h a (List.mem_cons_of_mem _ ha)
    unfold Part.encode at hrest ⊢
    rw [List.flatMap_cons, encodeChar_of_plain (h c List.mem_cons_self), hrest]
    rfl

/-- Blanks, controls and what is beyond ASCII are encoded everywhere. -/
theorem isGraphic_of_plain (h : part.encodes c = false) : isGraphic c := by
  unfold Part.encodes at h
  simp only [Bool.or_eq_false_iff, decide_eq_false_iff_not, Char.not_le] at h
  unfold isGraphic
  simp [h.1]

/-- A character that a part encodes does not stand in it. -/
theorem ne_of_plain {a : Char} (ha : part.encodes a) (h : part.encodes c = false) : c ≠ a := by
  rintro rfl
  exact Bool.eq_false_iff.mp h ha

end PagePilot.Url
