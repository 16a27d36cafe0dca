import PagePilot.Discovery
import PagePilot.Proofs.Result
/-!
# PagePilot.Proofs.Discovery

What the body of a page is read as. A body that is a value throughout is read as that value
(`Discovery.readBody_of_read`); of any other only the members count that its record knows
(`Discovery.readBody_congr`).
-/

namespace PagePilot

/-! ### Bytes -/

namespace Json.Outline

theorem bytes_ofBytes (bytes : List UInt8) :
    (ofBytes bytes).map (fun c => c.toNat.toUInt8) = bytes := by
  rw [ofBytes, List.map_map]
  refine (List.map_congr_left ?_).trans (List.map_id _)
  intro b _
  have hvalid : b.toNat.isValidChar := .inl (Nat.lt_trans b.toNat_lt (by decide))
  have hchar : (Char.ofNat b.toNat).toNat = b.toNat := by
    rw [Char.ofNat, dif_pos hvalid]
    rfl
  simp [hchar]

/-- All of a body is read as the text that its bytes are. -/
theorem value?_ofBytes {body : List UInt8} {text : String}
    (h : String.fromUTF8? ⟨body.toArray⟩ = some text) :
    value? (ofBytes body) = (readRaw text.toList).toOption := by
  rw [value?, bytes_ofBytes, h]
  rfl

end Json.Outline

/-! ### Bodies -/

namespace Discovery

open Wire

variable {α : Type}

/-- A body that is a value throughout. -/
theorem readBody_of_read (form : Form α) {body : List UInt8} {text : String} {j : Json}
    (htext : String.fromUTF8? ⟨body.toArray⟩ = some text)
    (hread : Json.readRaw text.toList = .ok j) :
    readBody form body = (form.decode j).mapError fun _ => .badBody := by
  have hvalue : form.value? body = some j := by
    simp [Form.value?, Json.Outline.value?_ofBytes htext, hread, Except.toOption]
  rw [readBody, hvalue]

theorem sifted_skip (r : Record α) {before after : List (List Char × List Char)}
    {key : List Char} {word : String} (hkey : Json.Outline.value? key = some (.string word))
    (hunknown : ∀ f ∈ r.fields, f.knows word = false) (value : List Char) :
    sifted r (before ++ (key, value) :: after) = sifted r (before ++ after) := by
  induction before with
  | nil =>
    have hnone : r.fields.any (·.knows word) = false := by simpa using hunknown
    simp [sifted, hkey, hnone]
  | cons m before ih =>
    rw [List.cons_append, List.cons_append, sifted, sifted, ih]

/-- What stands under a key that a record does not know makes no difference, whether it is a
value or not. -/
theorem readBody_congr (r : Record α) {body body' : List UInt8}
    {before after : List (List Char × List Char)} {key value value' : List Char} {word : String}
    (hnone : Json.Outline.value? (Json.Outline.ofBytes body) = none)
    (hnone' : Json.Outline.value? (Json.Outline.ofBytes body') = none)
    (hmembers : Json.Outline.members? (Json.Outline.ofBytes body) =
      some (before ++ (key, value) :: after))
    (hmembers' : Json.Outline.members? (Json.Outline.ofBytes body') =
      some (before ++ (key, value') :: after))
    (hkey : Json.Outline.value? key = some (.string word))
    (hunknown : ∀ f ∈ r.fields, f.knows word = false) :
    readBody (.record r) body = readBody (.record r) body' := by
  have hsame : (Form.record r).sift (Json.Outline.ofBytes body) =
      (Form.record r).sift (Json.Outline.ofBytes body') := by
    simp only [Form.record, hmembers, hmembers', sifted_skip r hkey hunknown]
  simp only [readBody, Form.value?, hnone, hnone', hsame]

/-- A number that is too large makes no difference under a key that is not known. -/
example : (versionForm.value?
    "\x7b\"webSocketDebuggerUrl\":\"w\",\"x\":[1e999]\x7d".toUTF8.toList).isSome := by
  decide +kernel

end Discovery

end PagePilot
