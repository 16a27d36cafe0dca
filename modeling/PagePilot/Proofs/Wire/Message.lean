import PagePilot.Proofs.Wire.Record
import PagePilot.Wire.Message
/-!
# PagePilot.Proofs.Wire.Message

Which objects read as answers. An object that carries an id reads as an answer whatever its
result is, but its refusal has to read as one (`Response.decode_eq_ok`), and for that the
`data` of the refusal has to be a text (`ErrorPayload.decode_eq_ok`). What does not read as
an answer is tried as a notice, which has a method.
-/

namespace PagePilot.Wire

/-! ### Refusals -/

namespace ErrorPayload

/-- The members of an object with the number and the text of a refusal; there may be any
others. -/
structure Members (members : List (String × Json)) (number : Int) (text : String) : Prop where
  keys : (members.map Prod.fst).Nodup
  code : Json.lookup "code" members = some (.int number)
  word : -0x8000000000000000 ≤ number ∧ number ≤ 0x7fffffffffffffff
  message : Json.lookup "message" members = some (.string text)

variable {members : List (String × Json)} {number : Int} {text : String}

theorem read_data {data : Option String} :
    (Field.optional "data" Decoder.text).read members = .ok data ↔
      Json.given? "data" members = data.map .string := by
  rw [Field.read_optional]
  cases Json.given? "data" members with
  | none => cases data <;> simp
  | some j => cases j <;> cases data <;> simp [Decoder.text, @eq_comm String]

/-- A refusal reads as one when its data is a text, or `null`, or not there. -/
theorem decode_eq_ok (h : Members members number text) {e : ErrorPayload} :
    decode (.object members) = .ok e ↔ ∃ data : Option String,
      Json.given? "data" members = data.map .string ∧ e = ⟨number, text, data⟩ := by
  have happart : Field.Apart record.fields := ⟨by decide, by decide⟩
  have hnumber : Decoder.signedWord (.int number) = .ok number := if_pos h.word
  refine (record.decode_object happart h.keys).trans ?_
  constructor
  · rintro ⟨⟨number', text', data, -⟩, ⟨hcode, hmessage, hdata, -⟩, rfl⟩
    obtain ⟨j, hj, hcode⟩ := Field.read_required.mp hcode
    cases h.code.symm.trans hj
    cases hnumber.symm.trans hcode
    obtain ⟨j, hj, hmessage⟩ := Field.read_required.mp hmessage
    cases h.message.symm.trans hj
    cases hmessage
    exact ⟨data, read_data.mp hdata, rfl⟩
  · rintro ⟨data, hdata, rfl⟩
    exact ⟨(number, text, data, ()), ⟨Field.read_required.mpr ⟨_, h.code, hnumber⟩,
      Field.read_required.mpr ⟨_, h.message, rfl⟩, read_data.mpr hdata, trivial⟩, rfl⟩

end ErrorPayload

/-! ### Answers -/

namespace Response

/-- The members of an object that carries an id; there may be any others. -/
structure Members (members : List (String × Json)) (number : Nat) : Prop where
  keys : (members.map Prod.fst).Nodup
  id : Json.lookup "id" members = some (.int number)
  word : number ≤ 0xffffffffffffffff

variable {members : List (String × Json)} {number : Nat}

theorem Members.read_id (h : Members members number) :
    Decoder.unsignedWord (.int number) = .ok number := by
  have hword : (0 : Int) ≤ number ∧ (number : Int) ≤ 0xffffffffffffffff :=
    ⟨Int.natCast_nonneg _, Int.ofNat_le.mpr h.word⟩
  exact congrArg (Except.map Int.toNat) (if_pos hword)

/-- An answer is read from its refusal; the result may be anything. -/
theorem decode_eq_ok (h : Members members number) {r : Response} :
    decode (.object members) = .ok r ↔ r.id = number ∧
      r.result = Json.given? "result" members ∧
      match Json.given? "error" members with
      | some j => ∃ e, ErrorPayload.decode j = .ok e ∧ r.error = some e
      | none => r.error = none := by
  have happart : Field.Apart record.fields := ⟨by decide, by decide⟩
  have hresult : ∀ result : Option Json,
      (Field.optional "result" Decoder.json).read members = .ok result ↔
        result = Json.given? "result" members := by
    intro result
    rw [Field.read_optional]
    cases Json.given? "result" members <;> simp [Decoder.json]
  refine (record.decode_object happart h.keys).trans ?_
  constructor
  · rintro ⟨⟨id, result, error, -⟩, ⟨hid, hread, herror, -⟩, rfl⟩
    obtain ⟨j, hj, hid⟩ := Field.read_required.mp hid
    cases h.id.symm.trans hj
    cases h.read_id.symm.trans hid
    exact ⟨rfl, (hresult result).mp hread, Field.read_optional.mp herror⟩
  · rintro ⟨hid, hread, herror⟩
    exact ⟨(number, r.result, r.error, ()), ⟨Field.read_required.mpr ⟨_, h.id, h.read_id⟩,
      (hresult r.result).mpr hread, Field.read_optional.mpr herror, trivial⟩, by rw [← hid]; rfl⟩

theorem decode_of_result (h : Members members number)
    (hnone : Json.given? "error" members = none) :
    decode (.object members) = .ok ⟨number, Json.given? "result" members, none⟩ := by
  refine (decode_eq_ok h).mpr ⟨rfl, rfl, ?_⟩
  rw [hnone]

theorem decode_of_refusal (h : Members members number) {j : Json} {e : ErrorPayload}
    (herror : Json.given? "error" members = some j) (he : ErrorPayload.decode j = .ok e) :
    decode (.object members) = .ok ⟨number, Json.given? "result" members, some e⟩ := by
  refine (decode_eq_ok h).mpr ⟨rfl, rfl, ?_⟩
  rw [herror]
  exact ⟨e, he, rfl⟩

/-- What carries an id is an answer, unless it has a refusal that does not read as one. -/
theorem exists_decode_iff (h : Members members number) :
    (∃ r, decode (.object members) = .ok r) ↔
      ∀ j, Json.given? "error" members = some j → ∃ e, ErrorPayload.decode j = .ok e := by
  constructor
  · rintro ⟨r, hdecode⟩ j herror
    obtain ⟨-, -, hread⟩ := (decode_eq_ok h).mp hdecode
    rw [herror] at hread
    obtain ⟨e, he, -⟩ := hread
    exact ⟨e, he⟩
  · intro hreadable
    cases herror : Json.given? "error" members with
    | none => exact ⟨_, decode_of_result h herror⟩
    | some j =>
      obtain ⟨e, he⟩ := hreadable j herror
      exact ⟨_, decode_of_refusal h herror he⟩

end Response

/-! ### Messages -/

theorem Message.decode_response {j : Json} {r : Response} :
    Message.decode j = .ok (.response r) ↔ Response.decode j = .ok r := by
  unfold Message.decode
  cases Response.decode j with
  | ok r' => simp
  | error cause => cases EventMessage.decode j <;> simp

/-- What is no answer and has no method is nothing. -/
theorem Message.decode_of_no_method {members : List (String × Json)}
    (hkeys : (members.map Prod.fst).Nodup) (hmethod : Json.lookup "method" members = none)
    (hresponse : ∀ r, Response.decode (.object members) ≠ .ok r) :
    Message.decode (.object members) = .error (.noAlternative "Message") := by
  have happart : Field.Apart EventMessage.record.fields := ⟨by decide, by decide⟩
  unfold Message.decode
  cases hr : Response.decode (.object members) with
  | ok r => exact absurd hr (hresponse r)
  | error cause =>
    dsimp only
    cases he : EventMessage.decode (.object members) with
    | error cause => rfl
    | ok e =>
      obtain ⟨⟨method, params, sessionId, -⟩, ⟨hread, -⟩, -⟩ :=
        (EventMessage.record.decode_object happart hkeys).mp he
      obtain ⟨j, hj, -⟩ := Field.read_required.mp hread
      cases hmethod.symm.trans hj

end PagePilot.Wire
