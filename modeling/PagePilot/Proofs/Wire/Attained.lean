import PagePilot.Proofs.Json.Members
import PagePilot.Proofs.Wire.Event
/-!
# PagePilot.Proofs.Wire.Attained

What a record can be made of. Each field of a record that was read, from an object or an array,
has a value that was read or a default of the field (`Record.attained`). When the wire form of
such a value is read as the value again (`Restores`), so is the member of a record that holds
it; there is one law for each kind of field.
-/

namespace PagePilot.Wire

/-! ### Values of fields -/

/-- A value that a field can have: it was read, or it is a default. -/
def Field.Attains (f : Field) (v : f.Value) : Prop :=
  (∃ j, f.decode j = .ok v) ∨ f.absent = some v ∨ f.cutOff = some v

/-- Values that their fields can have. -/
def Values.Attained : (fs : List Field) → Values fs → Prop
  | [], _ => True
  | f :: fs, (v, vs) => f.Attains v ∧ Values.Attained fs vs

/-- Slots with nothing in them but values that their fields can have. -/
def Slots.Attained : (fs : List Field) → Slots fs → Prop
  | [], _ => True
  | f :: fs, (slot, slots) => (∀ v, slot = some v → f.Attains v) ∧ Slots.Attained fs slots

namespace Slots

theorem attained_empty : (fs : List Field) → Attained fs (empty fs)
  | [] => trivial
  | _ :: fs => ⟨nofun, attained_empty fs⟩

theorem Attained.put {key : String} {value : Json} : {fs : List Field} →
    {slots slots' : Slots fs} → Attained fs slots → put key value fs slots = .ok slots' →
      Attained fs slots'
  | [], _, _, _, _ => trivial
  | f :: fs, (slot, slots), (slot', slots'), ⟨hslot, hslots⟩, h => by
    by_cases hknows : f.knows key = true
    · cases slot with
      | some v => simp [Slots.put, hknows] at h
      | none =>
        cases hvalue : f.decode value with
        | error e => simp [Slots.put, hknows, hvalue, bind, Except.bind] at h
        | ok v =>
          simp [Slots.put, hknows, hvalue, bind, Except.bind] at h
          obtain ⟨rfl, rfl⟩ := h
          refine ⟨fun w hw => ?_, hslots⟩
          cases hw
          exact .inl ⟨value, hvalue⟩
    · cases hput : Slots.put key value fs slots with
      | error e => simp [Slots.put, hknows, hput, bind, Except.bind] at h
      | ok between =>
        simp [Slots.put, hknows, hput, bind, Except.bind] at h
        obtain ⟨rfl, rfl⟩ := h
        exact ⟨hslot, hslots.put hput⟩

theorem Attained.putAll {fs : List Field} {members : List (String × Json)}
    {slots slots' : Slots fs} (hslots : Attained fs slots)
    (h : putAll fs members slots = .ok slots') : Attained fs slots' := by
  induction members generalizing slots with
  | nil =>
    cases h
    exact hslots
  | cons m rest ih =>
    obtain ⟨key, value⟩ := m
    cases hput : Slots.put key value fs slots with
    | error e => simp [Slots.putAll, hput, bind, Except.bind] at h
    | ok between =>
      exact ih (hslots.put hput) (by simpa [Slots.putAll, hput, bind, Except.bind] using h)

theorem Attained.values : {fs : List Field} → {slots : Slots fs} → {vs : Values fs} →
    Attained fs slots → values fs slots = .ok vs → Values.Attained fs vs
  | [], _, _, _, _ => trivial
  | f :: fs, (slot, slots), (v, vs), ⟨hslot, hslots⟩, h => by
    obtain ⟨hv, hvs⟩ := values_cons_eq_ok.mp h
    refine ⟨?_, hslots.values hvs⟩
    cases slot with
    | some w => exact hslot v hv
    | none => exact .inr (.inl hv)

end Slots

theorem Values.attained_of_ofItems {short : Nat → DecodeError} : {fs : List Field} →
    {position : Nat} → {items rest : List Json} → {vs : Values fs} →
      ofItems short fs position items = .ok (vs, rest) → Attained fs vs
  | [], _, _, _, _, _ => trivial
  | _ :: _, _, [], _, (_, _), h =>
    have ⟨hv, hvs⟩ := ofItems_nil_eq_ok.mp h
    ⟨.inr (.inr hv), attained_of_ofItems hvs⟩
  | _ :: _, _, j :: _, _, (_, _), h =>
    have ⟨hv, hvs⟩ := ofItems_cons_eq_ok.mp h
    ⟨.inl ⟨j, hv⟩, attained_of_ofItems hvs⟩

/-- What a record is read as is made of values that its fields can have. -/
theorem Record.attained (r : Record α) {j : Json} {a : α} (h : r.decode j = .ok a) :
    ∃ vs, Values.Attained r.fields vs ∧ r.make vs = a := by
  cases j with
  | object members =>
    obtain ⟨vs, ⟨slots, hput, hvalues⟩, hmake⟩ := r.decode_object_eq_ok.mp h
    exact ⟨vs, ((Slots.attained_empty r.fields).putAll hput).values hvalues, hmake⟩
  | array items =>
    obtain ⟨vs, hmake, hitems⟩ := r.decode_array_eq_ok.mp h
    exact ⟨vs, Values.attained_of_ofItems hitems, hmake⟩
  | null | bool | int | double | string => cases h

/-! ### Wire forms -/

/-- Whatever a value was read from, its wire form is read as the same value. -/
def Restores (decode : Decoder α) (encode : α → Json) : Prop :=
  ∀ j a, decode j = .ok a → decode (encode a) = .ok a

/-- The same of values that were read from something else than `null`; their wire form is
something else too, so that an option with the value is not taken for none. -/
def RestoresGiven (decode : Decoder α) (encode : α → Json) : Prop :=
  ∀ j a, j ≠ .null → decode j = .ok a → encode a ≠ .null ∧ decode (encode a) = .ok a

theorem Restores.given {decode : Decoder α} {encode : α → Json} (h : Restores decode encode)
    (hne : ∀ a, encode a ≠ .null) : RestoresGiven decode encode :=
  fun j a _ ha => ⟨hne a, h j a ha⟩

theorem Decoder.option_eq_some {decode : Decoder α} {j : Json} {a : α}
    (h : decode.option j = .ok (some a)) : j ≠ .null ∧ decode j = .ok a := by
  have hne : j ≠ .null := by
    rintro rfl
    cases h
  rw [option_of_ne hne] at h
  cases hread : decode j with
  | error e => rw [hread] at h; cases h
  | ok b =>
    rw [hread] at h
    cases h
    exact ⟨hne, rfl⟩

namespace Field

variable {members : List (String × Json)} {name : String} {decode : Decoder α}
  {encode : α → Json}

theorem Attains.required {a : α} (h : (Field.required name decode).Attains a) :
    ∃ j, decode j = .ok a := by
  rcases h with hread | habsent | hcut
  · exact hread
  · cases habsent
  · cases hcut

theorem read_required_of_restores (hr : Restores decode encode) {a : α}
    (ha : (required name decode).Attains a) (hl : Json.lookup name members = some (encode a)) :
    (required name decode).read members = .ok a := by
  obtain ⟨j, hj⟩ := ha.required
  exact read_required.mpr ⟨_, hl, hr j a hj⟩

theorem read_defaulted_of_restores (hr : Restores decode encode) {value a : α}
    (hvalue : decode (encode value) = .ok value) (ha : (defaulted name decode value).Attains a)
    (hl : Json.lookup name members = some (encode a)) :
    (defaulted name decode value).read members = .ok a := by
  rw [read_defaulted, hl]
  rcases ha with ⟨j, hj⟩ | habsent | hcut
  · exact hr j a hj
  · cases habsent
    exact hvalue
  · cases hcut
    exact hvalue

/-- An option that an object may leave out attains no more than one that an array may leave out
too. -/
theorem Attains.omittable {o : Option α} (h : (optional name decode).Attains o) :
    (Field.omittable name decode).Attains o := by
  rcases h with hread | habsent | hcut
  · exact .inl hread
  · exact .inr (.inl habsent)
  · cases hcut

/-- An option is left out of the wire form when it is none. -/
theorem read_omittable_of_restores (hr : RestoresGiven decode encode) {o : Option α}
    (ha : (omittable name decode).Attains o) (hl : Json.lookup name members = o.map encode) :
    (omittable name decode).read members = .ok o := by
  rw [read_omittable, read_optional, Json.given?, hl]
  cases o with
  | none => rfl
  | some a =>
    rcases ha with ⟨j, hj⟩ | habsent | hcut
    · obtain ⟨hne, hread⟩ := Decoder.option_eq_some hj
      obtain ⟨hne', hread'⟩ := hr j a hne hread
      simp [hread']
    · cases habsent
    · cases hcut

theorem read_optional_of_restores (hr : RestoresGiven decode encode) {o : Option α}
    (ha : (optional name decode).Attains o) (hl : Json.lookup name members = o.map encode) :
    (optional name decode).read members = .ok o :=
  read_omittable.mp (read_omittable_of_restores hr ha.omittable hl)

end Field

/-- A record is restored when each of its fields finds its value among the members of the wire
form. -/
theorem Record.restores (r : Record α) (hr : Field.Apart r.fields) {encode : α → Json}
    (h : ∀ vs, Values.Attained r.fields vs → ∃ members, encode (r.make vs) = .ofMembers members ∧
      Values.ReadFrom (Json.sortMembers members) r.fields vs) : Restores r.decode encode := by
  intro j a ha
  obtain ⟨vs, hattained, rfl⟩ := r.attained ha
  obtain ⟨members, hencode, hread⟩ := h vs hattained
  rw [hencode]
  exact (r.decode_object hr (Json.nodup_sortMembers members)).mpr ⟨vs, hread, rfl⟩

/-! ### Scalars -/

namespace Decoder

theorem restores_text : Restores text .string := fun j _ h => by
  cases j <;> cases h
  rfl

theorem restores_float : Restores float .double := fun _ _ _ => rfl

theorem integer_eq_ok {low high n : Int} {wanted : Expectation} {j : Json}
    (h : integer low high wanted j = .ok n) : j = .int n ∧ low ≤ n := by
  cases j with
  | int m =>
    simp only [integer] at h
    split at h
    · cases h
      exact ⟨rfl, ‹low ≤ n ∧ n ≤ high›.1⟩
    · cases h
  | null | bool | double | string | array | object => cases h

theorem restores_signedWord : Restores signedWord .int := by
  intro j n h
  obtain ⟨rfl, -⟩ := integer_eq_ok h
  exact h

theorem restores_unsignedWord : Restores unsignedWord fun n : Nat => .int n := by
  intro j n h
  cases hword : integer 0 0xffffffffffffffff .unsignedWord j with
  | error e => simp [unsignedWord, hword, Except.map] at h
  | ok m =>
    obtain ⟨rfl, hm⟩ := integer_eq_ok hword
    obtain rfl : m.toNat = n := by simpa [unsignedWord, hword, Except.map] using h
    simpa [Int.toNat_of_nonneg hm] using h

theorem list_eq_ok {decode : Decoder α} {j : Json} {as : List α} (h : list decode j = .ok as) :
    ∃ js, j = .array js ∧ items decode js = .ok as := by
  cases j with
  | array js => exact ⟨js, rfl, h⟩
  | null | bool | int | double | string | object => cases h

theorem items_eq_ok_cons {decode : Decoder α} {js : List Json} {a : α} {as : List α}
    (h : items decode js = .ok (a :: as)) :
    ∃ j rest, js = j :: rest ∧ decode j = .ok a ∧ items decode rest = .ok as := by
  cases js with
  | nil => cases h
  | cons j rest =>
    cases hj : decode j with
    | error e => simp [items, hj, bind, Except.bind] at h
    | ok b =>
      cases hrest : items decode rest with
      | error e => simp [items, hj, hrest, bind, Except.bind] at h
      | ok bs =>
        simp only [items, hj, hrest, bind, Except.bind, Except.ok.injEq, List.cons.injEq] at h
        obtain ⟨rfl, rfl⟩ := h
        exact ⟨j, rest, rfl, hj, hrest⟩

theorem restores_json : Restores json id := fun _ _ _ => rfl

theorem restoresGiven_json : RestoresGiven json id := fun j a hne h => by
  cases h
  exact ⟨hne, rfl⟩

end Decoder

end PagePilot.Wire
