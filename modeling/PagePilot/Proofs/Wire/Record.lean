import PagePilot.Wire.Record
/-!
# PagePilot.Proofs.Wire.Record

Records read from objects and arrays. The members of an object are visited in their order, but
when its keys are distinct the order matters only for which of several errors is reported: what
a record is read as is one thing for each field, what the field makes of the member with its
name (`Field.read`). `Record.decode_object` says so of every record without aliases. From an
array the fields take one item each (`Record.decode_array_eq_ok`).
-/

namespace PagePilot

namespace Json

/-- The member of an object under a key, unless it is `null`. An optional field sees no
difference between `null` and nothing. -/
def given? (key : String) (members : List (String × Json)) : Option Json :=
  match lookup key members with
  | none | some .null => none
  | some j => some j

theorem lookup_filter {key : String} {p : String → Bool} (hp : p key = true)
    (members : List (String × Json)) :
    lookup key (members.filter fun m => p m.1) = lookup key members := by
  induction members with
  | nil => rfl
  | cons m rest ih =>
    by_cases hm : p m.1 = true
    · rw [List.filter_cons_of_pos (p := fun m : String × Json => p m.1) hm]
      unfold lookup
      rw [ih]
    · have hne : m.1 ≠ key := fun h => hm (h ▸ hp)
      rw [List.filter_cons_of_neg (p := fun m : String × Json => p m.1) hm, ih, lookup,
        if_neg hne]

end Json

namespace Wire

/-! ### Options -/

theorem Decoder.option_of_ne {decode : Decoder α} {j : Json} (h : j ≠ .null) :
    decode.option j = (decode j).map some := by
  cases j with
  | null => exact absurd rfl h
  | _ => rfl

/-! ### Fields -/

namespace Field

/-- What a field is read as from the members of an object. -/
def read (f : Field) (members : List (String × Json)) : Except DecodeError f.Value :=
  match Json.lookup f.name members with
  | some j => f.decode j
  | none =>
    match f.absent with
    | some v => .ok v
    | none => .error (.missingField f.name)

theorem knows_of_aliases {f : Field} (h : f.aliases = []) (key : String) :
    f.knows key = decide (key = f.name) := by
  simp [knows, h]

variable {members : List (String × Json)} {name : String} {decode : Decoder α}

theorem read_required {v : α} : (required name decode).read members = .ok v ↔
    ∃ j, Json.lookup name members = some j ∧ decode j = .ok v := by
  unfold read
  show (match Json.lookup name members with
    | some j => decode j
    | none => .error (.missingField name)) = .ok v ↔ _
  cases Json.lookup name members with
  | none => simp
  | some j => simp

theorem read_optional {o : Option α} : (optional name decode).read members = .ok o ↔
    match Json.given? name members with
    | some j => ∃ v, decode j = .ok v ∧ o = some v
    | none => o = none := by
  unfold read Json.given?
  show (match Json.lookup name members with
    | some j => decode.option j
    | none => (.ok none : Except DecodeError (Option α))) = .ok o ↔ _
  have hsome : ∀ j, (decode j).map some = .ok o ↔ ∃ v, decode j = .ok v ∧ o = some v := by
    intro j
    cases decode j <;> simp [Except.map, @eq_comm _ o]
  cases Json.lookup name members with
  | none => simp [@eq_comm _ o]
  | some j =>
    cases j with
    | null => simp [Decoder.option, @eq_comm _ o]
    | _ => exact hsome _

end Field

/-! ### Objects -/

namespace Slots

variable {f : Field} {fs : List Field} {members : List (String × Json)}

/-- The first field of a record takes the members that it knows, and leaves the others to the
other fields. -/
theorem putAll_cons_eq_ok {slot slot' : Option f.Value} {slots slots' : Slots fs} :
    putAll (f :: fs) members (slot, slots) = .ok (slot', slots') ↔
      putAll [f] members (slot, ()) = .ok (slot', ()) ∧
        putAll fs (members.filter fun m => !f.knows m.1) slots = .ok slots' := by
  induction members generalizing slot slots with
  | nil => simp [putAll]
  | cons m rest ih =>
    obtain ⟨key, value⟩ := m
    by_cases hknows : f.knows key = true
    · rw [List.filter_cons_of_neg (by simp [hknows])]
      cases slot with
      | some v => simp [putAll, put, hknows, bind, Except.bind]
      | none =>
        cases hvalue : f.decode value with
        | error e => simp [putAll, put, hknows, hvalue, bind, Except.bind]
        | ok v => simpa [putAll, put, hknows, hvalue, bind, Except.bind] using ih
    · rw [List.filter_cons_of_pos (by simp [hknows])]
      cases hput : put key value fs slots with
      | error e => simp [putAll, put, hknows, hput, bind, Except.bind]
      | ok between => simpa [putAll, put, hknows, hput, bind, Except.bind] using ih

/-- A field that knows no member stays as it is. -/
theorem putAll_unknown (h : ∀ m ∈ members, f.knows m.1 = false) (slot : Option f.Value) :
    putAll [f] members (slot, ()) = .ok (slot, ()) := by
  induction members with
  | nil => rfl
  | cons m rest ih =>
    have hm := h m (List.mem_cons_self ..)
    simpa [putAll, put, hm, bind, Except.bind] using ih fun m hm => h m (List.mem_cons_of_mem _ hm)

/-- A field takes the one member with its name. -/
theorem putAll_singleton (hf : f.aliases = []) (hkeys : (members.map Prod.fst).Nodup) :
    putAll [f] members (none, ()) =
      match Json.lookup f.name members with
      | none => .ok (none, ())
      | some j => (f.decode j).map fun v => (some v, ()) := by
  induction members with
  | nil => rfl
  | cons m rest ih =>
    obtain ⟨key, value⟩ := m
    obtain ⟨hkey, hrest⟩ := List.nodup_cons.mp hkeys
    have hknows := Field.knows_of_aliases hf
    by_cases hname : key = f.name
    · -- No other member has the name, so the slot keeps what it gets here.
      have hothers : ∀ m ∈ rest, f.knows m.1 = false := by
        intro m hm
        rw [hknows, decide_eq_false_iff_not]
        intro heq
        exact hkey (List.mem_map.mpr ⟨m, hm, heq.trans hname.symm⟩)
      cases hvalue : f.decode value with
      | error e =>
        simp [putAll, put, hknows, hname, hvalue, Json.lookup, bind, Except.bind, Except.map]
      | ok v =>
        simpa [putAll, put, hknows, hname, hvalue, Json.lookup, bind, Except.bind, Except.map]
          using putAll_unknown hothers (some v)
    · simpa [putAll, put, hknows, hname, Json.lookup, bind, Except.bind] using ih hrest

/-- What a field is read as is the member that it takes, or its default. -/
theorem read_eq_ok (hf : f.aliases = []) (hkeys : (members.map Prod.fst).Nodup) {v : f.Value} :
    f.read members = .ok v ↔ ∃ slot, putAll [f] members (none, ()) = .ok (slot, ()) ∧
      slot.orElse (fun _ => f.absent) = some v := by
  rw [putAll_singleton hf hkeys, Field.read]
  cases Json.lookup f.name members with
  | none => cases f.absent <;> simp
  | some j =>
    dsimp only
    cases f.decode j <;> simp [Except.map]

/-- A slot that is filled takes nothing more. -/
theorem eq_of_putAll_filled {v : f.Value} {slot : Option f.Value}
    (h : putAll [f] members (some v, ()) = .ok (slot, ())) : slot = some v := by
  induction members with
  | nil =>
    cases h
    rfl
  | cons m rest ih =>
    by_cases hm : f.knows m.1 = true
    · simp [putAll, put, hm, bind, Except.bind] at h
    · exact ih (by simpa [putAll, put, hm, bind, Except.bind] using h)

/-- When the visit of all members succeeds, none of them is a second one for the field, whatever
the other keys are. -/
theorem read_of_putAll (hf : f.aliases = []) {slot : Option f.Value} {v : f.Value}
    (h : putAll [f] members (none, ()) = .ok (slot, ()))
    (hv : slot.orElse (fun _ => f.absent) = some v) : f.read members = .ok v := by
  induction members with
  | nil =>
    cases h
    have habsent : f.absent = some v := hv
    simp [Field.read, Json.lookup, habsent]
  | cons m rest ih =>
    obtain ⟨key, value⟩ := m
    have hknows := Field.knows_of_aliases hf
    by_cases hname : key = f.name
    · cases hvalue : f.decode value with
      | error e => simp [putAll, put, hknows, hname, hvalue, bind, Except.bind] at h
      | ok w =>
        simp only [putAll, put, hknows, hname, hvalue, bind, Except.bind] at h
        obtain rfl := eq_of_putAll_filled h
        cases hv
        simp [Field.read, Json.lookup, hname, hvalue]
    · have hrest := ih (by simpa [putAll, put, hknows, hname, bind, Except.bind] using h)
      simpa [Field.read, Json.lookup, hname] using hrest

theorem values_cons_eq_ok {slot : Option f.Value} {slots : Slots fs} {v : f.Value}
    {vs : Values fs} :
    values (f :: fs) (slot, slots) = .ok (v, vs) ↔
      slot.orElse (fun _ => f.absent) = some v ∧ values fs slots = .ok vs := by
  rw [values]
  cases slot.orElse fun _ => f.absent with
  | none => simp
  | some v' =>
    dsimp only
    cases values fs slots <;> simp [bind, Except.bind]

end Slots

/-- Values of which each is what its field is read as. -/
def Values.ReadFrom (members : List (String × Json)) : (fs : List Field) → Values fs → Prop
  | [], _ => True
  | f :: fs, (v, vs) => f.read members = .ok v ∧ Values.ReadFrom members fs vs

theorem Values.readFrom_congr {members members' : List (String × Json)} {fs : List Field}
    {vs : Values fs}
    (h : ∀ f ∈ fs, Json.lookup f.name members' = Json.lookup f.name members) :
    Values.ReadFrom members' fs vs ↔ Values.ReadFrom members fs vs := by
  induction fs with
  | nil => rfl
  | cons f fs ih =>
    refine and_congr ?_ (ih fun g hg => h g (List.mem_cons_of_mem _ hg))
    rw [Field.read, h f (List.mem_cons_self ..), Field.read]

/-- Fields that are told apart by their names. -/
structure Field.Apart (fs : List Field) : Prop where
  plain : ∀ f ∈ fs, f.aliases = []
  distinct : (fs.map Field.name).Nodup

/-- The members that another field knows are none of this one's. -/
theorem Field.Apart.lookup_filter {f : Field} {fs : List Field} (h : Field.Apart (f :: fs))
    (members : List (String × Json)) : ∀ g ∈ fs,
    Json.lookup g.name (members.filter fun m => !f.knows m.1) = Json.lookup g.name members := by
  intro g hg
  refine Json.lookup_filter (p := fun key => !f.knows key) ?_ members
  rw [Field.knows_of_aliases (h.plain f (List.mem_cons_self ..)), Bool.not_eq_true',
    decide_eq_false_iff_not]
  exact fun heq => (List.nodup_cons.mp h.distinct).1 (heq ▸ List.mem_map_of_mem hg)

theorem Field.Apart.tail {f : Field} {fs : List Field} (h : Field.Apart (f :: fs)) :
    Field.Apart fs :=
  ⟨fun g hg => h.plain g (List.mem_cons_of_mem _ hg), (List.nodup_cons.mp h.distinct).2⟩

/-- What a record is read as is what each of its fields is read as. -/
theorem Slots.readFrom_of_putAll {fs : List Field} (hfs : Field.Apart fs)
    {members : List (String × Json)} {slots : Slots fs} {vs : Values fs}
    (hput : Slots.putAll fs members (Slots.empty fs) = .ok slots)
    (hvalues : Slots.values fs slots = .ok vs) : Values.ReadFrom members fs vs := by
  induction fs generalizing members with
  | nil => trivial
  | cons f fs ih =>
    obtain ⟨slot, slots⟩ := slots
    obtain ⟨v, vs⟩ := vs
    obtain ⟨hslot, hslots⟩ := putAll_cons_eq_ok.mp hput
    obtain ⟨hv, hvs⟩ := values_cons_eq_ok.mp hvalues
    exact ⟨read_of_putAll (hfs.plain f (List.mem_cons_self ..)) hslot hv,
      (Values.readFrom_congr (hfs.lookup_filter members)).mp (ih hfs.tail hslots hvs)⟩

/-- What the visit of all members comes to is one thing for each field. -/
theorem Slots.values_putAll_eq_ok {fs : List Field} (hfs : Field.Apart fs)
    {members : List (String × Json)} (hkeys : (members.map Prod.fst).Nodup) {vs : Values fs} :
    (∃ slots, Slots.putAll fs members (Slots.empty fs) = .ok slots ∧
      Slots.values fs slots = .ok vs) ↔ Values.ReadFrom members fs vs := by
  induction fs generalizing members with
  | nil =>
    have hall : Slots.putAll [] members () = .ok () := by
      clear hkeys
      induction members with
      | nil => rfl
      | cons m rest ih => exact ih
    exact iff_of_true ⟨(), hall, rfl⟩ trivial
  | cons f fs ih =>
    obtain ⟨v, vs⟩ := vs
    have hplain := hfs.plain f (List.mem_cons_self ..)
    have hkeys' : ((members.filter fun m => !f.knows m.1).map Prod.fst).Nodup :=
      hkeys.sublist (List.filter_sublist.map Prod.fst)
    have hrest := @ih hfs.tail _ hkeys' vs
    -- Each slot is filled and read on its own: the first here, the others by induction.
    show _ ↔ f.read members = .ok v ∧ Values.ReadFrom members fs vs
    rw [← Values.readFrom_congr (hfs.lookup_filter members), ← hrest, read_eq_ok hplain hkeys]
    constructor
    · rintro ⟨⟨slot, slots⟩, hput, hvalues⟩
      obtain ⟨hslot, hslots⟩ := putAll_cons_eq_ok.mp hput
      obtain ⟨hv, hvs⟩ := values_cons_eq_ok.mp hvalues
      exact ⟨⟨slot, hslot, hv⟩, slots, hslots, hvs⟩
    · rintro ⟨⟨slot, hslot, hv⟩, slots, hslots, hvs⟩
      exact ⟨(slot, slots), putAll_cons_eq_ok.mpr ⟨hslot, hslots⟩, values_cons_eq_ok.mpr ⟨hv, hvs⟩⟩

/-- An object is read by a visit of its members, after which each field has its value. -/
theorem Record.decode_object_eq (r : Record α) (members : List (String × Json)) :
    r.decode (.object members) =
      (Slots.putAll r.fields members (Slots.empty r.fields)).bind fun slots =>
        (Slots.values r.fields slots).map r.make := by
  rw [decode]
  cases Slots.putAll r.fields members (Slots.empty r.fields) with
  | error e => rfl
  | ok slots =>
    cases hvalues : Slots.values r.fields slots <;>
      simp [bind, Except.bind, Except.map, hvalues]

theorem Record.decode_object_eq_ok (r : Record α) {members : List (String × Json)} {a : α} :
    r.decode (.object members) = .ok a ↔ ∃ vs, (∃ slots,
      Slots.putAll r.fields members (Slots.empty r.fields) = .ok slots ∧
        Slots.values r.fields slots = .ok vs) ∧ r.make vs = a := by
  rw [decode_object_eq]
  cases Slots.putAll r.fields members (Slots.empty r.fields) with
  | error e => simp [Except.bind]
  | ok slots =>
    cases h : Slots.values r.fields slots <;> simp [Except.bind, Except.map, h]

/-- A record that is read from an object has each field from it, also if some key that it does
not know is there twice. -/
theorem Record.readFrom_of_decode (r : Record α) (hr : Field.Apart r.fields)
    {members : List (String × Json)} {a : α} (h : r.decode (.object members) = .ok a) :
    ∃ vs, Values.ReadFrom members r.fields vs ∧ r.make vs = a := by
  obtain ⟨vs, ⟨slots, hput, hvalues⟩, hmake⟩ := r.decode_object_eq_ok.mp h
  exact ⟨vs, Slots.readFrom_of_putAll hr hput hvalues, hmake⟩

/-- A record is read from an object by reading each field from it. -/
theorem Record.decode_object (r : Record α) (hr : Field.Apart r.fields)
    {members : List (String × Json)} (hkeys : (members.map Prod.fst).Nodup) {a : α} :
    r.decode (.object members) = .ok a ↔
      ∃ vs, Values.ReadFrom members r.fields vs ∧ r.make vs = a := by
  rw [r.decode_object_eq_ok]
  simp only [Slots.values_putAll_eq_ok hr hkeys]

/-! ### Arrays -/

namespace Values

variable {short : Nat → DecodeError} {f : Field} {fs : List Field} {position : Nat} {j : Json}
  {items rest : List Json}

/-- The first item of an array is that of the first field. -/
theorem ofItems_cons_eq_ok {v : f.Value} {vs : Values fs} :
    ofItems short (f :: fs) position (j :: items) = .ok ((v, vs), rest) ↔
      f.decode j = .ok v ∧ ofItems short fs (position + 1) items = .ok (vs, rest) := by
  rw [ofItems]
  cases f.decode j with
  | error e => simp [bind, Except.bind]
  | ok w =>
    cases ofItems short fs (position + 1) items with
    | error e => simp [bind, Except.bind]
    | ok result =>
      obtain ⟨vs', rest'⟩ := result
      simp [bind, Except.bind, and_assoc]

/-- Behind the end of an array each field has to have a value of its own. -/
theorem ofItems_nil_eq_ok {v : f.Value} {vs : Values fs} :
    ofItems short (f :: fs) position [] = .ok ((v, vs), rest) ↔
      f.cutOff = some v ∧ ofItems short fs (position + 1) [] = .ok (vs, rest) := by
  rw [ofItems]
  cases f.cutOff with
  | none => simp
  | some w =>
    cases ofItems short fs (position + 1) [] with
    | error e => simp [bind, Except.bind]
    | ok result =>
      obtain ⟨vs', rest'⟩ := result
      simp [bind, Except.bind, and_assoc]

end Values

/-- A record that is read from an array takes all of its items. -/
theorem Record.decode_array_eq_ok (r : Record α) {items : List Json} {a : α} :
    r.decode (.array items) = .ok a ↔ ∃ vs, r.make vs = a ∧
      Values.ofItems (fun length => .tooShort length r.name r.fields.length) r.fields 0 items =
        .ok (vs, []) := by
  rw [Record.decode]
  cases Values.ofItems (fun length => .tooShort length r.name r.fields.length) r.fields 0
    items with
  | error e => simp [bind, Except.bind]
  | ok result =>
    obtain ⟨vs, rest⟩ := result
    cases rest <;> simp [bind, Except.bind]

end Wire

end PagePilot
