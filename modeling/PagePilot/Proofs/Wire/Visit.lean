import PagePilot.Proofs.Wire.Record
/-!
# PagePilot.Proofs.Wire.Visit

What the reading of a record depends on, errors included. A member under a key that no field
knows is passed over (`Record.decode_unknown`). `null` for an option fills its slot with what
the field has without a member, so the visit goes on as if the member were not there
(`Record.decode_null`). Of a member or an item that a field takes, only what the field makes of
it counts (`Record.decode_member`, `Record.decode_item`).

The members before and behind the one in question may be bad themselves; all of this says that
the same error is found, by following the visit with and without the member.
-/

namespace PagePilot.Wire

/-- The field that a key stands for: the first that knows it. -/
def Field.ofKey? (fs : List Field) (key : String) : Option Field :=
  fs.find? (·.knows key)

/-- A field that is read from `null` as it is without a member. -/
def Field.NullAsAbsent (f : Field) : Prop :=
  ∃ v, f.decode .null = .ok v ∧ f.absent = some v

namespace Slots

variable {fs : List Field} {key k : String} {value : Json}

theorem putAll_cons (slots : Slots fs) (rest : List (String × Json)) :
    putAll fs ((key, value) :: rest) slots =
      (put key value fs slots).bind (putAll fs rest) := rfl

theorem putAll_append (before after : List (String × Json)) (slots : Slots fs) :
    putAll fs (before ++ after) slots = (putAll fs before slots).bind (putAll fs after) := by
  induction before generalizing slots with
  | nil => rfl
  | cons m rest ih =>
    obtain ⟨key, value⟩ := m
    rw [List.cons_append, putAll_cons, putAll_cons]
    cases put key value fs slots with
    | error e => rfl
    | ok slots => exact ih slots

theorem put_filled {f : Field} (h : f.knows key = true) (v : f.Value) (slots : Slots fs) :
    put key value (f :: fs) (some v, slots) = .error (.duplicateField f.name) := by
  simp [put, h]

theorem put_free {f : Field} (h : f.knows key = true) (slots : Slots fs) :
    put key value (f :: fs) (none, slots) = (f.decode value).map fun v => (some v, slots) := by
  simp only [put, h]
  cases f.decode value <;> rfl

theorem put_other {f : Field} (h : f.knows key = false) (slot : Option f.Value)
    (slots : Slots fs) :
    put key value (f :: fs) (slot, slots) =
      (put key value fs slots).map fun slots => (slot, slots) := by
  simp only [put, h]
  cases put key value fs slots <;> rfl

theorem ofKey?_cons_eq_some {f g : Field} (h : Field.ofKey? (g :: fs) key = some f) :
    g.knows key = true ∧ g = f ∨ g.knows key = false ∧ Field.ofKey? fs key = some f := by
  cases hknows : g.knows key <;> simp_all [Field.ofKey?]

/-! ### Members that count the same -/

theorem put_unknown (h : ∀ f ∈ fs, f.knows key = false) (slots : Slots fs) :
    put key value fs slots = .ok slots := by
  induction fs with
  | nil => rfl
  | cons f fs ih =>
    obtain ⟨slot, slots⟩ := slots
    rw [put_other (h f (List.mem_cons_self ..)), ih fun g hg => h g (List.mem_cons_of_mem _ hg)]
    rfl

theorem put_congr {f : Field} {value' : Json} (hf : Field.ofKey? fs key = some f)
    (h : f.decode value' = f.decode value) (slots : Slots fs) :
    put key value' fs slots = put key value fs slots := by
  induction fs with
  | nil => cases hf
  | cons g fs ih =>
    obtain ⟨slot, slots⟩ := slots
    rcases ofKey?_cons_eq_some hf with ⟨hknows, rfl⟩ | ⟨hknows, hrest⟩
    · cases slot with
      | some v => rw [put_filled hknows, put_filled hknows]
      | none => rw [put_free hknows, put_free hknows, h]
    · rw [put_other hknows, put_other hknows, ih hrest]

/-! ### The slot of one field -/

/-- Nothing has been found for the field that a key stands for. -/
def Free (key : String) : (fs : List Field) → Slots fs → Prop
  | [], _ => True
  | f :: fs, (slot, slots) => if f.knows key then slot = none else Free key fs slots

/-- What the field that a key stands for has without a member, put into its slot. -/
def fill (key : String) : (fs : List Field) → Slots fs → Slots fs
  | [], slots => slots
  | f :: fs, (slot, slots) => if f.knows key then (f.absent, slots) else (slot, fill key fs slots)

theorem fill_known {f : Field} (h : f.knows key = true) (slot : Option f.Value)
    (slots : Slots fs) : fill key (f :: fs) (slot, slots) = (f.absent, slots) := if_pos h

theorem fill_other {f : Field} (h : f.knows key = false) (slot : Option f.Value)
    (slots : Slots fs) : fill key (f :: fs) (slot, slots) = (slot, fill key fs slots) :=
  if_neg (ne_true_of_eq_false h)

theorem free_known {f : Field} (h : f.knows key = true) {slot : Option f.Value}
    {slots : Slots fs} : Free key (f :: fs) (slot, slots) ↔ slot = none := by
  rw [Free, if_pos h]

theorem free_other {f : Field} (h : f.knows key = false) {slot : Option f.Value}
    {slots : Slots fs} : Free key (f :: fs) (slot, slots) ↔ Free key fs slots := by
  rw [Free, if_neg (ne_true_of_eq_false h)]

theorem free_empty : (fs : List Field) → Free key fs (empty fs)
  | [] => trivial
  | f :: fs => by
    rw [empty, Free]
    split
    · rfl
    · exact free_empty fs

/-- A slot that is filled with the value that stands for no member is worth as much as a free
one. -/
theorem values_fill : (fs : List Field) → (slots : Slots fs) → Free key fs slots →
    values fs (fill key fs slots) = values fs slots
  | [], _, _ => rfl
  | f :: fs, (slot, slots), h => by
    cases hknows : f.knows key with
    | true =>
      obtain rfl := (free_known hknows).mp h
      rw [fill_known hknows, values, values]
      cases f.absent <;> rfl
    | false =>
      rw [fill_other hknows, values, values, values_fill fs slots ((free_other hknows).mp h)]

variable {f : Field}

theorem put_null (hf : Field.ofKey? fs key = some f) (hnull : f.NullAsAbsent)
    {slots : Slots fs} (h : Free key fs slots) :
    put key .null fs slots = .ok (fill key fs slots) := by
  induction fs with
  | nil => cases hf
  | cons g fs ih =>
    obtain ⟨slot, slots⟩ := slots
    rcases ofKey?_cons_eq_some hf with ⟨hknows, rfl⟩ | ⟨hknows, hrest⟩
    · obtain ⟨v, hdecode, habsent⟩ := hnull
      obtain rfl := (free_known hknows).mp h
      rw [put_free hknows, hdecode, fill_known hknows, habsent]
      rfl
    · rw [put_other hknows, ih hrest ((free_other hknows).mp h), fill_other hknows]
      rfl

/-- A member that the field does not take meets the same slots, but for the one that is
filled. -/
theorem put_fill (hf : Field.ofKey? fs key = some f) (hk : f.knows k = false) (slots : Slots fs) :
    put k value fs (fill key fs slots) = (put k value fs slots).map (fill key fs) := by
  induction fs with
  | nil => cases hf
  | cons g fs ih =>
    obtain ⟨slot, slots⟩ := slots
    rcases ofKey?_cons_eq_some hf with ⟨hknows, rfl⟩ | ⟨hknows, hrest⟩
    · rw [fill_known hknows, put_other hk, put_other hk]
      cases put k value fs slots with
      | error e => rfl
      | ok slots => exact congrArg Except.ok (fill_known hknows slot slots).symm
    · rw [fill_other hknows]
      cases hk' : g.knows k with
      | true =>
        cases slot with
        | some v =>
          rw [put_filled hk', put_filled hk']
          rfl
        | none =>
          rw [put_free hk', put_free hk']
          cases g.decode value with
          | error e => rfl
          | ok v => exact congrArg Except.ok (fill_other hknows (some v) slots).symm
      | false =>
        rw [put_other hk', put_other hk', ih hrest]
        cases put k value fs slots with
        | error e => rfl
        | ok slots => exact congrArg Except.ok (fill_other hknows slot slots).symm

/-- Such a member leaves the slot free. -/
theorem Free.put (hf : Field.ofKey? fs key = some f) (hk : f.knows k = false)
    {slots slots' : Slots fs} (h : Free key fs slots)
    (hput : put k value fs slots = .ok slots') : Free key fs slots' := by
  induction fs with
  | nil => cases hf
  | cons g fs ih =>
    obtain ⟨slot, slots⟩ := slots
    rcases ofKey?_cons_eq_some hf with ⟨hknows, rfl⟩ | ⟨hknows, hrest⟩
    · rw [put_other hk] at hput
      cases hrest : Slots.put k value fs slots with
      | error e => rw [hrest] at hput; cases hput
      | ok between =>
        rw [hrest] at hput
        cases hput
        exact (free_known hknows).mpr ((free_known hknows).mp h)
    · have hfree := (free_other hknows).mp h
      cases hk' : g.knows k with
      | true =>
        cases slot with
        | some v => rw [put_filled hk'] at hput; cases hput
        | none =>
          rw [put_free hk'] at hput
          cases hvalue : g.decode value with
          | error e => rw [hvalue] at hput; cases hput
          | ok v =>
            rw [hvalue] at hput
            cases hput
            exact (free_other hknows).mpr hfree
      | false =>
        rw [put_other hk'] at hput
        cases hbetween : Slots.put k value fs slots with
        | error e => rw [hbetween] at hput; cases hput
        | ok between =>
          rw [hbetween] at hput
          cases hput
          exact (free_other hknows).mpr (ih hrest hfree hbetween)

theorem putAll_fill (hf : Field.ofKey? fs key = some f) {members : List (String × Json)}
    (hmembers : ∀ m ∈ members, f.knows m.1 = false) (slots : Slots fs) :
    putAll fs members (fill key fs slots) = (putAll fs members slots).map (fill key fs) := by
  induction members generalizing slots with
  | nil => rfl
  | cons m rest ih =>
    obtain ⟨k, value⟩ := m
    rw [putAll_cons, putAll_cons, put_fill hf (hmembers (k, value) (List.mem_cons_self ..))]
    cases put k value fs slots with
    | error e => rfl
    | ok between => exact ih (fun m hm => hmembers m (List.mem_cons_of_mem _ hm)) between

theorem Free.putAll (hf : Field.ofKey? fs key = some f) {members : List (String × Json)}
    (hmembers : ∀ m ∈ members, f.knows m.1 = false) {slots slots' : Slots fs}
    (h : Free key fs slots) (hput : putAll fs members slots = .ok slots') :
    Free key fs slots' := by
  induction members generalizing slots with
  | nil =>
    cases hput
    exact h
  | cons m rest ih =>
    obtain ⟨k, value⟩ := m
    rw [putAll_cons] at hput
    cases hbetween : Slots.put k value fs slots with
    | error e => rw [hbetween] at hput; cases hput
    | ok between =>
      rw [hbetween] at hput
      exact ih (fun m hm => hmembers m (List.mem_cons_of_mem _ hm))
        (h.put hf (hmembers (k, value) (List.mem_cons_self ..)) hbetween) hput

end Slots

/-! ### Arrays -/

theorem Values.ofItems_congr {short : Nat → DecodeError} {fs : List Field} {f : Field}
    {position : Nat} {before after : List Json} {j j' : Json}
    (hf : fs[before.length]? = some f) (h : f.decode j' = f.decode j) :
    ofItems short fs position (before ++ j' :: after) =
      ofItems short fs position (before ++ j :: after) := by
  induction fs generalizing before position with
  | nil => cases hf
  | cons g fs ih =>
    cases before with
    | nil =>
      cases hf
      rw [List.nil_append, List.nil_append, ofItems, ofItems, h]
    | cons i before =>
      rw [List.cons_append, List.cons_append, ofItems, ofItems, ih hf]

/-! ### Records -/

namespace Record

variable (r : Record α) {before after : List (String × Json)} {key : String} {value : Json}

theorem decode_unknown (h : ∀ f ∈ r.fields, f.knows key = false) :
    r.decode (.object (before ++ (key, value) :: after)) = r.decode (.object (before ++ after)) := by
  rw [decode_object_eq, decode_object_eq, Slots.putAll_append, Slots.putAll_append]
  cases Slots.putAll r.fields before (Slots.empty r.fields) with
  | error e => rfl
  | ok slots =>
    simp only [Except.bind, Slots.putAll_cons, Slots.put_unknown h]

theorem decode_null {f : Field} (hf : Field.ofKey? r.fields key = some f)
    (hnull : f.NullAsAbsent) (hothers : ∀ m ∈ before ++ after, f.knows m.1 = false) :
    r.decode (.object (before ++ (key, .null) :: after)) = r.decode (.object (before ++ after)) := by
  have hbefore := fun m hm => hothers m (List.mem_append_left after hm)
  have hafter := fun m hm => hothers m (List.mem_append_right before hm)
  rw [decode_object_eq, decode_object_eq, Slots.putAll_append, Slots.putAll_append]
  cases hput : Slots.putAll r.fields before (Slots.empty r.fields) with
  | error e => rfl
  | ok slots =>
    have hfree := (Slots.free_empty r.fields).putAll hf hbefore hput
    simp only [Except.bind, Slots.putAll_cons, Slots.put_null hf hnull hfree,
      Slots.putAll_fill hf hafter]
    cases hput' : Slots.putAll r.fields after slots with
    | error e => rfl
    | ok slots' =>
      exact congrArg (Except.map r.make)
        (Slots.values_fill r.fields slots' (hfree.putAll hf hafter hput'))

theorem decode_member {f : Field} (hf : Field.ofKey? r.fields key = some f) {value' : Json}
    (h : f.decode value' = f.decode value) :
    r.decode (.object (before ++ (key, value') :: after)) =
      r.decode (.object (before ++ (key, value) :: after)) := by
  rw [decode_object_eq, decode_object_eq, Slots.putAll_append, Slots.putAll_append]
  cases Slots.putAll r.fields before (Slots.empty r.fields) with
  | error e => rfl
  | ok slots => simp only [Except.bind, Slots.putAll_cons, Slots.put_congr hf h]

theorem decode_item {f : Field} (before : List Json) {after : List Json} {j j' : Json}
    (hf : r.fields[before.length]? = some f) (h : f.decode j' = f.decode j) :
    r.decode (.array (before ++ j' :: after)) = r.decode (.array (before ++ j :: after)) := by
  simp only [decode, Values.ofItems_congr hf h, List.length_append, List.length_cons]

end Record

end PagePilot.Wire
