import PagePilot.Operation.Execute
import PagePilot.Proofs.Json.Canonical
import PagePilot.Proofs.Result
import PagePilot.Proofs.Wire.RoundTrip
/-!
# PagePilot.Proofs.Wire.Target

Descriptions of targets in the two listings. The listing of the protocol calls the id of a target
by another key (`TargetInfo.retold`), and what comes by the socket has its members in key order.
Neither makes a difference to what a description is read as, as long as no key is there twice
(`TargetInfo.decode_canonical_retold`), and so not to what a list of them is read as
(`TargetInfo.list_retold`).
-/

namespace PagePilot.Wire

/-! ### The order of members -/

/-- A decoder that gives the same for a value and for its canonical form. -/
def Decoder.Orderless (decode : Decoder α) : Prop :=
  ∀ j a, decode j.canonical = .ok a ↔ decode j = .ok a

namespace Decoder.Orderless

theorem text : Decoder.text.Orderless := by
  intro j s
  cases j <;> simp [Json.canonical, Decoder.text]

theorem map {decode : Decoder α} (h : decode.Orderless) (f : α → β) :
    Decoder.Orderless fun j => (decode j).map f := by
  intro j b
  have hiff : ∀ j, (decode j).map f = .ok b ↔ ∃ a, decode j = .ok a ∧ f a = b := by
    intro j
    cases decode j <;> simp [Except.map]
  simp only [hiff, h j]

theorem option {decode : Decoder α} (h : decode.Orderless) : decode.option.Orderless := by
  intro j o
  by_cases hnull : j = .null
  · subst hnull
    rfl
  have hcanonical : j.canonical ≠ .null := by
    cases j <;> simp [Json.canonical] at hnull ⊢
  rw [Decoder.option_of_ne hnull, Decoder.option_of_ne hcanonical]
  exact h.map some j o

end Decoder.Orderless

/-- A field that is there has the same value in canonical form. -/
theorem Field.read_canonical {f : Field} (hf : f.decode.Orderless)
    (members : List (String × Json)) {v : f.Value} :
    f.read (Json.canonicalMembers members) = .ok v ↔ f.read members = .ok v := by
  unfold Field.read
  rw [Json.lookup_canonicalMembers]
  cases Json.lookup f.name members with
  | none => rfl
  | some j => exact hf j v

theorem Values.readFrom_canonical {fs : List Field} (hfs : ∀ f ∈ fs, f.decode.Orderless)
    (members : List (String × Json)) {vs : Values fs} :
    Values.ReadFrom (Json.canonicalMembers members) fs vs ↔ Values.ReadFrom members fs vs := by
  induction fs with
  | nil => rfl
  | cons f fs ih =>
    refine and_congr (Field.read_canonical (hfs f (List.mem_cons_self ..)) members) (ih ?_)
    intro g hg
    exact hfs g (List.mem_cons_of_mem _ hg)

theorem Values.ofItems_canonical {short : Nat → DecodeError} {fs : List Field}
    (hfs : ∀ f ∈ fs, f.decode.Orderless) (position : Nat) (items : List Json) {vs : Values fs} :
    Values.ofItems short fs position (items.map Json.canonical) = .ok (vs, []) ↔
      Values.ofItems short fs position items = .ok (vs, []) := by
  induction fs generalizing position items with
  | nil =>
    simp only [Values.ofItems, Except.ok.injEq, Prod.mk.injEq, List.map_eq_nil_iff]
  | cons f fs ih =>
    obtain ⟨v, vs⟩ := vs
    have hrest : ∀ g ∈ fs, g.decode.Orderless := fun g hg => hfs g (List.mem_cons_of_mem _ hg)
    cases items with
    | nil => rfl
    | cons j items =>
      rw [List.map_cons, Values.ofItems_cons_eq_ok, Values.ofItems_cons_eq_ok,
        hfs f (List.mem_cons_self ..) j v, ih hrest]

/-- An answer of one field is read as that field. -/
theorem onlyField_eq_ok {record name : String} {decode : Decoder α} {a : α}
    {members : List (String × Json)} (hkeys : (members.map Prod.fst).Nodup) :
    (onlyField record (.required name decode)).decode (.object members) = .ok a ↔
      ∃ j, Json.lookup name members = some j ∧ decode j = .ok a := by
  have happart : Field.Apart (onlyField record (.required name decode)).fields :=
    ⟨by simp [onlyField, Field.required], by simp [onlyField]⟩
  refine (Record.decode_object _ happart hkeys).trans (Iff.trans ?_ Field.read_required)
  constructor
  · rintro ⟨⟨value, _⟩, ⟨hvalue, -⟩, rfl⟩
    exact hvalue
  · intro hvalue
    exact ⟨(a, ()), ⟨hvalue, trivial⟩, rfl⟩

/-! ### Lists -/

/-- A list is read when each of its items is. -/
theorem Decoder.items_eq_ok {decode : Decoder α} {items : List Json} {as : List α} :
    Decoder.items decode items = .ok as ↔ items.map decode = as.map .ok := by
  induction items generalizing as with
  | nil =>
    cases as <;> simp [Decoder.items]
  | cons j rest ih =>
    cases as with
    | nil =>
      cases hj : decode j with
      | error e => simp [Decoder.items, hj, bind, Except.bind]
      | ok b =>
        cases hrest : Decoder.items decode rest <;>
          simp [Decoder.items, hj, hrest, bind, Except.bind]
    | cons a as =>
      rw [List.map_cons, List.map_cons, List.cons.injEq, ← ih]
      constructor
      · intro h
        obtain ⟨j', rest', heq, hj, hrest⟩ := Decoder.items_eq_ok_cons h
        cases heq
        exact ⟨hj, hrest⟩
      · rintro ⟨hj, hrest⟩
        simp [Decoder.items, hj, hrest, bind, Except.bind]

/-- Where not all items are read, one is not. -/
theorem Decoder.all_or_one (decode : Decoder α) (items : List Json) :
    (∃ as : List α, items.map decode = as.map .ok) ∨ ∃ j ∈ items, ∀ a, decode j ≠ .ok a := by
  induction items with
  | nil => exact .inl ⟨[], rfl⟩
  | cons j rest ih =>
    cases hj : decode j with
    | error e => exact .inr ⟨j, List.mem_cons_self .., by simp [hj]⟩
    | ok a =>
      rcases ih with ⟨as, has⟩ | ⟨j', hmem, hnone⟩
      · exact .inl ⟨a :: as, by rw [List.map_cons, List.map_cons, hj, has]⟩
      · exact .inr ⟨j', List.mem_cons_of_mem _ hmem, hnone⟩

namespace TargetInfo

/-! ### The keys of the id -/

/-- The key that a member has in the listing of the protocol. -/
def retoldKey (key : String) : String :=
  if key = "id" then "targetId" else key

/-- The key that a member has in the listing of the discovery pages. -/
def plainKey (key : String) : String :=
  if key = "targetId" then "id" else key

/-- A description with the other key for its id. -/
def retold : Json → Json
  | .object members => .object (members.map fun m => (retoldKey m.1, m.2))
  | j => j

/-- A description in which no key is there twice, nor is one for the id beside the other. -/
def Distinct (j : Json) : Prop :=
  ∀ members, j = .object members → (members.map fun m => retoldKey m.1).Nodup

/-- The members of a description under the keys of the discovery pages. -/
def plainMembers (members : List (String × Json)) : List (String × Json) :=
  members.map fun m => (plainKey m.1, m.2)

variable {members more : List (String × Json)} {target : TargetInfo}

theorem retoldKey_plainKey (key : String) : retoldKey (plainKey key) = retoldKey key := by
  unfold plainKey
  split
  next h => rw [h]; rfl
  next => rfl

theorem plainKey_retoldKey (key : String) : plainKey (retoldKey key) = plainKey key := by
  unfold retoldKey
  split
  next h => rw [h]; rfl
  next => rfl

theorem plainMembers_retold (members : List (String × Json)) :
    plainMembers (members.map fun m => (retoldKey m.1, m.2)) = plainMembers members := by
  unfold plainMembers
  rw [List.map_map]
  refine List.map_congr_left ?_
  intro m _
  exact congrArg (·, m.2) (plainKey_retoldKey m.1)

theorem plainMembers_canonical (members : List (String × Json)) :
    plainMembers (Json.canonicalMembers members) = Json.canonicalMembers (plainMembers members) := by
  unfold plainMembers
  rw [Json.canonicalMembers_eq_map, Json.canonicalMembers_eq_map, List.map_map, List.map_map]
  rfl

theorem nodup_plainMembers (h : (members.map fun m => retoldKey m.1).Nodup) :
    ((plainMembers members).map Prod.fst).Nodup := by
  have hkeys : (members.map fun m => retoldKey m.1) =
      ((plainMembers members).map Prod.fst).map retoldKey := by
    unfold plainMembers
    rw [List.map_map, List.map_map]
    refine List.map_congr_left ?_
    intro m _
    exact (retoldKey_plainKey m.1).symm
  rw [hkeys] at h
  refine List.Pairwise.of_map retoldKey ?_ h
  intro key key' hne heq
  exact hne (congrArg retoldKey heq)

/-- A member is the id under either key. -/
theorem put_plainKey (key : String) (value : Json) (slots : Slots record.fields) :
    Slots.put (plainKey key) value record.fields slots =
      Slots.put key value record.fields slots := by
  by_cases hkey : key = "targetId"
  · subst hkey
    rfl
  · rw [plainKey, if_neg hkey]

theorem putAll_plainMembers (members : List (String × Json)) (slots : Slots record.fields) :
    Slots.putAll record.fields (plainMembers members) slots =
      Slots.putAll record.fields members slots := by
  induction members generalizing slots with
  | nil => rfl
  | cons m rest ih =>
    show (Slots.put (plainKey m.1) m.2 record.fields slots).bind _ =
      (Slots.put m.1 m.2 record.fields slots).bind _
    rw [put_plainKey]
    exact congrArg _ (funext ih)

/-- A description is read as if the id had its first key. -/
theorem decode_plainMembers (members : List (String × Json)) :
    decode (.object (plainMembers members)) = decode (.object members) := by
  show record.decode _ = record.decode _
  rw [record.decode_object_eq, record.decode_object_eq, putAll_plainMembers]

theorem lookup_plainMembers (members : List (String × Json)) :
    Json.lookup "targetId" (plainMembers members) = none := by
  refine Json.lookup_eq_none.mpr ?_
  intro m hm
  obtain ⟨m', -, rfl⟩ := List.mem_map.mp hm
  show plainKey m'.1 ≠ "targetId"
  unfold plainKey
  split
  next => decide
  next h => exact h

theorem decode_iff_plain (hnone : Json.lookup "targetId" members = none) :
    decode (.object members) = .ok target ↔ plainRecord.decode (.object members) = .ok target := by
  refine ⟨?_, decode_of_plain hnone⟩
  intro h
  obtain ⟨vs, ⟨slots, hput, hvalues⟩, rfl⟩ := record.decode_object_eq_ok.mp h
  have hput' := (Slots.putAll_orKey hnone (Slots.empty plainRecord.fields)).symm.trans hput
  have hvalues' : Slots.values plainRecord.fields slots = .ok vs :=
    (Slots.values_orKey (f := .required "id" TargetId.decode) slots).symm.trans hvalues
  exact plainRecord.decode_object_eq_ok.mpr ⟨vs, ⟨slots, hput', hvalues'⟩, rfl⟩

/-- What a description is read as is what each of its fields is read as. -/
theorem decode_eq_ok (h : ((plainMembers members).map Prod.fst).Nodup) :
    decode (.object members) = .ok target ↔ ∃ vs,
      Values.ReadFrom (plainMembers members) plainRecord.fields vs ∧
        plainRecord.make vs = target := by
  rw [← decode_plainMembers, decode_iff_plain (lookup_plainMembers members)]
  exact plainRecord.decode_object ⟨by decide, by decide⟩ h

/-! ### Retold descriptions -/

theorem orderless_plain : ∀ f ∈ plainRecord.fields, f.decode.Orderless := by
  intro f hf
  have htext := Decoder.Orderless.text
  simp only [plainRecord, List.mem_cons, List.not_mem_nil, or_false] at hf
  rcases hf with rfl | rfl | rfl | rfl | rfl
  · exact htext.map TargetId.mk
  · exact htext
  · exact htext
  · exact htext
  · exact htext.option

theorem orderless : ∀ f ∈ record.fields, f.decode.Orderless := by
  intro f hf
  rcases List.mem_cons.mp hf with rfl | hf
  · exact Decoder.Orderless.text.map TargetId.mk
  · exact orderless_plain f (List.mem_cons_of_mem _ hf)

/-- The order of the members makes no difference. -/
theorem decode_perm (hperm : members.Perm more)
    (h : ((plainMembers members).map Prod.fst).Nodup) :
    decode (.object members) = .ok target ↔ decode (.object more) = .ok target := by
  have hplain : (plainMembers members).Perm (plainMembers more) := hperm.map _
  rw [decode_eq_ok h, decode_eq_ok ((hplain.map Prod.fst).nodup_iff.mp h)]
  refine exists_congr ?_
  intro vs
  refine and_congr_left' (Values.readFrom_congr ?_)
  intro f _
  exact Json.lookup_of_perm hplain h f.name

theorem decode_canonicalMembers (h : ((plainMembers members).map Prod.fst).Nodup) :
    decode (.object (Json.canonicalMembers members)) = .ok target ↔
      decode (.object members) = .ok target := by
  have hkeys : ((plainMembers (Json.canonicalMembers members)).map Prod.fst).Nodup := by
    rw [plainMembers_canonical, Json.keys_canonicalMembers]
    exact h
  rw [decode_eq_ok h, decode_eq_ok hkeys, plainMembers_canonical]
  refine exists_congr ?_
  intro vs
  exact and_congr_left' (Values.readFrom_canonical orderless_plain _)

/-- A description is read the same when the protocol tells it, in whatever order. -/
theorem decode_canonical_retold {j : Json} (h : Distinct j) (target : TargetInfo) :
    decode (retold j).canonical = .ok target ↔ decode j = .ok target := by
  cases j with
  | object members =>
    have hkeys : ((plainMembers members).map Prod.fst).Nodup := nodup_plainMembers (h members rfl)
    have hretold : decode (retold (.object members)) = decode (.object members) := by
      rw [retold, ← decode_plainMembers, plainMembers_retold, decode_plainMembers]
    have hsorted : (Json.canonicalMembers (members.map fun m => (retoldKey m.1, m.2))).Perm
        (Json.sortMembers (Json.canonicalMembers (members.map fun m => (retoldKey m.1, m.2)))) := by
      refine (Json.perm_sortMembers ?_).symm
      rw [Json.keys_canonicalMembers, List.map_map]
      exact h members rfl
    rw [← hretold]
    show decode (.object (Json.sortMembers (Json.canonicalMembers _))) = _ ↔
      decode (.object _) = _
    rw [← decode_perm hsorted, decode_canonicalMembers]
    · rw [plainMembers_retold]
      exact hkeys
    · rw [plainMembers_canonical, Json.keys_canonicalMembers, plainMembers_retold]
      exact hkeys
  | array items =>
    show record.decode (.array (Json.canonicalItems items)) = _ ↔ record.decode _ = _
    rw [record.decode_array_eq_ok, record.decode_array_eq_ok, Json.canonicalItems_eq_map]
    refine exists_congr ?_
    intro vs
    exact and_congr_right' (Values.ofItems_canonical orderless 0 items)
  | null | bool | int | double | string => rfl

/-! ### Lists of descriptions -/

variable {items : List Json} {targets : List TargetInfo}

/-- Descriptions that read as targets, each as one. -/
def AreRead (items : List Json) (targets : List TargetInfo) : Prop :=
  items.map decode = targets.map .ok

/-- Descriptions read as targets, or one of them does not read. -/
theorem areRead_or (items : List Json) :
    (∃ targets, AreRead items targets) ∨ ∃ item ∈ items, ∀ target, decode item ≠ .ok target :=
  Decoder.all_or_one decode items

theorem AreRead.exists_of_mem (h : AreRead items targets) {item : Json} (hmem : item ∈ items) :
    ∃ target, decode item = .ok target := by
  have hdecoded : decode item ∈ targets.map Except.ok := h ▸ List.mem_map_of_mem hmem
  obtain ⟨target, -, htarget⟩ := List.mem_map.mp hdecoded
  exact ⟨target, htarget.symm⟩

theorem AreRead.unique {targets' : List TargetInfo} (h : AreRead items targets)
    (h' : AreRead items targets') : targets' = targets :=
  Except.ok.inj ((Decoder.items_eq_ok.mpr h').symm.trans (Decoder.items_eq_ok.mpr h))

/-- A list of descriptions is read the same when the protocol tells it. -/
theorem map_decode_retold (h : ∀ j ∈ items, Distinct j) :
    (items.map retold).map (decode ·.canonical) = targets.map .ok ↔ AreRead items targets := by
  unfold AreRead
  induction items generalizing targets with
  | nil => rfl
  | cons j rest ih =>
    have hrest : ∀ j ∈ rest, Distinct j := fun j hj => h j (List.mem_cons_of_mem _ hj)
    cases targets with
    | nil => simp
    | cons target targets =>
      simp only [List.map_cons, List.cons.injEq]
      exact and_congr (decode_canonical_retold (h j (List.mem_cons_self ..)) target) (ih hrest)

/-- The answer of the protocol reads as the targets that its descriptions read as. -/
theorem acknowledge_getTargets {members : List (String × Json)}
    (hkeys : (members.map Prod.fst).Nodup)
    (hinfos : ("targetInfos", .array (items.map retold)) ∈ members)
    (hitems : ∀ j ∈ items, Distinct j) :
    Command.getTargets.acknowledge (Json.object members).canonical = .ok targets ↔
      AreRead items targets := by
  have hfound := Json.lookup_canonical hkeys hinfos
  show (targetsReply (.object (Json.sortMembers (Json.canonicalMembers members)))).mapError
    Error.json = .ok targets ↔ _
  have hdecode : ((items.map retold).map Json.canonical).map decode =
      (items.map retold).map (decode ·.canonical) := List.map_map
  rw [mapError_eq_ok, ← map_decode_retold hitems, ← hdecode, ← Decoder.items_eq_ok,
    ← Json.canonicalItems_eq_map]
  refine (onlyField_eq_ok (Json.nodup_sortMembers _)).trans ?_
  constructor
  · rintro ⟨j, hj, hlist⟩
    obtain rfl := Option.some.inj (hj.symm.trans hfound)
    exact hlist
  · intro hlist
    exact ⟨_, hfound, hlist⟩

end TargetInfo

end PagePilot.Wire
