import PagePilot.Json.Basic
/-!
# PagePilot.Proofs.Json.Members

Members put into key order. Insertion changes what is under the inserted key and nothing else
(`Json.lookup_insertMember`), so the order of the keys does not matter for a lookup: it finds
the last of the members that were given (`Json.lookup_sortMembers`). No key is there twice
(`Json.nodup_sortMembers`), since the keys ascend.
-/

namespace PagePilot.Json

variable {key : String} {value : Json} {members : List (String × Json)}

/-! ### Lookups -/

@[simp]
theorem lookup_nil (key : String) : lookup key [] = none := rfl

@[simp]
theorem lookup_cons (key k : String) (value : Json) (members : List (String × Json)) :
    lookup key ((k, value) :: members) = if k = key then some value else lookup key members := rfl

@[simp]
theorem lookup_append (key : String) (members more : List (String × Json)) :
    lookup key (members ++ more) = (lookup key members).or (lookup key more) := by
  induction members with
  | nil => rfl
  | cons m rest ih =>
    obtain ⟨k, v⟩ := m
    by_cases h : k = key
    · simp [lookup, h]
    · simp [lookup, h, ih]

theorem lookup_eq_none : lookup key members = none ↔ ∀ m ∈ members, m.1 ≠ key := by
  induction members with
  | nil => simp [lookup]
  | cons m rest ih =>
    obtain ⟨k, v⟩ := m
    by_cases h : k = key <;> simp [lookup, h, ih]

theorem lookup_insertMember (key k : String) (value : Json) (members : List (String × Json)) :
    lookup key (insertMember k value members) =
      if k = key then some value else lookup key members := by
  induction members with
  | nil => rfl
  | cons m rest ih =>
    obtain ⟨k', v⟩ := m
    simp only [insertMember]
    split
    · rfl
    · split
      · -- The new member stands for the one with the same key.
        rename_i heq
        subst heq
        by_cases h : k' = key <;> simp [lookup, h]
      · rename_i hne
        simp only [lookup, ih]
        by_cases h : k' = key
        · have hk : k ≠ key := fun heq => hne (h.trans heq.symm)
          simp [h, hk]
        · simp [h]

@[simp]
theorem lookup_sortMembers (key : String) (members : List (String × Json)) :
    lookup key (sortMembers members) = lookup key members.reverse := by
  have hfold : ∀ sorted, lookup key (members.foldl (fun sorted m => insertMember m.1 m.2 sorted)
      sorted) = (lookup key members.reverse).or (lookup key sorted) := by
    induction members with
    | nil => exact fun _ => rfl
    | cons m rest ih =>
      intro sorted
      rw [List.foldl_cons, ih, lookup_insertMember, List.reverse_cons, lookup_append,
        Option.or_assoc]
      by_cases h : m.1 = key <;> simp [lookup, h]
  rw [sortMembers, hfold, lookup, Option.or_none]

/-- A member that may be left out is found when it is there. -/
@[simp]
theorem lookup_reverse_member? (key name : String) (encode : α → Json) (o : Option α) :
    lookup key (member? name encode o).reverse = if name = key then o.map encode else none := by
  cases o with
  | none => simp [member?]
  | some a => simp [member?]

/-! ### Keys -/

theorem mem_keys_insertMember {k : String} :
    k ∈ (insertMember key value members).map Prod.fst ↔ k = key ∨ k ∈ members.map Prod.fst := by
  induction members with
  | nil => simp [insertMember]
  | cons m rest ih =>
    obtain ⟨k', v⟩ := m
    simp only [insertMember]
    split
    · simp
    · split
      · rename_i heq
        simp [heq]
      · rw [List.map_cons, List.mem_cons, ih, List.map_cons, List.mem_cons]
        exact or_left_comm

theorem pairwise_insertMember (h : (members.map Prod.fst).Pairwise (· < ·)) :
    ((insertMember key value members).map Prod.fst).Pairwise (· < ·) := by
  induction members with
  | nil => exact List.pairwise_singleton ..
  | cons m rest ih =>
    obtain ⟨k, v⟩ := m
    obtain ⟨hk, hrest⟩ := List.pairwise_cons.mp h
    simp only [insertMember]
    split
    · rename_i hlt
      refine List.pairwise_cons.mpr ⟨fun k' hk' => ?_, h⟩
      rcases List.mem_cons.mp hk' with rfl | hk'
      · exact hlt
      · exact String.lt_trans hlt (hk k' hk')
    · split
      · rename_i heq
        exact List.pairwise_cons.mpr ⟨heq ▸ hk, hrest⟩
      · rename_i hnlt hne
        refine List.pairwise_cons.mpr ⟨fun k' hk' => ?_, ih hrest⟩
        rcases mem_keys_insertMember.mp hk' with rfl | hk'
        · exact Std.lt_of_le_of_ne hnlt hne
        · exact hk k' hk'

theorem pairwise_sortMembers (members : List (String × Json)) :
    ((sortMembers members).map Prod.fst).Pairwise (· < ·) := by
  have hfold : ∀ sorted : List (String × Json), (sorted.map Prod.fst).Pairwise (· < ·) →
      ((members.foldl (fun sorted m => insertMember m.1 m.2 sorted) sorted).map
        Prod.fst).Pairwise (· < ·) := by
    induction members with
    | nil => exact fun _ h => h
    | cons m rest ih => exact fun sorted h => ih _ (pairwise_insertMember h)
  exact hfold [] List.Pairwise.nil

theorem nodup_sortMembers (members : List (String × Json)) :
    ((sortMembers members).map Prod.fst).Nodup :=
  (pairwise_sortMembers members).imp fun {a b} (hlt : a < b) (heq : a = b) =>
    String.lt_irrefl b (heq ▸ hlt)

end PagePilot.Json
