import PagePilot.Proofs.Json.Members
/-!
# PagePilot.Proofs.Json.Canonical

What is left of a value in key order. Where no key is there twice nothing is lost but the order
(`Json.perm_sortMembers`), and a lookup does not depend on that (`Json.lookup_of_perm`).
-/

namespace PagePilot.Json

variable {key : String} {value : Json} {members more : List (String × Json)}

/-! ### Order -/

theorem perm_insertMember (h : key ∉ members.map Prod.fst) :
    (insertMember key value members).Perm ((key, value) :: members) := by
  induction members with
  | nil => exact .refl _
  | cons m rest ih =>
    obtain ⟨k, v⟩ := m
    rw [List.map_cons, List.mem_cons, not_or] at h
    obtain ⟨hne, hrest⟩ := h
    simp only [insertMember]
    split
    · exact .refl _
    · rw [if_neg (Ne.symm hne)]
      exact ((ih hrest).cons _).trans (.swap ..)

theorem perm_sortMembers (h : (members.map Prod.fst).Nodup) :
    (sortMembers members).Perm members := by
  have hfold : ∀ sorted : List (String × Json), ((sorted ++ members).map Prod.fst).Nodup →
      (members.foldl (fun sorted m => insertMember m.1 m.2 sorted) sorted).Perm
        (sorted ++ members) := by
    clear h
    induction members with
    | nil =>
      intro sorted _
      rw [List.append_nil]
      exact .refl _
    | cons m rest ih =>
      intro sorted hkeys
      obtain ⟨k, v⟩ := m
      have hswap : (sorted ++ (k, v) :: rest).Perm ((k, v) :: sorted ++ rest) :=
        List.perm_middle
      have hfront : (((k, v) :: sorted ++ rest).map Prod.fst).Nodup :=
        (hswap.map Prod.fst).nodup_iff.mp hkeys
      have hnew : k ∉ sorted.map Prod.fst := by
        intro hk
        refine (List.nodup_cons.mp hfront).1 ?_
        exact (List.Sublist.map Prod.fst (List.sublist_append_left sorted rest)).mem hk
      have hinsert : (insertMember k v sorted ++ rest).Perm ((k, v) :: sorted ++ rest) :=
        (perm_insertMember hnew).append_right rest
      have hrest := ih (insertMember k v sorted) ((hinsert.map Prod.fst).nodup_iff.mpr hfront)
      exact hrest.trans (hinsert.trans hswap.symm)
  exact hfold [] h

/-- Where no key is there twice, a lookup finds exactly the members. -/
theorem lookup_eq_some (h : (members.map Prod.fst).Nodup) :
    lookup key members = some value ↔ (key, value) ∈ members := by
  induction members with
  | nil => simp
  | cons m rest ih =>
    obtain ⟨k, v⟩ := m
    obtain ⟨hnew, hrest⟩ := List.nodup_cons.mp h
    rw [lookup_cons, List.mem_cons]
    by_cases hk : k = key
    · subst hk
      have hnot : (k, value) ∉ rest := by
        intro hmem
        exact hnew (List.mem_map.mpr ⟨_, hmem, rfl⟩)
      simp [hnot, eq_comm]
    · rw [if_neg hk, ih hrest]
      simp [Ne.symm hk]

theorem lookup_of_perm (hperm : members.Perm more) (h : (members.map Prod.fst).Nodup)
    (key : String) : lookup key members = lookup key more := by
  refine Option.ext ?_
  intro value
  rw [lookup_eq_some h, lookup_eq_some ((hperm.map Prod.fst).nodup_iff.mp h), hperm.mem_iff]

/-! ### Canonical values -/

theorem canonicalItems_eq_map (items : List Json) : canonicalItems items = items.map canonical := by
  induction items with
  | nil => rfl
  | cons j rest ih => rw [canonicalItems, ih, List.map_cons]

theorem canonicalMembers_eq_map (members : List (String × Json)) :
    canonicalMembers members = members.map fun m => (m.1, m.2.canonical) := by
  induction members with
  | nil => rfl
  | cons m rest ih => rw [canonicalMembers, ih, List.map_cons]

theorem keys_canonicalMembers (members : List (String × Json)) :
    (canonicalMembers members).map Prod.fst = members.map Prod.fst := by
  rw [canonicalMembers_eq_map, List.map_map]
  rfl

theorem lookup_canonicalMembers (key : String) (members : List (String × Json)) :
    lookup key (canonicalMembers members) = (lookup key members).map canonical := by
  induction members with
  | nil => rfl
  | cons m rest ih =>
    obtain ⟨k, v⟩ := m
    rw [canonicalMembers, lookup_cons, lookup_cons, ih]
    split <;> rfl

/-- A member of an object whose keys are distinct is a member of its canonical form, in canonical
form itself. -/
theorem lookup_canonical (h : (members.map Prod.fst).Nodup) (hmem : (key, value) ∈ members) :
    lookup key (sortMembers (canonicalMembers members)) = some value.canonical := by
  have hkeys : ((canonicalMembers members).map Prod.fst).Nodup := by
    rw [keys_canonicalMembers]
    exact h
  have hsorted := perm_sortMembers hkeys
  rw [lookup_of_perm hsorted ((hsorted.map Prod.fst).nodup_iff.mpr hkeys),
    lookup_canonicalMembers, (lookup_eq_some h).mpr hmem]
  rfl

end PagePilot.Json
