import PagePilot.Wire.Frame
/-!
# PagePilot.Proofs.Wire.FrameTree

The reader of frame trees is given a bound on the nesting. The depth of a value is always bound
enough, so the reader is one record whose trees below are read by the reader itself
(`FrameTree.decode_eq`); proofs open it in this form.
-/

namespace PagePilot

namespace Json

theorem depth_le_depthOfItems {j : Json} {items : List Json} (h : j ∈ items) :
    j.depth ≤ depthOfItems items := by
  induction items with
  | nil => cases h
  | cons i rest ih =>
    rw [depthOfItems]
    rcases List.mem_cons.mp h with rfl | h
    · exact Nat.le_max_left ..
    · exact Nat.le_trans (ih h) (Nat.le_max_right ..)

theorem depth_le_depthOfMembers {m : String × Json} {members : List (String × Json)}
    (h : m ∈ members) : m.2.depth ≤ depthOfMembers members := by
  induction members with
  | nil => cases h
  | cons n rest ih =>
    rw [depthOfMembers]
    rcases List.mem_cons.mp h with rfl | h
    · exact Nat.le_max_left ..
    · exact Nat.le_trans (ih h) (Nat.le_max_right ..)

end Json

namespace Wire

theorem Decoder.items_congr {d d' : Decoder α} {items : List Json} (h : ∀ j ∈ items, d j = d' j) :
    Decoder.items d items = Decoder.items d' items := by
  induction items with
  | nil => rfl
  | cons j rest ih =>
    rw [Decoder.items, Decoder.items, h j (List.mem_cons_self ..),
      ih fun j hj => h j (List.mem_cons_of_mem _ hj)]

namespace FrameTree

variable {child child' : Decoder FrameTree}

/-- Two readers of trees that agree on all values nested less deep than `n`. -/
def AgreeBelow (n : Nat) (child child' : Decoder FrameTree) : Prop :=
  ∀ j : Json, j.depth < n → child j = child' j

theorem AgreeBelow.list {n : Nat} (h : AgreeBelow n child child') {j : Json} (hj : j.depth ≤ n) :
    Decoder.list child j = Decoder.list child' j := by
  cases j with
  | array items =>
    refine Decoder.items_congr fun i hi => h i ?_
    exact Nat.lt_of_lt_of_le (Nat.lt_succ_of_le (Json.depth_le_depthOfItems hi)) hj
  | _ => rfl

theorem put_congr {value : Json} (h : Decoder.list child value = Decoder.list child' value)
    (key : String) (slots : Slots (record child).fields) :
    Slots.put key value (record child).fields slots =
      Slots.put key value (record child').fields slots := by
  obtain ⟨frame, children, ⟨⟩⟩ := slots
  by_cases hframe : key = "frame"
  · simp only [record, Slots.put, Field.knows, Field.required, hframe]
    cases frame <;> rfl
  · simp only [record, Slots.put, Field.knows, Field.required, Field.defaulted, hframe, h]
    cases children <;> rfl

theorem putAll_congr {members : List (String × Json)}
    (h : ∀ m ∈ members, Decoder.list child m.2 = Decoder.list child' m.2)
    (slots : Slots (record child).fields) :
    Slots.putAll (record child).fields members slots =
      Slots.putAll (record child').fields members slots := by
  induction members generalizing slots with
  | nil => rfl
  | cons m rest ih =>
    obtain ⟨key, value⟩ := m
    have hput := put_congr (h (key, value) (List.mem_cons_self ..)) key slots
    have hrest := ih fun m hm => h m (List.mem_cons_of_mem _ hm)
    show (Slots.put key value (record child).fields slots).bind
        (Slots.putAll (record child).fields rest) =
      (Slots.put key value (record child').fields slots).bind
        (Slots.putAll (record child').fields rest)
    rw [hput]
    exact congrArg _ (funext hrest)

theorem values_congr (slots : Slots (record child).fields) :
    Slots.values (record child).fields slots = Slots.values (record child').fields slots := by
  obtain ⟨frame, children, ⟨⟩⟩ := slots
  cases frame <;> cases children <;> rfl

theorem ofItems_congr {items : List Json}
    (h : ∀ j ∈ items, Decoder.list child j = Decoder.list child' j)
    (short : Nat → DecodeError) (position : Nat) :
    Values.ofItems short (record child).fields position items =
      Values.ofItems short (record child').fields position items := by
  match items with
  | [] | [_] => rfl
  | i :: j :: rest =>
    simp [record, Values.ofItems, Field.required, Field.defaulted, h j (by simp)]

/-- A reader of trees below is asked only for values inside the one that is read. -/
theorem AgreeBelow.decode {j : Json} (h : AgreeBelow (j.depth - 1) child child') :
    (record child).decode j = (record child').decode j := by
  cases j with
  | object members =>
    have hmembers : ∀ m ∈ members, Decoder.list child m.2 = Decoder.list child' m.2 :=
      fun m hm => h.list (Json.depth_le_depthOfMembers hm)
    have hput := putAll_congr hmembers (Slots.empty (record child).fields)
    show (Slots.putAll (record child).fields members (Slots.empty (record child).fields)).bind _ =
      (Slots.putAll (record child').fields members (Slots.empty (record child).fields)).bind _
    rw [← hput]
    cases Slots.putAll (record child).fields members (Slots.empty (record child).fields) with
    | error e => rfl
    | ok slots =>
      exact congrArg (Except.bind · fun values => .ok ((record child).make values))
        (values_congr slots)
  | array items =>
    have hitems : ∀ j ∈ items, Decoder.list child j = Decoder.list child' j :=
      fun j hj => h.list (Json.depth_le_depthOfItems hj)
    simp only [Record.decode]
    rw [ofItems_congr hitems]
    rfl
  | _ => rfl

/-- Two bounds make no difference for a value that is nested less deep than either. -/
theorem agreeBelow_decodeWithin (bound more : Nat) :
    AgreeBelow (bound + 1) (decodeWithin bound) (decodeWithin (bound + more)) := by
  induction bound with
  | zero =>
    intro j hj
    have hscalar : AgreeBelow (j.depth - 1) (fun j => .error (.invalidType (.of j)
        (.record "FrameTree"))) (decodeWithin (more - 1)) := fun i hi => by omega
    cases more with
    | zero => rfl
    | succ more => simpa [decodeWithin] using hscalar.decode
  | succ bound ih =>
    intro j hj
    rw [Nat.add_right_comm]
    exact AgreeBelow.decode fun i hi => ih i (by omega)

/-- A tree is a record whose trees below are read as trees. -/
theorem decode_eq (j : Json) : decode j = (record decode).decode j := by
  have hagree : AgreeBelow (j.depth - 1) (decodeWithin (j.depth - 1)) decode := by
    intro i hi
    have h := agreeBelow_decodeWithin i.depth (j.depth - 1 - i.depth) i (Nat.lt_succ_self _)
    rw [Nat.add_sub_cancel' (by omega)] at h
    exact h.symm
  rw [← hagree.decode]
  cases hdepth : j.depth with
  | zero =>
    rw [decode, hdepth]
    exact AgreeBelow.decode fun i hi => by omega
  | succ depth =>
    rw [decode, hdepth]
    rfl

end FrameTree

end Wire

end PagePilot
