import PagePilot.Proofs.Connection.Stages
import PagePilot.Proofs.Positions
/-!
# PagePilot.Proofs.Connection.Requests

What the requests of a connection are at a position of a run, in terms of what happened
before it.

* `ids_eq_range`: ids were given out in order, none twice;
* `mem_parked_iff`: a request is parked when it was put there and nothing has taken it
  away since, and `parked_unique` that it is put there once;
* `replyTo?_eq_some_iff`: a request has an answer when one was taken in while it was
  parked.
-/

namespace PagePilot

open Wire

namespace Run

variable {r : Run} {task task' : TaskId} {i j k l m p : Nat} {id : Nat}

/-! ### Ids -/

variable (r) in
/-- The id that is given out at a position. -/
def allocated? (k : Nat) : Option Nat :=
  r.transitions[k]?.bind (r.world k).allocated?

variable (r) in
/-- The ids that are given out before a position, in order. -/
def ids (k : Nat) : List Nat :=
  (List.range k).filterMap r.allocated?

theorem allocated?_eq_some : r.allocated? k = some id ↔ ∃ task, r.Does k task .allocate id := by
  unfold allocated? Does deed?
  cases r.transitions[k]? with
  | none => simp
  | some t => exact World.allocated?_eq_some

/-- The next id is one more than the last one that was given out. -/
theorem nextId_succ :
    (r.world (k + 1)).connection.nextId =
      (r.world k).connection.nextId + (r.allocated? k).toList.length := by
  cases ht : r.transitions[k]? with
  | none => simp [world_succ_of_none ht, allocated?, ht]
  | some t =>
    rw [world_succ ht, World.apply_nextId]
    simp [allocated?, ht]

theorem eq_nextId_of_allocate (h : r.Does k task .allocate id) :
    id = (r.world k).connection.nextId := by
  obtain ⟨-, next, w', -, hp⟩ := h.spec
  cases hp
  rfl

theorem nextId_mono (hij : i ≤ j) :
    (r.world i).connection.nextId ≤ (r.world j).connection.nextId := by
  induction hij with
  | refl => exact Nat.le_refl _
  | step _ ih =>
    rw [nextId_succ]
    omega

/-- Ids are given out from zero on, one after the other. -/
theorem ids_eq_range (hr : r.Admissible) : r.ids k = List.range (r.world k).connection.nextId := by
  induction k with
  | zero =>
    obtain ⟨refused, network, hstart⟩ := hr.initial
    rw [world_zero, hstart]
    rfl
  | succ k ih =>
    unfold ids at ih ⊢
    rw [filterMap_range_succ, ih, nextId_succ]
    cases ha : r.allocated? k with
    | none => simp
    | some id =>
      obtain ⟨task, hdoes⟩ := allocated?_eq_some.mp ha
      simp [List.range_succ, eq_nextId_of_allocate hdoes]

theorem not_allocated_again (hkl : k < l) (hk : r.Does k task .allocate id) :
    ¬ r.Does l task' .allocate id := by
  intro hl
  have hsucc : (r.world (k + 1)).connection.nextId = id + 1 := by
    rw [nextId_succ, allocated?_eq_some.mpr ⟨task, hk⟩, ← eq_nextId_of_allocate hk]
    rfl
  have hmono := nextId_mono (r := r) hkl
  rw [hsucc, ← eq_nextId_of_allocate hl] at hmono
  exact Nat.not_succ_le_self id hmono

/-- An id is given out once. -/
theorem allocated_unique (hk : r.Does k task .allocate id) (hl : r.Does l task' .allocate id) :
    k = l := by
  refine eq_of_once (P := fun k => ∃ task, r.Does k task .allocate id) ?_ ⟨task, hk⟩ ⟨task', hl⟩
  rintro k l hkl ⟨task, hk⟩ ⟨task', hl⟩
  exact not_allocated_again hkl hk hl

/-- At a position one task does one thing. -/
theorem Does.task_eq {a a' : Act} {reply : a.Reply} {reply' : a'.Reply}
    (h : r.Does k task a reply) (h' : r.Does k task' a' reply') : task = task' :=
  congrArg Prod.fst (Option.some.inj (h.symm.trans h'))

/-! ### Parked requests -/

variable (r) in
/-- A request is parked at a position. -/
def Parks (k : Nat) (id : Nat) : Prop :=
  ∃ task, r.Does k task (.park id) ()

variable (r) in
/-- A request stops being parked at a position, if it was: its answer is taken in, its task
takes it back, or all are given up. -/
def Unparks (k : Nat) (id : Nat) : Prop :=
  (∃ response, r.Receives k response ∧ response.id = id) ∨
    (∃ task, r.Does k task (.unpark id) ()) ∨ r.Clears k

theorem mem_parked_succ :
    id ∈ (r.world (k + 1)).connection.parked ↔
      (id ∈ (r.world k).connection.parked ∧ ¬ r.Unparks k id) ∨ r.Parks k id := by
  unfold Unparks Parks Receives Does Clears incoming? deed?
  cases ht : r.transitions[k]? with
  | none => simp [world_succ_of_none ht]
  | some t =>
    rw [world_succ ht, World.mem_parked_apply]
    simp [World.Unparks]

/-- A request is parked when it was put there and nothing has taken it away since. -/
theorem mem_parked_iff (hr : r.Admissible) :
    id ∈ (r.world k).connection.parked ↔
      ∃ p < k, r.Parks p id ∧ ∀ l, p < l → l < k → ¬ r.Unparks l id := by
  induction k with
  | zero =>
    obtain ⟨refused, network, hstart⟩ := hr.initial
    rw [world_zero, hstart]
    simp [World.initial, Connection.fresh]
  | succ k ih =>
    rw [mem_parked_succ, ih]
    constructor
    · intro hparked
      rcases hparked with ⟨⟨p, hpk, hpark, hkept⟩, hk⟩ | hpark
      · refine ⟨p, by omega, hpark, ?_⟩
        intro l hpl hlk
        rcases Nat.lt_or_eq_of_le (Nat.lt_succ_iff.mp hlk) with hlk | rfl
        · exact hkept l hpl hlk
        · exact hk
      · exact ⟨k, Nat.lt_succ_self k, hpark, fun l hkl hlk => by omega⟩
    -- A request that is parked just now is there whatever came before.
    · rintro ⟨p, hpk, hpark, hkept⟩
      rcases Nat.lt_or_eq_of_le (Nat.lt_succ_iff.mp hpk) with hpk | rfl
      · exact .inl ⟨⟨p, hpk, hpark, fun l hpl hlk => hkept l hpl (by omega)⟩,
          hkept k hpk (Nat.lt_succ_self k)⟩
      · exact .inr hpark

theorem not_parked_again (hr : r.Admissible) (hkl : k < l) (hk : r.Parks k id) :
    ¬ r.Parks l id := by
  rintro ⟨task', hl⟩
  obtain ⟨task, hk⟩ := hk
  obtain ⟨m, hmk, hm, -⟩ := allocated_of_park hr hk
  obtain ⟨m', hml, hm', hquiet⟩ := allocated_of_park hr hl
  -- Both parkings follow the one allocation, so the first is a deed of the task between the
  -- allocation and the second.
  obtain rfl := allocated_unique hm hm'
  obtain rfl := hm.task_eq hm'
  exact not_does_of_quiet hquiet hmk hkl hk

/-- A request is parked once. -/
theorem parked_unique (hr : r.Admissible) (hk : r.Parks k id) (hl : r.Parks l id) : k = l :=
  eq_of_once (P := fun k => r.Parks k id) (fun _ _ => not_parked_again hr) hk hl

/-- What was taken away does not come back. -/
theorem not_mem_parked_of_unparks (hr : r.Admissible) (hp : r.Parks p id) (hpl : p < l)
    (hl : r.Unparks l id) (hlk : l < k) : id ∉ (r.world k).connection.parked := by
  intro hmem
  obtain ⟨p', -, hp', hkept⟩ := (mem_parked_iff hr).mp hmem
  obtain rfl := parked_unique hr hp hp'
  exact hkept l hpl hlk hl

/-! ### Answers -/

variable (r) in
/-- An answer is taken in at a position for a request that is parked. -/
def Answers (k : Nat) (id : Nat) (reply : Reply) : Prop :=
  ∃ response, r.Receives k response ∧ response.id = id ∧
    id ∈ (r.world k).connection.parked ∧ Connection.replyIn response = reply

theorem not_mem_parked_of_answers (hr : r.Admissible) {reply : Reply} (h : r.Answers l id reply)
    (hlk : l < k) : id ∉ (r.world k).connection.parked := by
  obtain ⟨response, hreceives, hid, hmem, -⟩ := h
  obtain ⟨p, hpl, hpark, -⟩ := (mem_parked_iff hr).mp hmem
  exact not_mem_parked_of_unparks hr hpark hpl (.inl ⟨response, hreceives, hid⟩) hlk

/-- The first answer counts, and there is only one. -/
theorem replyTo?_succ :
    (r.world (k + 1)).connection.replyTo? id =
      ((r.world k).connection.replyTo? id).or
        ((r.transitions[k]?.bind (r.world k).answered?).toList.lookup id) := by
  unfold Connection.replyTo?
  cases ht : r.transitions[k]? with
  | none => simp [world_succ_of_none ht]
  | some t =>
    rw [world_succ ht, World.apply_replies, List.lookup_append]
    rfl

theorem answers_iff {reply : Reply} :
    r.Answers k id reply ↔
      (r.transitions[k]?.bind (r.world k).answered?).toList.lookup id = some reply := by
  unfold Answers Receives incoming?
  cases r.transitions[k]? with
  | none => simp
  | some t =>
    rw [Option.bind_some, Option.bind_some, ← World.answered?_eq_some]
    cases (r.world k).answered? t with
    | none => simp
    | some answer =>
      obtain ⟨id', reply'⟩ := answer
      by_cases h : id' = id
      · simp [h]
      · simp [h, List.lookup_cons, beq_false_of_ne (Ne.symm h)]

/-- A request has the answer that was taken in while it was parked. -/
theorem replyTo?_eq_some_iff (hr : r.Admissible) {reply : Reply} :
    (r.world k).connection.replyTo? id = some reply ↔ ∃ d < k, r.Answers d id reply := by
  induction k generalizing reply with
  | zero =>
    obtain ⟨refused, network, hstart⟩ := hr.initial
    rw [world_zero, hstart]
    simp [World.initial, Connection.fresh, Connection.replyTo?]
  | succ k ih =>
    rw [replyTo?_succ, Nat.exists_lt_succ_right, ← ih, answers_iff]
    cases hk : (r.world k).connection.replyTo? id with
    | none => simp
    | some reply' =>
      -- What has an answer is not parked, and gets no second one.
      obtain ⟨d, hdk, hd⟩ := ih.mp hk
      have hnone : ¬ r.Answers k id reply := fun ⟨_, _, _, hmem, _⟩ =>
        not_mem_parked_of_answers hr hd hdk hmem
      simp [← answers_iff, hnone]

/-! ### The end of the connection -/

theorem closed_succ :
    (r.world (k + 1)).connection.closed = true ↔
      (r.world k).connection.closed = true ∨ r.Closes k := by
  unfold Closes
  cases ht : r.transitions[k]? with
  | none => simp [world_succ_of_none ht]
  | some t =>
    rw [world_succ ht, World.apply_closed]
    simp

/-- A connection that is closed stays closed. -/
theorem closed_mono (hij : i ≤ j) (h : (r.world i).connection.closed = true) :
    (r.world j).connection.closed = true :=
  induction (P := fun w => w.connection.closed = true) hij h fun _ _ _ _ hk =>
    (World.apply_closed ..).mpr (.inl hk)

theorem closed_iff_reading (hr : r.Admissible) :
    (r.world k).connection.closed = true ↔
      (r.world k).inbound.reading = .closing ∨ (r.world k).inbound.reading = .ended := by
  refine induction (P := fun w => w.connection.closed = true ↔
    w.inbound.reading = .closing ∨ w.inbound.reading = .ended) (Nat.zero_le k) ?_ ?_
  · obtain ⟨refused, network, hstart⟩ := hr.initial
    rw [world_zero, hstart]
    simp [World.initial, Connection.fresh, Inbound.fresh]
  · intro k t _ ht hk
    refine World.closed_iff_reading_apply ?_ hk
    rintro rfl
    exact hr.step k _ ht

theorem ended_iff (hr : r.Admissible) :
    (r.world k).inbound.reading = .ended ↔ ∃ c < k, r.Clears c := by
  induction k with
  | zero =>
    obtain ⟨refused, network, hstart⟩ := hr.initial
    rw [world_zero, hstart]
    simp [World.initial, Inbound.fresh]
  | succ k ih =>
    rw [Nat.exists_lt_succ_right, ← ih]
    unfold Clears
    cases ht : r.transitions[k]? with
    | none => simp [world_succ_of_none ht]
    | some t =>
      rw [world_succ ht, World.apply_reading_ended]
      simp

/-- The waiting requests are given up only when the connection is marked as closed. -/
theorem closed_of_clears (hr : r.Admissible) (h : r.Clears k) :
    (r.world k).connection.closed = true := by
  obtain ⟨t, -, -, hclosing⟩ := h
  exact (closed_iff_reading hr).mpr (.inl hclosing)

end Run

end PagePilot
