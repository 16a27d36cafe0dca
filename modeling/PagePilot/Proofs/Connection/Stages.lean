import PagePilot.Proofs.Machine.Run
/-!
# PagePilot.Proofs.Connection.Stages

Where each task of a run stands in the send that it does. The stage of a task is read off
its deeds, and its program follows that stage (`follows_stage`). So a stage tells what
the task has done last: a task that waits for an answer has, one after the other and
with no deed of its own between, been given its id, parked it, found the connection still
open, and written its request.

From that follows what the requests of a connection rest on: an id is given out once
(`allocated_unique`) and parked once (`parked_unique`).
-/

namespace PagePilot

open Wire

/-- The stage in which an act that belongs to the exchange of a request is done. -/
def Act.stage? : Act → Option Stage
  | .allocate => some .admitted
  | .park id => some (.numbered id)
  | .unpark id => some (.yielding id)
  | .write request => some (.writing request.id)
  | .awaitReply _ id => some (.awaiting id)
  | _ => none

namespace Stage

/-- The request that is underway and was parked. -/
def held? : Stage → Option Nat
  | .parked id | .yielding id | .writing id | .awaiting id => some id
  | _ => none

theorem eq_of_allows {s s' : Stage} {a : Act} (h : s.Allows a) (ha : a.stage? = some s') :
    s = s' := by
  cases s with
  | idle =>
    have h : a.ofExchange = false := h
    cases a
    case allocate | park | unpark | write | awaitReply => cases h
    all_goals cases ha
  | admitted =>
    cases h
    exact Option.some.inj ha
  | numbered id | yielding id =>
    cases h
    exact Option.some.inj ha
  | parked id =>
    cases h
    cases ha
  | writing id =>
    obtain ⟨request, rfl, rfl⟩ := h
    exact Option.some.inj ha
  | awaiting id =>
    obtain ⟨ctx, rfl⟩ := h
    exact Option.some.inj ha

/-- The deeds that bring a program from one stage of a send to the next. -/
inductive Enters : Stage → Deed → Stage → Prop
  | admitted : Enters .idle ⟨.isClosed, false⟩ .admitted
  | number (id : Nat) : Enters .admitted ⟨.allocate, id⟩ (.numbered id)
  | park (id : Nat) : Enters (.numbered id) ⟨.park id, ()⟩ (.parked id)
  | turnBack (id : Nat) : Enters (.parked id) ⟨.isClosed, true⟩ (.yielding id)
  | goOn (id : Nat) : Enters (.parked id) ⟨.isClosed, false⟩ (.writing id)
  | fail (request : Request) (e : Error) :
      Enters (.writing request.id) ⟨.write request, .error e⟩ (.yielding request.id)
  | write (request : Request) :
      Enters (.writing request.id) ⟨.write request, .ok ()⟩ (.awaiting request.id)

/-- Only these deeds lead to a stage of a send. -/
theorem enters_of_after {s : Stage} {d : Deed} (hd : s.Allows d.act) (h : s.after d ≠ .idle) :
    Enters s d (s.after d) := by
  obtain ⟨a, reply⟩ := d
  cases s with
  | idle =>
    cases a
    case isClosed =>
      cases reply with
      | false => exact .admitted
      | true => exact absurd rfl h
    all_goals exact absurd rfl h
  | admitted =>
    obtain rfl : a = .allocate := hd
    exact .number reply
  | numbered id =>
    obtain rfl : a = .park id := hd
    exact .park id
  | parked id =>
    obtain rfl : a = .isClosed := hd
    cases reply with
    | false => exact .goOn id
    | true => exact .turnBack id
  | yielding id => exact absurd rfl h
  | writing id =>
    obtain ⟨request, rfl, rfl⟩ : ∃ r : Request, a = .write r ∧ r.id = id := hd
    cases reply with
    | error e => exact .fail request e
    | ok _ => exact .write request
  | awaiting id => exact absurd rfl h

end Stage

namespace Run

variable {r : Run} {task task' : TaskId} {i j k l m : Nat} {id : Nat}

/-! ### Tasks come from spawning -/

/-- A task that is not there has done nothing. -/
theorem deeds_eq_nil_of_no_task (h : (r.world k).tasks[task]? = none) :
    r.deeds task 0 k = [] := by
  refine List.eq_nil_iff_forall_not_mem.mpr ?_
  intro d hd
  obtain ⟨m, -, hmk, hdoes⟩ := mem_deeds.mp hd
  obtain ⟨-, next, w', htask, -⟩ := hdoes.spec
  obtain ⟨state, hstate⟩ := task_mono (Nat.le_of_lt hmk) htask
  rw [h] at hstate
  cases hstate

/-- A task that is there was started once, and has gone along its program since. -/
theorem spawned_of_task (hr : r.Admissible) {state : Task}
    (h : (r.world k).tasks[task]? = some state) :
    ∃ p, .spawn p ∈ r.transitions ∧ p.Orderly (fun _ => True) ∧
      state.After p (r.deeds task 0 k) := by
  induction k generalizing state with
  | zero =>
    obtain ⟨refused, network, hstart⟩ := hr.initial
    rw [world_zero, hstart] at h
    cases h
  | succ k ih =>
    cases hk : (r.world k).tasks[task]? with
    | some state' =>
      obtain ⟨p, hspawn, hp, hafter⟩ := ih hk
      obtain ⟨state'', h'', hnext⟩ := task_succ hk
      obtain rfl : state'' = state := Option.some.inj (h''.symm.trans h)
      exact ⟨p, hspawn, hp, deeds_succ (Nat.zero_le k) ▸ hnext p _ hafter⟩
    | none =>
      cases ht : r.transitions[k]? with
      | none =>
        rw [world_succ_of_none ht, hk] at h
        cases h
      | some t =>
        rw [world_succ ht] at h
        obtain ⟨p, rfl, rfl, rfl⟩ := World.spawn_of_apply hk h
        have horderly : p.Orderly (r.world k).IsContext := hr.step k _ ht
        -- The task is started just now, so it has done nothing yet.
        have hnot : ∀ d : Deed, ¬ r.Does k (r.world k).tasks.length d.act d.reply := by
          intro d hd
          obtain ⟨-, next, w', htask, -⟩ := hd.spec
          rw [hk] at htask
          cases htask
        refine ⟨p, List.mem_of_getElem? ht, ?_, ?_⟩
        · exact ⟨horderly.follows, horderly.within.mono fun _ _ => trivial⟩
        · rw [deeds_succ_of_not (Nat.zero_le k) hnot, deeds_eq_nil_of_no_task hk]
          exact .nil p

/-! ### Stages -/

variable (r) in
/-- Where a task stands in the send that it does. -/
def stage (task : TaskId) (k : Nat) : Stage :=
  (r.deeds task 0 k).foldl Stage.after .idle

theorem stage_zero : r.stage task 0 = .idle := by
  simp [stage, deeds_self]

theorem stage_succ_of_does {a : Act} {reply : a.Reply} (h : r.Does k task a reply) :
    r.stage task (k + 1) = (r.stage task k).after ⟨a, reply⟩ := by
  unfold stage
  rw [deeds_succ_of_does (d := ⟨a, reply⟩) (Nat.zero_le k) h, List.foldl_append]
  rfl

theorem stage_of_quiet (hij : i ≤ j) (h : r.deeds task i j = []) :
    r.stage task j = r.stage task i := by
  unfold stage
  rw [deeds_append (Nat.zero_le i) hij, h, List.append_nil]

/-- What is left of a task follows its stage. -/
theorem follows_stage (hr : r.Admissible) {q : Program Outcome}
    (h : (r.world k).tasks[task]? = some (.running q)) : q.Follows (r.stage task k) := by
  obtain ⟨p, -, hp, hafter⟩ := spawned_of_task hr h
  exact hp.follows.leads hafter

/-- A task does what its stage allows. -/
theorem allows_of_does (hr : r.Admissible) {a : Act} {reply : a.Reply}
    (h : r.Does k task a reply) : (r.stage task k).Allows a := by
  obtain ⟨-, next, w', htask, -⟩ := h.spec
  exact (follows_stage hr htask).1

/-- An act of a send is done only in its stage. -/
theorem stage_of_does (hr : r.Admissible) {a : Act} {reply : a.Reply} {s : Stage}
    (h : r.Does k task a reply) (ha : a.stage? = some s) : r.stage task k = s :=
  Stage.eq_of_allows (allows_of_does hr h) ha

/-- A task that stands in a send got there by the last thing that it did. -/
theorem entered (hr : r.Admissible) {s : Stage} (h : r.stage task k = s) (hs : s ≠ .idle) :
    ∃ m < k, ∃ s₀ d, r.stage task m = s₀ ∧ Stage.Enters s₀ d s ∧ r.Does m task d.act d.reply ∧
      r.deeds task (m + 1) k = [] := by
  induction k with
  | zero => exact absurd (h.symm.trans stage_zero) hs
  | succ k ih =>
    cases hd : r.deedOf? task k with
    | some d =>
      have hdoes := deedOf?_eq_some.mp hd
      have hafter := (stage_succ_of_does hdoes).symm.trans h
      refine ⟨k, Nat.lt_succ_self k, _, d, rfl, ?_, hdoes, deeds_self⟩
      rw [← hafter] at hs ⊢
      exact Stage.enters_of_after (allows_of_does hr hdoes) hs
    | none =>
      have hquiet : r.deeds task k (k + 1) = [] := by simp [deeds_succ, deeds_self, hd]
      rw [stage_of_quiet (Nat.le_succ k) hquiet] at h
      obtain ⟨m, hmk, s₀, d, h₀, henters, hdoes, hrest⟩ := ih h
      refine ⟨m, by omega, s₀, d, h₀, henters, hdoes, ?_⟩
      rw [deeds_append hmk (Nat.le_succ k), hrest, hquiet]
      rfl

/-! ### How a task got to its stage -/

/-- A request is parked under the id that was given out just before. -/
theorem allocated_of_park (hr : r.Admissible) (h : r.Does k task (.park id) ()) :
    ∃ m < k, r.Does m task .allocate id ∧ r.deeds task (m + 1) k = [] := by
  obtain ⟨m, hmk, s₀, d, -, henters, hdoes, hrest⟩ := entered hr (stage_of_does hr h rfl) nofun
  cases henters
  exact ⟨m, hmk, hdoes, hrest⟩

/-- A task that is about to write has found the connection open after parking its
request. -/
theorem looked_of_writing (hr : r.Admissible) (h : r.stage task k = .writing id) :
    ∃ m < k, r.Does m task .isClosed false ∧ r.stage task m = .parked id := by
  obtain ⟨m, hmk, s₀, d, h₀, henters, hdoes, -⟩ := entered hr h nofun
  cases henters
  exact ⟨m, hmk, hdoes, h₀⟩

/-- A task that waits for an answer has written its request. -/
theorem written_of_awaiting (hr : r.Admissible) (h : r.stage task k = .awaiting id) :
    ∃ m < k, ∃ request : Request, request.id = id ∧ r.Does m task (.write request) (.ok ()) ∧
      r.stage task m = .writing id := by
  obtain ⟨m, hmk, s₀, d, h₀, henters, hdoes, -⟩ := entered hr h nofun
  cases henters
  exact ⟨m, hmk, _, rfl, hdoes, h₀⟩

/-- A request is taken back only when the connection was found closed after the parking,
or when the writing failed. -/
theorem yields_of_yielding (hr : r.Admissible) (h : r.stage task k = .yielding id) :
    ∃ m < k, (r.Does m task .isClosed true ∧ r.stage task m = .parked id ∨
      ∃ (request : Request) (e : Error), request.id = id ∧
        r.Does m task (.write request) (.error e) ∧ r.stage task m = .writing id) := by
  obtain ⟨m, hmk, s₀, d, h₀, henters, hdoes, -⟩ := entered hr h nofun
  cases henters with
  | turnBack => exact ⟨m, hmk, .inl ⟨hdoes, h₀⟩⟩
  | fail request e => exact ⟨m, hmk, .inr ⟨request, e, rfl, hdoes, h₀⟩⟩

/-! ### Requests that are underway -/

/-- Since a request that is underway was parked, its task has been at nothing else. -/
theorem held (hr : r.Admissible) {s : Stage} (h : r.stage task k = s) (hs : s.held? = some id) :
    ∃ p < k, r.Does p task (.park id) () ∧
      ∀ l, p < l → l ≤ k → (r.stage task l).held? = some id := by
  -- Back to the deed that led to the stage: it was the parking, or the request was underway before.
  induction k using Nat.strongRecOn generalizing s with
  | ind k ih =>
    obtain ⟨m, hmk, s₀, d, h₀, henters, hdoes, hquiet⟩ :=
      entered hr h (by rintro rfl; cases hs)
    have hsince : ∀ l, m < l → l ≤ k → (r.stage task l).held? = some id := by
      intro l hml hlk
      obtain ⟨-, hrest⟩ := List.append_eq_nil_iff.mp (deeds_append hml hlk ▸ hquiet)
      rw [← stage_of_quiet hlk hrest, h, hs]
    have hbefore : s₀.held? = some id →
        ∃ p < k, r.Does p task (.park id) () ∧
          ∀ l, p < l → l ≤ k → (r.stage task l).held? = some id := by
      intro hm
      obtain ⟨p, hpm, hpark, hheld⟩ := ih m hmk h₀ hm
      refine ⟨p, by omega, hpark, ?_⟩
      intro l hpl hlk
      rcases Nat.lt_or_ge m l with hml | hlm
      · exact hsince l hml hlk
      · exact hheld l hpl hlm
    cases henters with
    | admitted | number => cases hs
    | park id' =>
      cases hs
      exact ⟨m, hmk, hdoes, hsince⟩
    | turnBack | goOn | fail | write => exact hbefore hs

/-- What a task does next, if it does anything. -/
theorem next_deed (task : TaskId) (i j : Nat) :
    r.deeds task i j = [] ∨
      ∃ (k : Nat) (d : Deed), i ≤ k ∧ k < j ∧ r.Does k task d.act d.reply ∧
        r.deeds task i k = [] := by
  cases h : r.deeds task i j with
  | nil => exact .inl rfl
  | cons d rest =>
    obtain ⟨k, hik, hkj, hdoes, hbefore, -⟩ := deeds_cons h
    exact .inr ⟨k, d, hik, hkj, hdoes, hbefore⟩

/-- A request that is to be taken back is taken back next. -/
theorem unpark_of_yielding (hr : r.Admissible) (hlk : l ≤ k) (h : r.stage task l = .yielding id) :
    r.stage task k = .yielding id ∨ ∃ m, l ≤ m ∧ m < k ∧ r.Does m task (.unpark id) () := by
  rcases next_deed (r := r) task l k with hquiet | ⟨m, d, hlm, hmk, hdoes, hquiet⟩
  · exact .inl ((stage_of_quiet hlk hquiet).trans h)
  · have hallows := allows_of_does hr hdoes
    rw [stage_of_quiet hlm hquiet, h] at hallows
    obtain ⟨a, reply⟩ := d
    cases hallows
    exact .inr ⟨m, hlm, hmk, hdoes⟩

end Run

end PagePilot
