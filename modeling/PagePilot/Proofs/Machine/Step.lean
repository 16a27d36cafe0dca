import PagePilot.Proofs.Machine.Frame
import PagePilot.Proofs.Program.Path
/-!
# PagePilot.Proofs.Machine.Step

What one transition does, said once for each part of the world that proofs follow:

* `World.deed?` is the act that a task does by it, and `World.incoming?` the message that
  is taken in;
* `apply_task` says what becomes of a task, and `apply_requests` what becomes of the requests
  of the connection;
* `apply_nextId`, `mem_parked_apply`, `apply_replies`, `apply_closed` and `apply_reading_ended`
  say the same of one part each.

Runs are followed by these lemmas alone; no proof about runs opens `World.apply`.
-/

namespace PagePilot

open Wire

namespace Connection

theorem mem_parked_answer (c : Connection) (r : Response) (id : Nat) :
    id ∈ (c.answer r).parked ↔ id ∈ c.parked ∧ r.id ≠ id := by
  unfold answer unpark
  split
  · simp [@eq_comm _ id]
  · rename_i h
    exact ⟨fun hid => ⟨hid, fun e => h (e ▸ hid)⟩, And.left⟩

theorem answer_replies (c : Connection) (r : Response) :
    (c.answer r).replies =
      c.replies ++ if r.id ∈ c.parked then [(r.id, replyIn r)] else [] := by
  unfold answer
  split
  · rfl
  · simp

theorem answer_nextId (c : Connection) (r : Response) : (c.answer r).nextId = c.nextId := by
  unfold answer
  split <;> rfl

theorem answer_closed (c : Connection) (r : Response) : (c.answer r).closed = c.closed := by
  unfold answer
  split <;> rfl

end Connection

namespace World

/-! ### What a transition is about -/

/-- The act that is done by a transition, and the task that does it. -/
def deed? (w : World) : Transition → Option (TaskId × Deed)
  | .step task =>
      match w.tasks[task]? with
      | some (.running (.act a _)) => (w.perform task a).map fun r => (task, ⟨a, r.1⟩)
      | _ => none
  | _ => none

/-- The message that is taken in by a transition, if it reads as one. -/
def incoming? (w : World) : Transition → Option Message
  | .read =>
      match w.inbound.reading, w.inbound.inbox with
      | .running _, message :: _ => (Message.decode message).toOption
      | _, _ => none
  | _ => none

/-- The reader finds that nothing more will come, and marks the connection as closed. -/
def Closes (w : World) (t : Transition) : Prop :=
  t = .read ∧ (∃ owner, w.inbound.reading = .running owner) ∧ w.inbound.inbox = [] ∧
    w.inbound.inboxOpen = false

/-- The reader gives up on the requests that still wait. -/
def Clears (w : World) (t : Transition) : Prop :=
  t = .read ∧ w.inbound.reading = .closing

theorem deed?_eq_some {w : World} {t : Transition} {task : TaskId} {d : Deed}
    (h : w.deed? t = some (task, d)) :
    t = .step task ∧ ∃ next w', w.tasks[task]? = some (.running (.act d.act next)) ∧
      w.perform task d.act = some (d.reply, w') := by
  cases t
  case step task' =>
    simp only [deed?] at h
    split at h
    next a next hrest =>
      obtain ⟨r, hr, hd⟩ := Option.map_eq_some_iff.mp h
      obtain ⟨rfl, rfl⟩ := Prod.mk.inj hd
      exact ⟨rfl, next, r.2, hrest, hr⟩
    next => cases h
  all_goals cases h

/-! ### Tasks -/

/-- What may become of a task by a transition. -/
inductive TaskStep (w : World) (t : Transition) (task : TaskId) : Task → Task → Prop
  | rest (state : Task) (h : ∀ d, w.deed? t ≠ some (task, d)) : TaskStep w t task state state
  | deed {a : Act} {next : a.Reply → Program Outcome} {reply : a.Reply}
      (h : w.deed? t = some (task, ⟨a, reply⟩)) :
      TaskStep w t task (.running (.act a next)) (.running (next reply))
  | finish {outcome : Outcome} (h : t = .step task) (hd : w.deed? t = none) :
      TaskStep w t task (.running (.done outcome)) (.ended outcome)
  | abort {p : Program Outcome} (h : t = .abort task) (hd : w.deed? t = none) :
      TaskStep w t task (.running p) .aborted

theorem hand_tasks (w : World) (e : EventMessage) : (w.hand e).tasks = w.tasks := by
  unfold hand
  split
  · rfl
  · split
    · exact (deliver_aside ..).tasks
    · rfl

theorem answer_tasks (w : World) (r : Response) : (w.answer r).tasks = w.tasks := by
  unfold answer
  split <;> rfl

theorem take_tasks (w : World) (message : Json) : (w.take message).tasks = w.tasks := by
  unfold take
  split
  · exact answer_tasks ..
  · exact hand_tasks ..
  · rfl

theorem read_tasks (w : World) : w.read.tasks = w.tasks := by
  unfold read
  split
  · split
    · exact take_tasks ..
    · split <;> rfl
  · rfl
  · rfl

/-- The list of tasks stays, has one task moved on by its own step or end, or gets a new
one. -/
theorem apply_tasks (w : World) (t : Transition) :
    (w.apply t).tasks = w.tasks ∨
      (∃ task state, (t = .step task ∨ t = .abort task) ∧
        (w.apply t).tasks = w.tasks.set task state) ∨
      ∃ p, t = .spawn p ∧ (w.apply t).tasks = w.tasks ++ [.running p] := by
  cases t with
  | step task =>
    simp only [apply, step]
    split
    · exact .inr (.inl ⟨task, _, .inl rfl, rfl⟩)
    · split
      · rename_i hp
        exact .inr (.inl ⟨task, _, .inl rfl, congrArg (List.set · _ _) (perform_tasks hp)⟩)
      · exact .inl rfl
    · exact .inl rfl
  | abort task =>
    simp only [apply, abort]
    split
    · exact .inr (.inl ⟨task, _, .inr rfl, rfl⟩)
    · exact .inl rfl
  | spawn p => exact .inr (.inr ⟨p, rfl, rfl⟩)
  | read => exact .inl (read_tasks w)
  | deliver page event => exact .inl (deliver_aside ..).tasks
  | release key => exact .inl (release_aside ..).tasks
  | inject message =>
    simp only [apply, inject]
    split <;> exact .inl rfl
  | receive =>
    simp only [apply, receive]
    split <;> exact .inl rfl
  | startReading => exact .inl (startReading_tasks ..)
  | stopReading =>
    simp only [apply, stopReading]
    split <;> exact .inl rfl
  | _ => exact .inl rfl

theorem apply_task_of_not_own {w : World} {t : Transition} {task : TaskId} {state : Task}
    (hstep : t ≠ .step task) (habort : t ≠ .abort task)
    (h : w.tasks[task]? = some state) : (w.apply t).tasks[task]? = some state := by
  rcases apply_tasks w t with e | ⟨task', new, hown, e⟩ | ⟨p, -, e⟩
  · rw [e, h]
  · have hne : task' ≠ task := by
      rintro rfl
      rcases hown with rfl | rfl
      · exact hstep rfl
      · exact habort rfl
    rw [e, List.getElem?_set_ne hne, h]
  · rw [e, List.getElem?_append_left (List.getElem?_eq_some_iff.mp h).1, h]

/-- Where no task was, a task can only have been started. -/
theorem spawn_of_apply {w : World} {t : Transition} {task : TaskId} {state : Task}
    (hnone : w.tasks[task]? = none) (h : (w.apply t).tasks[task]? = some state) :
    ∃ p, t = .spawn p ∧ task = w.tasks.length ∧ state = .running p := by
  rcases apply_tasks w t with e | ⟨task', new, -, e⟩ | ⟨p, rfl, e⟩
  · rw [e, hnone] at h
    cases h
  · have hlt := (List.getElem?_eq_some_iff.mp h).1
    rw [e, List.length_set] at hlt
    rw [List.getElem?_eq_getElem hlt] at hnone
    cases hnone
  · have hge := List.getElem?_eq_none_iff.mp hnone
    have hlt := (List.getElem?_eq_some_iff.mp h).1
    rw [e, List.length_append, List.length_singleton] at hlt
    have htask : task = w.tasks.length := Nat.le_antisymm (Nat.lt_succ_iff.mp hlt) hge
    rw [e, htask, List.getElem?_concat_length] at h
    cases h
    exact ⟨p, rfl, htask, rfl⟩

/-- What becomes of a task: it rests, does its next act, ends, or is dropped. -/
theorem apply_task {w : World} {t : Transition} {task : TaskId} {state : Task}
    (h : w.tasks[task]? = some state) :
    ∃ state', (w.apply t).tasks[task]? = some state' ∧ TaskStep w t task state state' := by
  have hset : ∀ new : Task, (w.tasks.set task new)[task]? = some new := fun new =>
    List.getElem?_set_self (List.getElem?_eq_some_iff.mp h).1
  have hrest : w.apply t = w → w.deed? t = none →
      ∃ state', (w.apply t).tasks[task]? = some state' ∧ TaskStep w t task state state' :=
    fun e hnone => ⟨state, e.symm ▸ h, .rest state fun d hd => by simp [hnone] at hd⟩
  -- A task moves by its own step and by its dropping; all else leaves it where it is.
  by_cases hstep : t = .step task
  · subst hstep
    cases state with
    | running p =>
      cases p with
      | done outcome =>
        have happly : w.apply (.step task) = w.finish task outcome := by simp [apply, step, h]
        exact ⟨.ended outcome, happly ▸ hset _, .finish rfl (by simp [deed?, h])⟩
      | act a next =>
        cases hp : w.perform task a with
        | none => exact hrest (by simp [apply, step, h, hp]) (by simp [deed?, h, hp])
        | some r =>
          have happly : w.apply (.step task) = r.2.setTask task (.running (next r.1)) := by
            simp [apply, step, h, hp]
          refine ⟨.running (next r.1), ?_, .deed (by simp [deed?, h, hp])⟩
          rw [happly]
          show (List.set _ _ _)[task]? = _
          rw [perform_tasks hp]
          exact hset _
    | ended outcome => exact hrest (by simp [apply, step, h]) (by simp [deed?, h])
    | aborted => exact hrest (by simp [apply, step, h]) (by simp [deed?, h])
  by_cases habort : t = .abort task
  · subst habort
    cases state with
    | running p =>
      have happly : w.apply (.abort task) = w.retire task .aborted := by simp [apply, abort, h]
      exact ⟨.aborted, happly ▸ hset _, .abort rfl rfl⟩
    | ended outcome => exact hrest (by simp [apply, abort, h]) rfl
    | aborted => exact hrest (by simp [apply, abort, h]) rfl
  exact ⟨state, apply_task_of_not_own hstep habort h,
    .rest state fun d hd => hstep (deed?_eq_some hd).1⟩

/-! ### Requests -/

/-- Two connections with the same requests; their routes may differ. -/
structure SameRequests (c c' : Connection) : Prop where
  nextId : c'.nextId = c.nextId
  parked : c'.parked = c.parked
  replies : c'.replies = c.replies
  closed : c'.closed = c.closed

theorem SameRequests.refl (c : Connection) : SameRequests c c := ⟨rfl, rfl, rfl, rfl⟩

/-- What a transition does to the requests of the connection. -/
inductive RequestsStep (w : World) : Transition → Connection → Prop
  | rest {t : Transition} (hd : w.deed? t = none) (hm : ∀ r, w.incoming? t ≠ some (.response r))
      (hcloses : ¬ w.Closes t) (hclears : ¬ w.Clears t) : RequestsStep w t w.connection
  | deed {task : TaskId} {d : Deed} (hd : w.deed? (.step task) = some (task, d)) :
      RequestsStep w (.step task) (onRequests d.act w.connection)
  | answer {r : Response} (hm : w.incoming? .read = some (.response r)) :
      RequestsStep w .read (w.connection.answer r)
  | close (h : w.Closes .read) : RequestsStep w .read w.connection.close
  | clear (h : w.Clears .read) : RequestsStep w .read w.connection.clear

/-- Nothing but acts and the reading concerns the requests. -/
theorem RequestsStep.of_ne_read {w : World} {t : Transition} (hd : w.deed? t = none)
    (ht : t ≠ .read) : w.RequestsStep t w.connection := by
  have hnone : w.incoming? t = none := by cases t <;> first | rfl | exact absurd rfl ht
  exact .rest hd (by simp [hnone]) (fun h => ht h.1) fun h => ht h.1

theorem running_of_incoming {w : World} {t : Transition} {m : Message}
    (h : w.incoming? t = some m) :
    t = .read ∧ (∃ owner, w.inbound.reading = .running owner) ∧ w.inbound.inbox ≠ [] := by
  cases t
  case read =>
    simp only [incoming?] at h
    split at h
    next owner message rest hreading hinbox => exact ⟨rfl, ⟨owner, hreading⟩, by simp [hinbox]⟩
    next => cases h
  all_goals cases h

theorem not_closes_of_incoming {w : World} {t : Transition} {m : Message}
    (h : w.incoming? t = some m) : ¬ w.Closes t :=
  fun hcloses => (running_of_incoming h).2.2 hcloses.2.2.1

theorem not_clears_of_incoming {w : World} {t : Transition} {m : Message}
    (h : w.incoming? t = some m) : ¬ w.Clears t := by
  obtain ⟨-, ⟨owner, hreading⟩, -⟩ := running_of_incoming h
  simp [Clears, hreading]

theorem Closes.not_clears {w : World} {t : Transition} (h : w.Closes t) : ¬ w.Clears t := by
  obtain ⟨-, ⟨owner, hreading⟩, -, -⟩ := h
  simp [Clears, hreading]

theorem Closes.incoming {w : World} {t : Transition} (h : w.Closes t) : w.incoming? t = none :=
  Option.eq_none_iff_forall_ne_some.mpr fun _ hm => not_closes_of_incoming hm h

theorem Clears.incoming {w : World} {t : Transition} (h : w.Clears t) : w.incoming? t = none :=
  Option.eq_none_iff_forall_ne_some.mpr fun _ hm => not_clears_of_incoming hm h

theorem startReading_connection (w : World) (owner : Option TaskId) :
    (w.startReading owner).2.connection = w.connection := by
  unfold startReading
  split <;> rfl

theorem perform_requests {w w' : World} {task : TaskId} {a : Act} {reply : a.Reply}
    (h : w.perform task a = some (reply, w')) :
    SameRequests (onRequests a w.connection) w'.connection := by
  cases performed_of_perform h with
  | learn hquiet =>
    rw [onRequests_of_isQuiet hquiet]
    exact .refl _
  | note hquiet =>
    rw [onRequests_of_isQuiet hquiet]
    exact .refl _
  | startReading =>
    rw [startReading_connection]
    exact .refl _
  | allocate | park | unpark | arm | disarm | openPage | setFrame | handOver | save =>
    exact ⟨rfl, rfl, rfl, rfl⟩

theorem hand_requests {w : World} {c : Connection} (h : w.connection = c) (e : EventMessage) :
    SameRequests c (w.hand e).connection := by
  subst h
  unfold hand
  split
  · exact .refl _
  · split
    · rw [(deliver_aside ..).connection]
      exact .refl _
    · exact ⟨rfl, rfl, rfl, rfl⟩

theorem answer_connection (w : World) (r : Response) :
    (w.answer r).connection = w.connection.answer r := by
  unfold answer
  split
  · rfl
  · rename_i h
    exact (if_neg h).symm

theorem step_requests (w : World) (task : TaskId) :
    ∃ c, w.RequestsStep (.step task) c ∧ SameRequests c (w.step task).connection := by
  have hrest : w.deed? (.step task) = none → SameRequests w.connection (w.step task).connection →
      ∃ c, w.RequestsStep (.step task) c ∧ SameRequests c (w.step task).connection :=
    fun hd hsame => ⟨_, .of_ne_read hd (by simp), hsame⟩
  cases htask : w.tasks[task]? with
  | none => exact hrest (by simp [deed?, htask]) (by simp [step, htask, SameRequests.refl])
  | some state =>
    cases state with
    | ended | aborted => exact hrest (by simp [deed?, htask]) (by simp [step, htask, SameRequests.refl])
    | running p =>
      cases p with
      | done outcome =>
        refine hrest (by simp [deed?, htask]) ?_
        simp only [step, htask]
        exact .refl _
      | act a next =>
        cases hp : w.perform task a with
        | none =>
          exact hrest (by simp [deed?, htask, hp]) (by simp [step, htask, hp, SameRequests.refl])
        | some r =>
          refine ⟨_, .deed (d := ⟨a, r.1⟩) (by simp [deed?, htask, hp]), ?_⟩
          have hsame := perform_requests hp
          simp only [step, htask, hp]
          exact hsame

theorem read_requests (w : World) :
    ∃ c, w.RequestsStep .read c ∧ SameRequests c w.read.connection := by
  unfold read
  cases hreading : w.inbound.reading with
  | running owner =>
    cases hinbox : w.inbound.inbox with
    | nil =>
      cases hopen : w.inbound.inboxOpen with
      | true =>
        refine ⟨_, .rest rfl ?_ ?_ ?_, .refl _⟩
        · simp [incoming?, hreading, hinbox]
        · simp [Closes, hopen]
        · simp [Clears, hreading]
      | false => exact ⟨_, .close ⟨rfl, ⟨owner, hreading⟩, hinbox, hopen⟩, .refl _⟩
    | cons message rest =>
      have hincoming : w.incoming? .read = (Message.decode message).toOption := by
        simp only [incoming?, hreading, hinbox]
      have hrest : (∀ r, (Message.decode message).toOption ≠ some (.response r)) →
          w.RequestsStep .read w.connection :=
        fun hm => .rest rfl (by rwa [hincoming]) (by simp [Closes, hinbox]) (by simp [Clears, hreading])
      simp only [take]
      cases hdecode : Message.decode message with
      | error cause => exact ⟨_, hrest (by simp [hdecode, Except.toOption]), .refl _⟩
      | ok m =>
        cases m with
        | response r =>
          refine ⟨_, .answer (r := r) (by simp [hincoming, hdecode, Except.toOption]), ?_⟩
          dsimp only
          rw [answer_connection]
          exact .refl _
        | event e =>
          -- An event may take its route away, which is none of the requests' concern.
          refine ⟨_, hrest (by simp [hdecode, Except.toOption]), ?_⟩
          dsimp only
          refine hand_requests ?_ e
          rfl
  | closing => exact ⟨_, .clear ⟨rfl, hreading⟩, .refl _⟩
  | notStarted | ended | stopped =>
    refine ⟨_, .rest rfl ?_ ?_ ?_, .refl _⟩
    · simp [incoming?, hreading]
    · simp [Closes, hreading]
    · simp [Clears, hreading]

/-- What becomes of the requests of the connection. -/
theorem apply_requests (w : World) (t : Transition) :
    ∃ c, w.RequestsStep t c ∧ SameRequests c (w.apply t).connection := by
  have hrest : ∀ {t}, t ≠ .read → w.deed? t = none → SameRequests w.connection (w.apply t).connection →
      ∃ c, w.RequestsStep t c ∧ SameRequests c (w.apply t).connection :=
    fun ht hd hsame => ⟨_, .of_ne_read hd ht, hsame⟩
  cases t with
  | step task => exact step_requests w task
  | read => exact read_requests w
  | abort task =>
    refine hrest (by simp) rfl ?_
    simp only [apply, abort]
    split <;> exact .refl _
  | route | unroute => exact hrest (by simp) rfl ⟨rfl, rfl, rfl, rfl⟩
  | deliver page event =>
    refine hrest (by simp) rfl ?_
    simp only [apply]
    exact (deliver_aside ..).connection ▸ .refl _
  | release key =>
    refine hrest (by simp) rfl ?_
    simp only [apply]
    exact (release_aside ..).connection ▸ .refl _
  | inject message =>
    refine hrest (by simp) rfl ?_
    simp only [apply, inject]
    split <;> exact .refl _
  | receive =>
    refine hrest (by simp) rfl ?_
    simp only [apply, receive]
    split <;> exact .refl _
  | startReading =>
    refine hrest (by simp) rfl ?_
    simp only [apply]
    exact startReading_connection w none ▸ .refl _
  | stopReading =>
    refine hrest (by simp) rfl ?_
    simp only [apply, stopReading]
    split <;> exact .refl _
  | _ => exact hrest (by simp) rfl (.refl _)

/-- The id that is given out by a transition. -/
def allocated? (w : World) (t : Transition) : Option Nat :=
  match w.deed? t with
  | some (_, ⟨.allocate, id⟩) => some id
  | _ => none

theorem allocated?_eq_some {w : World} {t : Transition} {id : Nat} :
    w.allocated? t = some id ↔ ∃ task, w.deed? t = some (task, ⟨.allocate, id⟩) := by
  unfold allocated?
  constructor
  · intro h
    split at h
    next task id' hd =>
      cases h
      exact ⟨task, hd⟩
    next => cases h
  · rintro ⟨task, hd⟩
    rw [hd]

/-- Ids are given out one after the other. -/
theorem apply_nextId (w : World) (t : Transition) :
    (w.apply t).connection.nextId =
      w.connection.nextId + (w.allocated? t).toList.length := by
  obtain ⟨c, hstep, hsame⟩ := apply_requests w t
  rw [hsame.nextId]
  cases hstep with
  | rest hd => simp [allocated?, hd]
  | @deed task d hd =>
    obtain ⟨a, reply⟩ := d
    cases a <;> simp [allocated?, hd, onRequests] <;> rfl
  | answer hm => exact Connection.answer_nextId ..
  | close | clear => rfl

/-- A request stops being parked: its answer is taken in, its task takes it back, or all
are given up. -/
def Unparks (w : World) (t : Transition) (id : Nat) : Prop :=
  (∃ r, w.incoming? t = some (.response r) ∧ r.id = id) ∨
    (∃ task, w.deed? t = some (task, ⟨.unpark id, ()⟩)) ∨ w.Clears t

theorem mem_parked_apply (w : World) (t : Transition) (id : Nat) :
    id ∈ (w.apply t).connection.parked ↔
      (id ∈ w.connection.parked ∧ ¬ w.Unparks t id) ∨
        ∃ task, w.deed? t = some (task, ⟨.park id, ()⟩) := by
  obtain ⟨c, hstep, hsame⟩ := apply_requests w t
  rw [hsame.parked]
  unfold Unparks
  cases hstep with
  | rest hd hm _ hclears => simp [hd, hm, hclears]
  | @deed task d hd =>
    obtain ⟨a, reply⟩ := d
    cases a
    case park id' => simp [hd, incoming?, Clears, onRequests, Connection.park, @eq_comm _ id]
    case unpark id' => simp [hd, incoming?, Clears, onRequests, Connection.unpark, @eq_comm _ id]
    case allocate => simp [hd, incoming?, Clears, onRequests, Connection.allocate]
    all_goals simp [hd, incoming?, Clears, onRequests]
  | answer hm => simp [hm, deed?, not_clears_of_incoming hm, Connection.mem_parked_answer]
  | close h => simp [h.incoming, h.not_clears, deed?, Connection.close]
  | clear h => simp [h, deed?, Connection.clear]

/-- The answer that is taken in by a transition for a request that waits for it. -/
def answered? (w : World) (t : Transition) : Option (Nat × Reply) :=
  match w.incoming? t with
  | some (.response r) =>
      if r.id ∈ w.connection.parked then some (r.id, Connection.replyIn r) else none
  | _ => none

theorem answered?_eq_some {w : World} {t : Transition} {id : Nat} {reply : Reply} :
    w.answered? t = some (id, reply) ↔
      ∃ r, w.incoming? t = some (.response r) ∧ r.id = id ∧ id ∈ w.connection.parked ∧
        Connection.replyIn r = reply := by
  unfold answered?
  constructor
  · intro h
    split at h
    next r hr =>
      split at h
      next hmem =>
        cases h
        exact ⟨r, hr, rfl, hmem, rfl⟩
      next => cases h
    next => cases h
  · rintro ⟨r, hr, rfl, hmem, rfl⟩
    simp [hr, hmem]

/-- Answers are only added, and only for requests that are parked. -/
theorem apply_replies (w : World) (t : Transition) :
    (w.apply t).connection.replies = w.connection.replies ++ (w.answered? t).toList := by
  obtain ⟨c, hstep, hsame⟩ := apply_requests w t
  rw [hsame.replies]
  unfold answered?
  cases hstep with
  | rest hd hm =>
    split
    next r hr => exact absurd hr (hm r)
    next => simp
  | @deed task d hd =>
    obtain ⟨a, reply⟩ := d
    cases a <;> simp [incoming?, onRequests] <;> rfl
  | answer hm =>
    rw [Connection.answer_replies, hm]
    dsimp only
    split <;> rfl
  | close h => simp [h.incoming, Connection.close]
  | clear h => simp [h.incoming, Connection.clear]

/-- An answer that is taken in does to the connection what `Connection.answer` says. -/
theorem apply_connection_of_response {w : World} {t : Transition} {r : Response}
    (h : w.incoming? t = some (.response r)) : (w.apply t).connection = w.connection.answer r := by
  cases t
  case read =>
    simp only [incoming?] at h
    split at h
    next owner message rest hreading hinbox =>
      have hdecode : Message.decode message = .ok (.response r) := by
        cases hm : Message.decode message with
        | error cause =>
          rw [hm] at h
          cases h
        | ok m =>
          rw [hm] at h
          cases h
          rfl
      simp only [apply, read, hreading, hinbox, take, hdecode, answer_connection]
    next => cases h
  all_goals cases h

/-- The connection is closed once, and stays closed. -/
theorem apply_closed (w : World) (t : Transition) :
    (w.apply t).connection.closed = true ↔ w.connection.closed = true ∨ w.Closes t := by
  obtain ⟨c, hstep, hsame⟩ := apply_requests w t
  rw [hsame.closed]
  cases hstep with
  | rest _ _ hcloses => simp [hcloses]
  | @deed task d hd =>
    obtain ⟨a, reply⟩ := d
    cases a <;> simp [Closes, onRequests] <;> rfl
  | answer hm => simp [Connection.answer_closed, not_closes_of_incoming hm]
  | close h => simp [h, Connection.close]
  | clear h => simp [Closes, h.2, Connection.clear]

/-! ### Reading -/

/-- What may become of the reading by a transition. -/
inductive ReadingStep (w : World) (t : Transition) : Reading → Reading → Prop
  | rest (reading : Reading) : ReadingStep w t reading reading
  | start (owner : Option TaskId) : ReadingStep w t .notStarted (.running owner)
  | stop {reading : Reading} (h : reading ≠ .ended) (ht : reading = .closing → t = .stopReading) :
      ReadingStep w t reading .stopped
  | close {owner : Option TaskId} (h : w.Closes t) : ReadingStep w t (.running owner) .closing
  | clear (h : w.Clears t) : ReadingStep w t .closing .ended

theorem ReadingStep.without (w : World) (t : Transition) (task : TaskId) (reading : Reading) :
    ReadingStep w t reading (reading.without task) := by
  cases reading with
  | running owner =>
    cases owner with
    | none => exact .rest _
    | some owner =>
      simp only [Reading.without]
      split
      · exact .stop nofun nofun
      · exact .rest _
  | notStarted | closing | ended | stopped => exact .rest _

theorem hand_inbound (w : World) (e : EventMessage) : (w.hand e).inbound = w.inbound := by
  unfold hand
  split
  · rfl
  · split
    · exact (deliver_aside ..).inbound
    · rfl

theorem take_inbound (w : World) (message : Json) : (w.take message).inbound = w.inbound := by
  unfold take
  split
  · unfold answer
    split <;> rfl
  · exact hand_inbound ..
  · rfl

theorem startReading_reading (w : World) (t : Transition) (owner : Option TaskId) :
    ReadingStep w t w.inbound.reading (w.startReading owner).2.inbound.reading := by
  unfold startReading
  split
  · rename_i h
    rw [h]
    exact .start owner
  · exact .rest _

theorem perform_reading {w w' : World} {task : TaskId} {a : Act} {reply : a.Reply}
    (t : Transition) (h : w.perform task a = some (reply, w')) :
    ReadingStep w t w.inbound.reading w'.inbound.reading := by
  cases performed_of_perform h with
  | startReading => exact startReading_reading ..
  | learn | note | allocate | park | unpark | arm | disarm | openPage | setFrame | handOver | save =>
    exact .rest _

theorem step_reading (w : World) (task : TaskId) :
    ReadingStep w (.step task) w.inbound.reading (w.step task).inbound.reading := by
  unfold step
  split
  · exact .without ..
  · split
    · rename_i hp
      have hreading := perform_reading (.step task) hp
      exact hreading
    · exact .rest _
  · exact .rest _

theorem read_reading (w : World) :
    ReadingStep w .read w.inbound.reading w.read.inbound.reading := by
  unfold read
  cases hreading : w.inbound.reading with
  | running owner =>
    cases hinbox : w.inbound.inbox with
    | nil =>
      cases hopen : w.inbound.inboxOpen with
      | true =>
        simp only [↓reduceIte, hreading]
        exact .rest _
      | false => exact .close ⟨rfl, ⟨owner, hreading⟩, hinbox, hopen⟩
    | cons message rest =>
      dsimp only
      rw [take_inbound]
      exact hreading ▸ .rest _
  | closing => exact .clear ⟨rfl, hreading⟩
  | notStarted | ended | stopped =>
    simp only [hreading]
    exact .rest _

/-- What becomes of the reading. -/
theorem apply_reading (w : World) (t : Transition) :
    ReadingStep w t w.inbound.reading (w.apply t).inbound.reading := by
  cases t with
  | step task => exact step_reading w task
  | read => exact read_reading w
  | startReading => exact startReading_reading ..
  | abort task =>
    simp only [apply, abort]
    split
    · exact .without ..
    · exact .rest _
  | stopReading =>
    simp only [apply, stopReading]
    split
    · exact .rest _
    · rename_i h
      exact .stop h fun _ => rfl
  | deliver page event =>
    simp only [apply]
    rw [(deliver_aside ..).inbound]
    exact .rest _
  | release key =>
    simp only [apply]
    rw [(release_aside ..).inbound]
    exact .rest _
  | inject message =>
    simp only [apply, inject]
    split <;> exact .rest _
  | receive =>
    simp only [apply, receive]
    split <;> exact .rest _
  | _ => exact .rest _

theorem apply_reading_ended (w : World) (t : Transition) :
    (w.apply t).inbound.reading = .ended ↔ w.inbound.reading = .ended ∨ w.Clears t := by
  constructor
  · intro h
    have hstep := apply_reading w t
    rw [h] at hstep
    generalize hr : w.inbound.reading = reading at hstep
    cases hstep with
    | rest => exact .inl rfl
    | clear h => exact .inr h
  · intro hended
    rcases hended with h | ⟨rfl, h⟩
    · have hstep := apply_reading w t
      rw [h] at hstep
      generalize (w.apply t).inbound.reading = reading at hstep
      cases hstep with
      | rest => rfl
      | stop h => exact absurd rfl h
    · simp only [apply, read, h]
      rfl

theorem apply_reading_of_closes {w : World} {t : Transition} (h : w.Closes t) :
    (w.apply t).inbound.reading = .closing := by
  obtain ⟨rfl, ⟨owner, hreading⟩, hinbox, hopen⟩ := h
  simp only [apply, read, hreading, hinbox, hopen]
  rfl

/-- The connection is closed while the reader gives up, and from then on. -/
theorem closed_iff_reading_apply {w : World} {t : Transition}
    (hstop : t = .stopReading → w.inbound.reading ≠ .closing)
    (h : w.connection.closed = true ↔ w.inbound.reading = .closing ∨ w.inbound.reading = .ended) :
    (w.apply t).connection.closed = true ↔
      (w.apply t).inbound.reading = .closing ∨ (w.apply t).inbound.reading = .ended := by
  rw [apply_closed]
  by_cases hcloses : w.Closes t
  · simp [hcloses, apply_reading_of_closes hcloses]
  · have hstep := apply_reading w t
    generalize (w.apply t).inbound.reading = reading at hstep
    generalize hr : w.inbound.reading = before at hstep h hstop
    cases hstep with
    | rest => simp [hcloses, h]
    | start => simp [hcloses, h]
    | stop hne ht =>
      -- Stopped while it gives up, the reader would leave a closed connection behind.
      have hclosing : before ≠ .closing := fun e => hstop (ht e) e
      simp [hcloses, h, hne, hclosing]
    | close hc => exact absurd hc hcloses
    | clear => simp [h]

/-! ### Time -/

/-- What time it is, and what those who wait have been told. -/
def clock (w : World) : Nat × Nat :=
  (w.now, w.served)

theorem Aside.clock {w w' : World} (h : w.Aside w') : w'.clock = w.clock :=
  Prod.ext h.now h.served

theorem perform_clock {w w' : World} {task : TaskId} {a : Act} {reply : a.Reply}
    (h : w.perform task a = some (reply, w')) : w'.clock = w.clock := by
  cases performed_of_perform h with
  | startReading =>
    unfold startReading
    split <;> rfl
  | learn | note | allocate | park | unpark | arm | disarm | openPage | setFrame | handOver | save =>
    rfl

theorem take_clock (w : World) (message : Json) : (w.take message).clock = w.clock := by
  unfold take
  split
  · unfold answer
    split <;> rfl
  · unfold hand
    split
    · rfl
    · split
      · exact (deliver_aside ..).clock
      · rfl
  · rfl

theorem read_clock (w : World) : w.read.clock = w.clock := by
  unfold read
  split
  · split
    · exact take_clock ..
    · split <;> rfl
  · rfl
  · rfl

/-- Time passes, or those who wait are told of it, and nothing else happens to the clock. -/
theorem apply_clock (w : World) (t : Transition) :
    (w.apply t).clock = match t with
      | .tick duration => (w.now + duration, w.served)
      | .serve => (w.now, w.now)
      | _ => w.clock := by
  cases t with
  | step task =>
    simp only [apply, step]
    split
    · rfl
    · split
      · rename_i hp
        have hclock := perform_clock hp
        exact hclock
      · rfl
    · rfl
  | abort task =>
    simp only [apply, abort]
    split <;> rfl
  | read => exact read_clock w
  | deliver page event => exact (deliver_aside ..).clock
  | release key => exact (release_aside ..).clock
  | inject message =>
    simp only [apply, inject]
    split <;> rfl
  | receive =>
    simp only [apply, receive]
    split <;> rfl
  | startReading =>
    simp only [apply, startReading]
    split <;> rfl
  | stopReading =>
    simp only [apply, stopReading]
    split <;> rfl
  | _ => rfl

/-- Time does not go back. -/
theorem now_le_apply (w : World) (t : Transition) : w.now ≤ (w.apply t).now := by
  have hle : w.now ≤ (w.apply t).clock.1 := by
    rw [apply_clock]
    split
    · exact Nat.le_add_right ..
    · exact Nat.le_refl _
    · exact Nat.le_refl _
  exact hle

/-- Nobody is told of a time that has not come. -/
theorem served_le_apply {w : World} (h : w.served ≤ w.now) (t : Transition) :
    (w.apply t).served ≤ (w.apply t).now := by
  have hle : (w.apply t).clock.2 ≤ (w.apply t).clock.1 := by
    rw [apply_clock]
    split
    · exact Nat.le_add_right_of_le h
    · exact Nat.le_refl _
    · exact h
  exact hle

end World

end PagePilot
