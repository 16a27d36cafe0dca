import PagePilot.Machine.Schedule
import PagePilot.Proofs.Connection.Stages
/-!
# PagePilot.Proofs.Machine.Turn

The turn of a task is some of its steps (`World.turn_eq_run`). A turn puts what is left of the task
back at its end and a step does so after each act, but no act looks at the tasks
(`World.perform_setTask`), so that makes no difference.

After its turn a task has ended or has to wait, and who has to wait is not in the middle of a
send: no request is underway, or its reply is awaited (`Program.rests_of_stuck`).
-/

namespace PagePilot

open Wire

namespace World

variable {w w' : World} {task : TaskId}

/-! ### Steps -/

/-- No act looks at the tasks. -/
theorem perform_setTask (w : World) (task : TaskId) (state : Task) (a : Act) :
    (w.setTask task state).perform task a =
      (w.perform task a).map fun done => (done.1, done.2.setTask task state) := by
  cases a with
  | awaitEnd ctx | sleep ctx time | awaitReply ctx id | awaitMatch key =>
    simp only [perform, Option.map_map]
    rfl
  | write r =>
    by_cases h : r.method ∈ w.refused <;> simp [perform, write, setTask, note, h]
  | startReading =>
    cases h : w.inbound.reading <;> simp [perform, startReading, setTask, h]
  | awaitReader =>
    by_cases h : w.inbound.reading = .ended <;> simp [perform, readerEnded, setTask, h]
  | get origin path =>
    cases h : w.network.get? origin path <;> simp [perform, get, setTask, note, h]
  | _ => rfl

theorem setTask_setTask (w : World) (task : TaskId) (state state' : Task) :
    (w.setTask task state).setTask task state' = w.setTask task state' := by
  simp [setTask]

theorem getElem?_setTask (h : task < w.tasks.length) (state : Task) :
    (w.setTask task state).tasks[task]? = some state :=
  List.getElem?_set_self h

theorem eq_of_getElem?_setTask {state state' : Task}
    (h : (w.setTask task state).tasks[task]? = some state') : state' = state := by
  have hlt : task < w.tasks.length := by
    simpa [setTask] using (List.getElem?_eq_some_iff.mp h).1
  rw [getElem?_setTask hlt] at h
  exact (Option.some.inj h).symm

/-- What comes of a program that a task runs until it has to wait. -/
def settled (task : TaskId) : Program Outcome × World → World
  | (.done outcome, w) => w.finish task outcome
  | (rest, w) => w.setTask task (.running rest)

/-- Steps of a task until it has to wait. -/
theorem run_steps (p : Program Outcome) (h : task < w.tasks.length) :
    ∃ n, (w.setTask task (.running p)).run (List.replicate n (.step task)) =
      settled task (runUntilStuck task p w) := by
  induction p generalizing w with
  | done outcome =>
    refine ⟨1, ?_⟩
    show (w.setTask task (.running (.done outcome))).step task = _
    simp only [step, getElem?_setTask h]
    simp only [finish, retire, setTask_setTask, runUntilStuck, settled]
    rfl
  | act a next ih =>
    cases hperform : w.perform task a with
    | none => exact ⟨0, by simp [runUntilStuck, hperform, settled, run]⟩
    | some done =>
      obtain ⟨reply, w'⟩ := done
      obtain ⟨n, hn⟩ := ih reply (perform_tasks hperform ▸ h)
      refine ⟨n + 1, ?_⟩
      have hstep : (w.setTask task (.running (.act a next))).step task =
          w'.setTask task (.running (next reply)) := by
        simp only [step, getElem?_setTask h, perform_setTask, hperform, Option.map_some,
          setTask_setTask]
      show ((w.setTask task _).step task).run (List.replicate n _) = _
      rw [hstep, hn]
      simp only [runUntilStuck, hperform]

theorem turn_eq_settled {p : Program Outcome} (h : w.tasks[task]? = some (.running p)) :
    w.turn task = settled task (runUntilStuck task p w) := by
  simp only [turn, h]
  generalize runUntilStuck task p w = rest
  obtain ⟨rest, w'⟩ := rest
  cases rest <;> rfl

theorem turn_of_not_running (h : ¬ ∃ p, w.tasks[task]? = some (.running p)) :
    w.turn task = w := by
  unfold turn
  split
  next p hp => exact absurd ⟨p, hp⟩ h
  next => rfl

/-- The turn of a task is some of its steps. -/
theorem turn_eq_run (w : World) (task : TaskId) :
    ∃ n, w.turn task = w.run (List.replicate n (.step task)) := by
  by_cases h : ∃ p, w.tasks[task]? = some (.running p)
  · obtain ⟨p, hp⟩ := h
    obtain ⟨hlt, hget⟩ := List.getElem?_eq_some_iff.mp hp
    obtain ⟨n, hn⟩ := run_steps (w := w) p hlt
    have hsame : w.setTask task (.running p) = w := by
      unfold setTask
      rw [← hget, List.set_getElem_self]
    exact ⟨n, by rw [turn_eq_settled hp, ← hn, hsame]⟩
  · exact ⟨0, turn_of_not_running h⟩

theorem runUntilStuck_tasks (task : TaskId) (p : Program α) (w : World) :
    (runUntilStuck task p w).2.tasks = w.tasks := by
  induction p generalizing w with
  | done x => rfl
  | act a next ih =>
    rw [runUntilStuck]
    cases hperform : w.perform task a with
    | none => rfl
    | some done => exact (ih done.1 done.2).trans (perform_tasks hperform)

/-- The turn of a task leaves the others as they are. -/
theorem turn_task_of_ne {other : TaskId} (h : other ≠ task) :
    (w.turn task).tasks[other]? = w.tasks[other]? := by
  by_cases hrunning : ∃ p, w.tasks[task]? = some (.running p)
  · obtain ⟨p, hp⟩ := hrunning
    rw [turn_eq_settled hp]
    have htasks := runUntilStuck_tasks task p w
    generalize runUntilStuck task p w = rest at htasks
    obtain ⟨rest, w'⟩ := rest
    cases rest with
    | done outcome =>
      show (w'.tasks.set task _)[other]? = _
      rw [List.getElem?_set_ne (Ne.symm h), htasks]
    | act a next =>
      show (w'.tasks.set task _)[other]? = _
      rw [List.getElem?_set_ne (Ne.symm h), htasks]
  · rw [turn_of_not_running hrunning]

/-! ### Waiting -/

theorem perform_of_runUntilStuck {p : Program α} {a : Act} {next : a.Reply → Program α}
    (h : runUntilStuck task p w = (.act a next, w')) : w'.perform task a = none := by
  induction p generalizing w with
  | done x => cases h
  | act a' next' ih =>
    simp only [runUntilStuck] at h
    split at h
    next reply w'' hperform => exact ih reply h
    next hperform =>
      cases h
      exact hperform

/-- A task that is still there after its turn has to wait. -/
theorem stuck_of_turn {q : Program Outcome} (h : (w.turn task).tasks[task]? = some (.running q)) :
    ∃ (a : Act) (next : a.Reply → Program Outcome) (w' : World),
      q = .act a next ∧ w'.perform task a = none := by
  by_cases hrunning : ∃ p, w.tasks[task]? = some (.running p)
  · obtain ⟨p, hp⟩ := hrunning
    rw [turn_eq_settled hp] at h
    cases hrest : runUntilStuck task p w with
    | mk rest w' =>
      rw [hrest] at h
      cases rest with
      | done outcome =>
        have hended : (w'.setTask task (.ended outcome)).tasks[task]? = some (.running q) := h
        cases eq_of_getElem?_setTask hended
      | act a next =>
        cases eq_of_getElem?_setTask h
        exact ⟨a, next, w', rfl, perform_of_runUntilStuck hrest⟩
  · exact absurd ⟨q, turn_of_not_running hrunning ▸ h⟩ hrunning

end World

/-! ### Rest -/

/-- A program that is not in the middle of a send. -/
def Program.Rests (p : Program α) : Prop :=
  p.Follows .idle ∨ ∃ id, p.Follows (.awaiting id)

/-- An act that has to wait is not one of those that are done at one go with the next. -/
theorem Program.rests_of_stuck {w : World} {task : TaskId} {a : Act}
    {next : a.Reply → Program α} {s : Stage} (h : (Program.act a next).Follows s)
    (hstuck : w.perform task a = none) : (Program.act a next).Rests := by
  cases s with
  | idle => exact .inl h
  | awaiting id => exact .inr ⟨id, h⟩
  | admitted | numbered id | yielding id | parked id =>
    cases h.1
    cases hstuck
  | writing id =>
    obtain ⟨request, ha, -⟩ := h.1
    cases ha
    cases hstuck

end PagePilot
