import PagePilot.Proofs.Connection.Correlation
import PagePilot.Proofs.Operation.Navigation
/-!
# PagePilot.Proofs.Connection.Command

Operations and commands in runs: of two operations in a row the second goes on with the
result of the first (`Runs.of_op_bind_done`), and a command is acknowledged when it was
written and the browser answered it (`Runs.acknowledged`).
-/

namespace PagePilot

open Wire

namespace Run

variable {r : Run} {task : TaskId} {i j k : Nat} {ctx : Context}

/-! ### Operations in a row -/

/-- A part that has its result has it from then on, as long as its task does nothing. -/
theorem Runs.extend {p : Program α} {x : α} (h : r.Runs task i p j (.done x)) (hjk : j ≤ k)
    (hquiet : r.deeds task j k = []) : r.Runs task i p k (.done x) where
  begins := h.begins
  le := Nat.le_trans h.le hjk
  leads := by
    rw [deeds_append h.le hjk, hquiet, List.append_nil]
    exact h.leads

/-- Of two programs in a row that may fail, the second has gone on with what the first gave, or
it is up to the first what becomes of both. -/
theorem Runs.of_except_bind {x : ExceptT ε Program α} {f : α → ExceptT ε Program β}
    {q : Program (Except ε β)} (h : r.Runs task i (x >>= f).run j q) :
    ((∃ q', r.Runs task i x.run j q') ∧ ∀ b, q ≠ .done (.ok b)) ∨
      ∃ k a, r.Runs task i x.run k (.done (.ok a)) ∧ r.Runs task k (f a).run j q := by
  rw [Program.run_bind] at h
  rcases h.of_bind with ⟨a, next, hx, rfl⟩ | ⟨k, result, hx, hf⟩
  · exact .inl ⟨⟨_, hx⟩, nofun⟩
  cases result with
  | ok a => exact .inr ⟨k, a, hx, hf⟩
  | error e =>
    obtain ⟨hquiet, rfl⟩ := hf.of_done
    exact .inl ⟨⟨_, hx.extend hf.le hquiet⟩, nofun⟩

/-- Two programs in a row have a success only if the first has one. -/
theorem Runs.of_except_bind_ok {x : ExceptT ε Program α} {f : α → ExceptT ε Program β} {b : β}
    (h : r.Runs task i (x >>= f).run j (.done (.ok b))) :
    ∃ k a, r.Runs task i x.run k (.done (.ok a)) ∧ r.Runs task k (f a).run j (.done (.ok b)) := by
  rcases h.of_except_bind with ⟨-, hno⟩ | h
  · exact absurd rfl (hno b)
  · exact h

/-- Of two operations in a row the first has failed, or the second has gone on with what the
first gave. -/
theorem Runs.of_op_bind_done {x : Op α} {f : α → Op β} {result : Except Error β}
    (h : r.Runs task i (x >>= f).run j (.done result)) :
    (∃ e, result = .error e ∧ r.Runs task i x.run j (.done (.error e))) ∨
      ∃ k a, r.Runs task i x.run k (.done (.ok a)) ∧ r.Runs task k (f a).run j (.done result) := by
  rw [Program.run_bind] at h
  rcases h.of_bind with ⟨_, _, -, hq⟩ | ⟨k, result', hx, hf⟩
  · cases hq
  cases result' with
  | ok a => exact .inr ⟨k, a, hx, hf⟩
  | error e =>
    obtain ⟨hquiet, hdone⟩ := hf.of_done
    exact .inl ⟨e, Program.done.inj hdone, hx.extend hf.le hquiet⟩

/-- Of two operations in a row one is underway. -/
theorem Runs.of_op_bind_act {x : Op α} {f : α → Op β} {a : Act}
    {next : a.Reply → Program (Except Error β)}
    (h : r.Runs task i (x >>= f).run j (.act a next)) :
    (∃ next', r.Runs task i x.run j (.act a next')) ∨
      ∃ k y, r.Runs task i x.run k (.done (.ok y)) ∧ r.Runs task k (f y).run j (.act a next) := by
  rw [Program.run_bind] at h
  rcases h.of_bind with ⟨a', next', hx, hq⟩ | ⟨k, result, hx, hf⟩
  · cases hq
    exact .inl ⟨next', hx⟩
  cases result with
  | ok y => exact .inr ⟨k, y, hx, hf⟩
  | error e => cases hf.of_done.2

/-- An operation that is one act has done it. -/
theorem Runs.of_perform_done {a : Act} {result : Except Error a.Reply}
    (h : r.Runs task i (Op.perform a).run j (.done result)) :
    ∃ k reply, i ≤ k ∧ k < j ∧ r.Does k task a reply ∧ r.deeds task i k = [] ∧
      r.deeds task (k + 1) j = [] ∧ result = .ok reply := by
  rcases h.of_act with ⟨-, hq⟩ | ⟨k, reply, hik, hkj, hquiet, hdoes, hrest⟩
  · cases hq
  · obtain ⟨hafter, hdone⟩ := hrest.of_done
    exact ⟨k, reply, hik, hkj, hdoes, hquiet, hafter, Program.done.inj hdone⟩

/-! ### Commands -/

/-- Who learns of an answer has not been told of an end of its context. -/
theorem toldEndOf_of_answer {id : Nat} {answer : Json}
    (h : r.Does k task (.awaitReply (some ctx) id) (.ok answer)) :
    (r.world k).toldEndOf ctx = none := by
  have hawaited := h.awaited_eq
  unfold World.awaited at hawaited
  split at hawaited
  next => cases hawaited
  next hnone => exact hnone

/-- A send that has its answer has written its request, the browser answered it, and the context
had not ended when the task learned of it. -/
theorem Runs.answered (hr : r.Admissible) {session : Option SessionId} {method : String}
    {params answer : Json}
    (h : r.Runs task i (send (some ctx) session method params).run j (.done (.ok answer))) :
    ∃ id w u d, i ≤ w ∧ w < u ∧ u < j ∧ d < u ∧
      r.Does w task (.write (Send.request session method params id)) (.ok ()) ∧
      r.Answers d id (.ok answer) ∧ r.Does u task (.awaitReply (some ctx) id) (.ok answer) ∧
      (r.world u).toldEndOf ctx = none := by
  have hending := Send.ending_of_leads h.leads
  generalize hpath : r.deeds task i j = path at hending
  -- The other ends of a send give errors.
  cases hending with
  | answered id =>
    have hsplit : r.deeds task i j =
        (⟨.endOf ctx, none⟩ :: (Send.parked id ++ [⟨.isClosed, false⟩])) ++
          ⟨.write (Send.request session method params id), .ok ()⟩ ::
            [⟨.awaitReply (some ctx) id, .ok answer⟩] := hpath
    obtain ⟨w, hiw, -, hw, -, hafter⟩ := deeds_split hsplit
    obtain ⟨u, hwu, huj, hu, -, -⟩ := deeds_cons hafter
    obtain ⟨p, -, -, ⟨c, e, hc, hend, heq⟩ | ⟨d, hdu, hanswers⟩ | ⟨-, -, heq⟩⟩ := reply_of_wait hr hu
    · cases heq
    · exact ⟨id, w, u, d, hiw, hwu, huj, hdu, hw, hanswers, hu, toldEndOf_of_answer hu⟩
    · cases heq

/-- A command that is acknowledged was written, the browser answered it, and the context had
not ended when the task learned of it. -/
theorem Runs.acknowledged (hr : r.Admissible) {session : Option SessionId} {command : Command α}
    {x : α} (h : r.Runs task i (execute ctx session command).run j (.done (.ok x))) :
    ∃ id w u d answer, i ≤ w ∧ w < u ∧ u < j ∧ d < u ∧
      r.Does w task (.write (Send.request session command.method command.params id)) (.ok ()) ∧
      r.Answers d id (.ok answer) ∧ r.Does u task (.awaitReply (some ctx) id) (.ok answer) ∧
      (r.world u).toldEndOf ctx = none ∧ command.acknowledge answer = .ok x := by
  rw [execute_run] at h
  rcases h.of_bind with ⟨_, _, -, hq⟩ | ⟨v, reply, hsend, hread⟩
  · cases hq
  obtain ⟨-, hresult⟩ := hread.of_done
  have hbind : reply.bind command.acknowledge = .ok x := (Program.done.inj hresult).symm
  cases reply with
  | error e => cases hbind
  | ok answer =>
    obtain ⟨id, w, u, d, hiw, hwu, huv, hdu, hw, hanswers, hu, htold⟩ := hsend.answered hr
    exact ⟨id, w, u, d, answer, hiw, hwu, Nat.lt_of_lt_of_le huv hread.le, hdu, hw, hanswers, hu,
      htold, hbind⟩

end Run

end PagePilot
