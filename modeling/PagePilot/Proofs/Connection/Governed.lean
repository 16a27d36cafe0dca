import PagePilot.Proofs.Connection.Closing
import PagePilot.Proofs.Connection.Command
import PagePilot.Proofs.Context.Lineage
/-!
# PagePilot.Proofs.Connection.Governed

Calls and the contexts that govern them, in any run (`Run.governed_call`). A call looks at its
context before it does anything, and each time that it looks for its answer. `Run.CallEnds`
lists how it can end, with the last of these looks: where it was, and up to which time it told
the end of a context. For the first look that is the present, and for a wait the time up to
which those who wait have been told.

* A program whose first act is such a look (`Program.Heeds`) does nothing else when the context
  has ended (`Run.FailsAtLook`).
* The error of the context is the result exactly when the last look told it: none of the other
  ends gives such an error (`Run.CallEnds.race`).
* A call that is abandoned to its context leaves its request behind, and nothing else
  (`Run.Abandoned`): the answer that may still come is for nobody.
-/

namespace PagePilot

open Wire

/-! ### Programs that look first -/

/-- A program whose first act is to look at a context, and which fails with its end. -/
def Program.Heeds (ctx : Context) (report : Error → ε) (p : Program (Except ε α)) : Prop :=
  ∃ next : Option Error → Program (Except ε α),
    p = .act (.endOf ctx) next ∧ ∀ e, next (some e) = .done (.error (report e))

namespace Program.Heeds

variable {ctx : Context} {report : Error → ε}

theorem bind {x : ExceptT ε Program α} {f : α → ExceptT ε Program β}
    (h : x.run.Heeds ctx report) : (x >>= f).run.Heeds ctx report := by
  obtain ⟨next, hx, hnext⟩ := h
  refine ⟨fun ended => (next ended).bind (carry f), ?_, fun e => ?_⟩
  · rw [run_bind, hx, bind_act]
  · show (next (some e)).bind (carry f) = _
    rw [hnext]
    rfl

theorem execute (session : Option SessionId) (command : Command α) :
    (execute ctx session command).run.Heeds ctx id :=
  bind ⟨_, Send.send_run .., fun _ => rfl⟩

end Program.Heeds

namespace Run

variable (r : Run)

/-- A task works at a program that looks at a context which has ended: it is about to look, or it
has done so, and nothing else, and has failed with the end of the context. -/
inductive FailsAtLook (ctx : Context) (report : Error → ε) (task : TaskId) (i j : Nat) :
    Program (Except ε α) → Prop
  | looking {next : Option Error → Program (Except ε α)} (hquiet : r.deeds task i j = []) :
      FailsAtLook ctx report task i j (.act (.endOf ctx) next)
  | failed {k : Nat} {e : Error} (hik : i ≤ k) (hkj : k < j)
      (hended : (r.world k).endOf ctx = some e)
      (hdeeds : r.deeds task i j = [⟨.endOf ctx, some e⟩]) :
      FailsAtLook ctx report task i j (.done (.error (report e)))

variable {r} {ctx : Context} {report : Error → ε} {task : TaskId} {i j k l : Nat}

theorem Runs.failsAtLook (hr : r.Admissible) {p q : Program (Except ε α)}
    (hp : p.Heeds ctx report) (hended : ((r.world i).endOf ctx).isSome)
    (h : r.Runs task i p j q) : r.FailsAtLook ctx report task i j q := by
  obtain ⟨next, rfl, hnext⟩ := hp
  rcases h.of_act with ⟨hquiet, rfl⟩ | ⟨k, ended, hik, hkj, hquiet, hdoes, hrest⟩
  · exact .looking hquiet
  obtain ⟨e, he⟩ := Option.isSome_iff_exists.mp (ended_mono hr hik hended)
  obtain rfl := hdoes.endOf_eq.symm.trans he
  rw [hnext] at hrest
  obtain ⟨hafter, rfl⟩ := hrest.of_done
  refine .failed hik hkj he ?_
  rw [deeds_at (d := ⟨_, _⟩) hik hkj hdoes, hquiet, hafter, List.nil_append]

/-- Such a program never has to wait. -/
theorem FailsAtLook.prompt {q : Program (Except ε α)} (h : r.FailsAtLook ctx report task i j q) :
    (r.deeds task i j).length ≤ 1 ∧
      ∀ act next, q = .act act next → ((r.world j).perform task act).isSome := by
  cases h with
  | looking hquiet =>
    refine ⟨by simp [hquiet], fun act next hq => ?_⟩
    cases hq
    rfl
  | failed _ _ _ hdeeds => exact ⟨by simp [hdeeds], nofun⟩

/-! ### How a call ends -/

variable (r) in
/-- How a call ends, with its last look at its context: it was at `l`, and told of ends up to
`time`. -/
inductive CallEnds (ctx : Context) (session : Option SessionId) (command : Command α)
    (task : TaskId) (i j l : Nat) : Nat → Except Error α → Prop
  /-- The context had ended before anything was done. -/
  | ended {e : Error} (hl : i ≤ l ∧ l < j) (hlook : r.Does l task (.endOf ctx) (some e)) :
      CallEnds ctx session command task i j l (r.world l).now (.error e)
  /-- The connection was closed, and nothing was written. -/
  | closed {m : Nat} (hl : i ≤ l ∧ l < m ∧ m < j) (hlook : r.Does l task (.endOf ctx) none)
      (hclosed : r.Does m task .isClosed true) :
      CallEnds ctx session command task i j l (r.world l).now (.error .connectionClosed)
  /-- The request could not be written. -/
  | unwritten {w id : Nat} {e : Error} (hl : i ≤ l ∧ l < w ∧ w < j)
      (hlook : r.Does l task (.endOf ctx) none)
      (hwrite : r.Does w task
        (.write (Send.request session command.method command.params id)) (.error e)) :
      CallEnds ctx session command task i j l (r.world l).now (.error e)
  /-- The wait for the answer is given up for the end of the context. -/
  | abandoned {w id : Nat} {e : Error} (hl : i ≤ w ∧ w < l ∧ l < j)
      (hwrite : r.Does w task
        (.write (Send.request session command.method command.params id)) (.ok ()))
      (hwait : r.Does l task (.awaitReply (some ctx) id) (.error e))
      (htold : (r.world l).toldEndOf ctx = some e) :
      CallEnds ctx session command task i j l (r.world l).served (.error e)
  /-- The answer is an error. -/
  | refused {w id d : Nat} {e : Error} (hl : i ≤ w ∧ w < l ∧ l < j)
      (hwrite : r.Does w task
        (.write (Send.request session command.method command.params id)) (.ok ()))
      (hwait : r.Does l task (.awaitReply (some ctx) id) (.error e))
      (htold : (r.world l).toldEndOf ctx = none) (hd : d < l)
      (hanswer : r.Answers d id (.error e)) :
      CallEnds ctx session command task i j l (r.world l).served (.error e)
  /-- The answer is a result, which is read; `null` is read as an object without members. -/
  | acknowledged {w id d : Nat} {answer : Json} (hl : i ≤ w ∧ w < l ∧ l < j)
      (hwrite : r.Does w task
        (.write (Send.request session command.method command.params id)) (.ok ()))
      (hwait : r.Does l task (.awaitReply (some ctx) id) (.ok answer))
      (htold : (r.world l).toldEndOf ctx = none) (hd : d < l)
      (hanswer : r.Answers d id (.ok answer)) :
      CallEnds ctx session command task i j l (r.world l).served (command.acknowledge answer)
  /-- The reader has given up, and no answer had come. -/
  | lost {w id c : Nat} (hl : i ≤ w ∧ w < l ∧ l < j)
      (hwrite : r.Does w task
        (.write (Send.request session command.method command.params id)) (.ok ()))
      (hwait : r.Does l task (.awaitReply (some ctx) id) (.error .connectionClosed))
      (htold : (r.world l).toldEndOf ctx = none) (hc : c < l) (hclears : r.Clears c)
      (hnone : ∀ d < l, ∀ reply, ¬ r.Answers d id reply) :
      CallEnds ctx session command task i j l (r.world l).served (.error .connectionClosed)

variable {session : Option SessionId} {command : Command α}

/-- What a wait for an answer ends with, when its context has not been told to have ended. -/
theorem toldEndOf_of_wait {id : Nat} {reply : Reply}
    (h : r.Does l task (.awaitReply (some ctx) id) reply) :
    (∃ e, (r.world l).toldEndOf ctx = some e ∧ reply = .error e) ∨
      (r.world l).toldEndOf ctx = none := by
  have hawaited := h.awaited_eq
  unfold World.awaited at hawaited
  rw [Option.bind_some] at hawaited
  cases htold : (r.world l).toldEndOf ctx with
  | none => exact .inr rfl
  | some e =>
    rw [htold] at hawaited
    exact .inl ⟨e, rfl, (Option.some.inj hawaited).symm⟩

theorem CallEnds.of_wait (hr : r.Admissible) {w id : Nat} {reply : Reply}
    (hl : i ≤ w ∧ w < l ∧ l < j)
    (hwrite : r.Does w task
      (.write (Send.request session command.method command.params id)) (.ok ()))
    (hwait : r.Does l task (.awaitReply (some ctx) id) reply) :
    r.CallEnds ctx session command task i j l (r.world l).served
      (reply.bind command.acknowledge) := by
  rcases toldEndOf_of_wait hwait with ⟨e, htold, rfl⟩ | htold
  · exact .abandoned hl hwrite hwait htold
  obtain ⟨p, -, -, ⟨c, e, hc, hend, rfl⟩ | ⟨d, hd, hanswer⟩ | ⟨⟨c, -, hc, hclears⟩, hnone, rfl⟩⟩ :=
    reply_of_wait hr hwait
  · cases hc
    cases htold.symm.trans hend
  · cases reply with
    | error e => exact .refused hl hwrite hwait htold hd hanswer
    | ok answer => exact .acknowledged hl hwrite hwait htold hd hanswer
  · exact .lost hl hwrite hwait htold hc hclears hnone

/-- A call ends in no other way. -/
theorem Runs.callEnds (hr : r.Admissible) {result : Except Error α}
    (h : r.Runs task i (execute ctx session command).run j (.done result)) :
    ∃ l time, r.CallEnds ctx session command task i j l time result := by
  rw [execute_run] at h
  rcases h.of_bind with ⟨_, _, -, hq⟩ | ⟨v, reply, hsend, hread⟩
  · cases hq
  obtain ⟨hquiet, hresult⟩ := hread.of_done
  cases hresult
  have hending := Send.ending_of_leads hsend.leads
  have hdeeds : r.deeds task i v = r.deeds task i j := by
    rw [deeds_append hsend.le hread.le, hquiet, List.append_nil]
  rw [hdeeds] at hending
  generalize hpath : r.deeds task i j = path at hending
  cases hending with
  | ended c e hc =>
    cases hc
    obtain ⟨l, hil, hlj, hlook, -, -⟩ := deeds_cons hpath
    exact ⟨l, _, .ended ⟨hil, hlj⟩ hlook⟩
  | refused =>
    obtain ⟨l, hil, hlj, hlook, -, hrest⟩ := deeds_cons hpath
    obtain ⟨m, hlm, hmj, hclosed, -, -⟩ := deeds_cons hrest
    exact ⟨l, _, .closed ⟨hil, hlm, hmj⟩ hlook hclosed⟩
  | turnedBack id =>
    obtain ⟨l, hil, hlj, hlook, -, hrest⟩ := deeds_cons hpath
    have hsplit : r.deeds task (l + 1) j =
        Send.parked id ++ ⟨.isClosed, true⟩ :: [⟨.unpark id, ()⟩] := hrest
    obtain ⟨m, hlm, hmj, hclosed, -, -⟩ := deeds_split hsplit
    exact ⟨l, _, .closed ⟨hil, hlm, hmj⟩ hlook hclosed⟩
  | failed id e =>
    obtain ⟨l, hil, hlj, hlook, -, hrest⟩ := deeds_cons hpath
    have hsplit : r.deeds task (l + 1) j = (Send.parked id ++ [⟨.isClosed, false⟩]) ++
        ⟨.write (Send.request session command.method command.params id), .error e⟩ ::
          [⟨.unpark id, ()⟩] := hrest
    obtain ⟨w, hlw, hwj, hwrite, -, -⟩ := deeds_split hsplit
    exact ⟨l, _, .unwritten ⟨hil, hlw, hwj⟩ hlook hwrite⟩
  | answered id =>
    have hsplit : r.deeds task i j =
        (⟨.endOf ctx, none⟩ :: (Send.parked id ++ [⟨.isClosed, false⟩])) ++
          ⟨.write (Send.request session command.method command.params id), .ok ()⟩ ::
            [⟨.awaitReply (some ctx) id, reply⟩] := hpath
    obtain ⟨w, hiw, -, hwrite, -, hafter⟩ := deeds_split hsplit
    obtain ⟨l, hwl, hlj, hwait, -, -⟩ := deeds_cons hafter
    exact ⟨l, _, .of_wait hr ⟨hiw, hwl, hlj⟩ hwrite hwait⟩

/-! ### The race -/

theorem isCancellation_of_errorAt {scopes : Scopes} {time : Nat} {e : Error}
    (h : ctx.errorAt scopes time = some e) : e.isCancellation = true := by
  rcases Context.errorAt_eq_some.mp h with ⟨-, rfl⟩ | ⟨-, -, rfl⟩ <;> rfl

theorem not_isCancellation_of_answers {d id : Nat} {e : Error} (h : r.Answers d id (.error e)) :
    e.isCancellation = false := by
  obtain ⟨response, -, -, -, heq⟩ := h
  unfold Connection.replyIn at heq
  split at heq
  · cases heq
    unfold Connection.refusal
    dsimp only
    split <;> split <;> rfl
  · cases heq

theorem not_isCancellation_of_write {request : Request} {e : Error}
    (h : r.Does k task (.write request) (.error e)) : e.isCancellation = false := by
  obtain ⟨-, next, w', -, hp⟩ := h.spec
  have hwrite : ((r.world k).write task request).1 = .error e :=
    congrArg Prod.fst (Option.some.inj hp)
  unfold World.write at hwrite
  split at hwrite
  · cases hwrite
    rfl
  · cases hwrite

theorem error_of_mapError {x : Except ε α} {f : ε → ε'} {e : ε'} (h : x.mapError f = .error e) :
    ∃ cause, e = f cause := by
  cases x with
  | ok a => cases h
  | error cause => exact ⟨cause, (Except.error.inj h).symm⟩

/-- What comes of reading an acknowledgment is no end of a context. -/
theorem not_isCancellation_of_acknowledge {answer : Json} {e : Error}
    (h : command.acknowledge answer = .error e) : e.isCancellation = false := by
  obtain ⟨cause, rfl⟩ := error_of_mapError (f := Error.json) h
  rfl

/-- An end that was told is the result. -/
theorem race_of_told {scopes : Scopes} {time : Nat} {e e' : Error}
    (htold : ctx.errorAt scopes time = some e') :
    ((.error e' : Except Error α) = .error e ∧ e.isCancellation = true) ↔
      ctx.errorAt scopes time = some e := by
  rw [htold, Option.some.injEq, Except.error.injEq]
  exact ⟨And.left, fun heq => ⟨heq, heq ▸ isCancellation_of_errorAt htold⟩⟩

/-- Where no end was told, the result is that of no end. -/
theorem race_of_untold {scopes : Scopes} {time : Nat} {e : Error} {result : Except Error α}
    (hnone : ctx.errorAt scopes time = none)
    (hother : ∀ e, result = .error e → e.isCancellation = false) :
    (result = .error e ∧ e.isCancellation = true) ↔ ctx.errorAt scopes time = some e := by
  rw [hnone]
  refine ⟨fun ⟨hresult, htrue⟩ => ?_, nofun⟩
  cases (hother e hresult).symm.trans htrue

/-- The error of a context is the result of a call exactly when its last look told it. -/
theorem CallEnds.race {time : Nat} {result : Except Error α}
    (h : r.CallEnds ctx session command task i j l time result) (e : Error) :
    (result = .error e ∧ e.isCancellation = true) ↔
      ctx.errorAt (r.world l).scopes time = some e := by
  cases h with
  | ended _ hlook => exact race_of_told hlook.endOf_eq
  | closed _ hlook =>
    refine race_of_untold hlook.endOf_eq fun e he => ?_
    cases he
    rfl
  | unwritten _ hlook hwrite =>
    refine race_of_untold hlook.endOf_eq fun e he => ?_
    cases he
    exact not_isCancellation_of_write hwrite
  | abandoned _ _ _ htold => exact race_of_told htold
  | refused _ _ _ htold _ hanswer =>
    refine race_of_untold htold fun e he => ?_
    cases he
    exact not_isCancellation_of_answers hanswer
  | acknowledged _ _ _ htold =>
    exact race_of_untold htold fun e => not_isCancellation_of_acknowledge
  | lost _ _ _ htold =>
    refine race_of_untold htold fun e he => ?_
    cases he
    rfl

/-- No look tells of a time that has not come, and each tells of the present when those who wait
have been told of it. -/
theorem CallEnds.time_le (hr : r.Admissible) {time : Nat} {result : Except Error α}
    (h : r.CallEnds ctx session command task i j l time result) :
    time ≤ (r.world l).now ∧ ((r.world l).served = (r.world l).now → time = (r.world l).now) := by
  cases h with
  | ended | closed | unwritten => exact ⟨Nat.le_refl _, fun _ => rfl⟩
  | abandoned | refused | acknowledged | lost => exact ⟨served_le_now hr l, id⟩

/-! ### Requests that are left behind -/

variable (r) in
/-- A request whose wait has ended at `l` with the end of its context. -/
structure Abandoned (task : TaskId) (id l : Nat) : Prop where
  /-- Nothing has changed by that but what the task stands at. -/
  frame : ∃ state, r.world (l + 1) = (r.world l).setTask task state
  /-- Nobody else waits for the answer, before or after. -/
  unheard : ∀ m task' ctx' reply, r.Does m task' (.awaitReply ctx' id) reply → m = l
  /-- An answer that still comes is nothing to other requests, to tasks and to listeners. -/
  late : ∀ d response, r.Receives d response → response.id = id →
    (∀ id', id' ≠ id →
      (id' ∈ (r.world (d + 1)).connection.parked ↔ id' ∈ (r.world d).connection.parked) ∧
        (r.world (d + 1)).connection.replyTo? id' = (r.world d).connection.replyTo? id') ∧
      (r.world (d + 1)).tasks = (r.world d).tasks ∧ (r.world (d + 1)).board = (r.world d).board

theorem Does.world_succ_of_wait {id : Nat} {reply : Reply} {ctx : Option Context}
    (h : r.Does l task (.awaitReply ctx id) reply) :
    ∃ state, r.world (l + 1) = (r.world l).setTask task state := by
  obtain ⟨ht, next, w', htask, hp⟩ := h.spec
  obtain ⟨reply', -, hreply⟩ := Option.map_eq_some_iff.mp hp
  obtain rfl : r.world l = w' := congrArg Prod.snd hreply
  refine ⟨.running (next reply), ?_⟩
  rw [world_succ ht]
  simp [World.apply, World.step, htask, hp]

/-- A response that is taken in concerns nothing but the connection. -/
theorem aside_of_receives {d : Nat} {response : Response} (h : r.Receives d response) :
    (r.world (d + 1)).tasks = (r.world d).tasks ∧ (r.world (d + 1)).board = (r.world d).board := by
  obtain ⟨t, ht, hincoming⟩ := Option.bind_eq_some_iff.mp h
  rw [world_succ ht]
  cases t
  case read =>
    simp only [World.incoming?] at hincoming
    split at hincoming
    next owner message rest hreading hinbox =>
      have hdecode : Message.decode message = .ok (.response response) := by
        cases hm : Message.decode message with
        | error cause =>
          rw [hm] at hincoming
          cases hincoming
        | ok m =>
          rw [hm] at hincoming
          cases hincoming
          rfl
      simp only [World.apply, World.read, hreading, hinbox, World.take, hdecode]
      exact ⟨World.answer_tasks .., World.answer_board ..⟩
    next => cases hincoming
  all_goals cases hincoming

theorem abandoned_of_wait (hr : r.Admissible) {id : Nat} {reply : Reply}
    (h : r.Does l task (.awaitReply (some ctx) id) reply) : r.Abandoned task id l where
  frame := h.world_succ_of_wait
  unheard _ _ _ _ h' := wait_unique hr h' h
  late _ _ hreceives hid :=
    ⟨fun _ hne => others_of_receives hreceives (hid ▸ hne), aside_of_receives hreceives⟩

/-! ### All together -/

/-- A call writes one request at most, under an id that it was given. -/
theorem Runs.call_writes (hr : r.Admissible) {q : Program (Except Error α)}
    (h : r.Runs task i (execute ctx session command).run j q) {w : Nat} {request : Request}
    {written : Except Error Unit} (hiw : i ≤ w) (hwj : w < j)
    (hw : r.Does w task (.write request) written) :
    (∃ id, request = Send.request session command.method command.params id ∧
      ∃ a < w, r.Does a task .allocate id) ∧
      ∀ w' request' written', i ≤ w' → w' < j → r.Does w' task (.write request') written' →
        w' = w := by
  obtain ⟨q', hsend⟩ := send_of_execute h.leads
  have hmem : ∀ {w : Nat} {request : Request} {written : Except Error Unit}, i ≤ w → w < j →
      r.Does w task (.write request) written →
        ⟨.write request, written⟩ ∈ (r.deeds task i j).filter Deed.isWrite :=
    fun hiw hwj hw => List.mem_filter.mpr ⟨mem_deeds.mpr ⟨_, hiw, hwj, hw⟩, rfl⟩
  rcases Send.writes_of_leads hsend with hnone | ⟨-, id, result, hone⟩
  · have hmem := hmem hiw hwj hw
    rw [hnone] at hmem
    cases hmem
  have honly : ∀ {w : Nat} {request : Request} {written : Except Error Unit}, i ≤ w → w < j →
      r.Does w task (.write request) written →
        request = Send.request session command.method command.params id := by
    intro w request written hiw hwj hw
    have hmem := hmem hiw hwj hw
    rw [hone, List.mem_singleton] at hmem
    cases hmem
    rfl
  obtain rfl := honly hiw hwj hw
  refine ⟨⟨id, rfl, allocated_of_write hr hw⟩, fun w' request' written' hiw' hwj' hw' => ?_⟩
  obtain rfl := honly hiw' hwj' hw'
  exact write_unique hr hw' hw rfl

/-- A call waits for nothing but its answer and the end of its context. -/
theorem Runs.call_waits {q : Program (Except Error α)}
    (h : r.Runs task i (execute ctx session command).run j q) {act : Act}
    {next : act.Reply → Program (Except Error α)} (hq : q = .act act next)
    (hstuck : (r.world j).perform task act = none) :
    ∃ id, act = .awaitReply (some ctx) id ∧ (r.world j).toldEndOf ctx = none ∧
      (r.world j).connection.outcome? id = none := by
  subst hq
  rw [execute_run] at h
  rcases h.of_bind with ⟨act', next', hsend, hq⟩ | ⟨v, reply, -, hread⟩
  · cases hq
    have hs := Send.sending_of_leads hsend.leads
    generalize r.deeds task i j = path at hs
    generalize hq : Program.act act next' = q at hs
    cases hs with
    | start | looking | numbering | parking | lookingAgain | turningBack | writing | failing =>
      cases hq
      cases hstuck
    | ended | refused | turnedBack | failed | answered => cases hq
    | awaiting id =>
      cases hq
      have hawaited : (r.world j).awaited (some ctx) id = none := Option.map_eq_none_iff.mp hstuck
      unfold World.awaited at hawaited
      rw [Option.bind_some] at hawaited
      cases htold : (r.world j).toldEndOf ctx with
      | none =>
        rw [htold] at hawaited
        exact ⟨id, rfl, rfl, hawaited⟩
      | some e =>
        rw [htold] at hawaited
        cases hawaited
  · cases hread.of_done.2

variable (r) in
/-- A call of a command under a context, done by `task` from `i` on, of which `q` is left at
`j`. -/
structure GovernedCall (ctx : Context) (session : Option SessionId) (command : Command α)
    (task : TaskId) (i j : Nat) (q : Program (Except Error α)) : Prop where
  /-- Under a context that has ended it fails with its end, and looks at it and does nothing
  else: no id is taken, nothing is parked and nothing is written. -/
  late : ((r.world i).endOf ctx).isSome → r.FailsAtLook ctx id task i j q
  /-- It writes one request at most, under an id that was given to it. -/
  once : ∀ w request written, i ≤ w → w < j → r.Does w task (.write request) written →
    (∃ id, request = Send.request session command.method command.params id ∧
      ∃ a < w, r.Does a task .allocate id) ∧
      ∀ w' request' written', i ≤ w' → w' < j → r.Does w' task (.write request') written' → w' = w
  /-- It is a few acts, and only the last one may have to wait, until the context has ended or
  there is an answer. -/
  waits : (r.deeds task i j).length ≤ 7 ∧ ∀ act next, q = .act act next →
    (r.world j).perform task act = none →
      ∃ id, act = .awaitReply (some ctx) id ∧ (r.world j).toldEndOf ctx = none ∧
        (r.world j).connection.outcome? id = none
  /-- When it ends, it does so in one of the ways of `CallEnds`. -/
  ends : ∀ result, q = .done result →
    ∃ l time, r.CallEnds ctx session command task i j l time result
  /-- Its result is the error of the context exactly when its last look told of the end, whether
  or not there was an answer by then. -/
  race : ∀ l time result, r.CallEnds ctx session command task i j l time result → ∀ e,
    ((result = .error e ∧ e.isCancellation = true) ↔
      ctx.errorAt (r.world l).scopes time = some e)
  /-- What the last look told has happened, and it told of all that has happened when those who
  wait have been told what time it is. -/
  told : ∀ l time result, r.CallEnds ctx session command task i j l time result →
    time ≤ (r.world l).now ∧ ((r.world l).served = (r.world l).now → time = (r.world l).now)
  /-- A request that is left behind concerns nobody else, and neither does its answer. -/
  abandoned : ∀ l id reply, r.Does l task (.awaitReply (some ctx) id) reply →
    r.Abandoned task id l

/-- Every call races its context, and leaves everything else alone. -/
theorem governed_call (hr : r.Admissible) {q : Program (Except Error α)}
    (h : r.Runs task i (execute ctx session command).run j q) :
    r.GovernedCall ctx session command task i j q where
  late hended := h.failsAtLook hr (.execute session command) hended
  once _ _ _ hiw hwj hw := h.call_writes hr hiw hwj hw
  waits := by
    obtain ⟨q', hsend⟩ := send_of_execute h.leads
    exact ⟨Send.length_of_leads hsend, fun act next hq hstuck => h.call_waits hq hstuck⟩
  ends result hq := by
    subst hq
    exact h.callEnds hr
  race _ _ _ hends := hends.race
  told _ _ _ hends := hends.time_le hr
  abandoned _ _ _ hwait := abandoned_of_wait hr hwait

/-- Whether every call fails with the end of its context exactly when that has ended, by the
clock, at its last look. -/
def CallsRaceClock (r : Run) : Prop :=
  ∀ (α : Type) (ctx : Context) (session : Option SessionId) (command : Command α) (task : TaskId)
    (i j l time : Nat) (result : Except Error α),
    r.Runs task i (execute ctx session command).run j (.done result) →
      r.CallEnds ctx session command task i j l time result →
        ((∃ e, result = .error e ∧ e.isCancellation = true) ↔ ((r.world l).endOf ctx).isSome)

/-- A call that is answered, and looks for its answer when its deadline has passed and the timers
have not yet been served. -/
def answeredLate : Run where
  start := .initial [] .none
  transitions :=
    [.newScope none, .startReading,
      .spawn ((execute ⟨0, some 50⟩ none .stopLoading).task fun _ => .nothing),
      .step 0, .step 0, .step 0, .step 0, .step 0, .step 0,
      .inject (.object [("id", .int 0), ("result", .object [])]), .receive, .read,
      .tick 100, .step 0]

theorem answeredLate_admissible : answeredLate.Admissible := by
  refine admissible_of_admits ⟨trivial, trivial, ?_, trivial, trivial, trivial, trivial, trivial,
    trivial, trivial, trivial, trivial, trivial, trivial, trivial⟩
  exact .bind (execute_orderly ..) fun _ => .done _

theorem answeredLate_runs : answeredLate.Runs 0 3
    (execute ⟨0, some 50⟩ none .stopLoading).run 14 (.done (.ok ())) :=
  ⟨⟨_, rfl⟩, by decide, .cons (.cons (.cons (.cons (.cons (.cons (.cons (.nil _)))))))⟩

theorem governed_call_answeredLate : answeredLate.Admissible ∧
    answeredLate.GovernedCall ⟨0, some 50⟩ none .stopLoading 0 3 14 (.done (.ok ())) :=
  ⟨answeredLate_admissible, governed_call answeredLate_admissible answeredLate_runs⟩

/-- The answer wins, though the deadline has passed by the clock. -/
theorem answeredLate_acknowledged :
    answeredLate.Admissible ∧ ¬ answeredLate.CallsRaceClock := by
  refine ⟨answeredLate_admissible, fun h => ?_⟩
  have hends : answeredLate.CallEnds ⟨0, some 50⟩ none .stopLoading 0 3 14 13 0 (.ok ()) :=
    @CallEnds.acknowledged answeredLate Unit ⟨0, some 50⟩ none .stopLoading 0 3 14 13 8 0 11
      (.object []) (by decide) rfl rfl rfl (by decide)
      ⟨{ id := 0, result := some (.object []), error := none }, rfl, rfl, by decide, rfl⟩
  obtain ⟨e, he, -⟩ := (h _ _ _ _ _ _ _ _ _ _ answeredLate_runs hends).mpr (by decide)
  cases he

end Run

end PagePilot
