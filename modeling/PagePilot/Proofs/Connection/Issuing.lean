import PagePilot.Proofs.Connection.Governed
/-!
# PagePilot.Proofs.Connection.Issuing

Requests on their way, in any run. `Run.Issues` says how far a task has got with a request that it
is to write: it is written, or nothing holds the task up on the way there. Only a context that has
ended and a connection that is closed can keep it from writing. And a program that begins with a
call goes on with the first reply that it gets (`Run.Runs.first_reply`).
-/

namespace PagePilot

open Wire

/-- An act that waits for an answer. -/
def Act.awaits : Act → Bool
  | .awaitReply .. => true
  | _ => false

namespace Run

variable {r : Run} {ctx : Context} {session : Option SessionId} {command : Command α}
  {task : TaskId} {i j k : Nat}

/-! ### Requests that are to be written -/

variable (r) in
/-- How far a task has got between two positions with the request of a command, which it writes
with `bound` acts before it at most. -/
inductive Issues (ctx : Context) (session : Option SessionId) (command : Command α) (bound : Nat)
    (task : TaskId) (i j : Nat) : Program β → Prop
  | written {id : Nat} {result : Except Error Unit} {q : Program β}
      (hwrite : ⟨.write (Send.request session command.method command.params id), result⟩ ∈
        r.deeds task i j) :
      Issues ctx session command bound task i j q
  /-- The task has found that the context has ended. -/
  | ended {e : Error} {q : Program β} (hended : ⟨.endOf ctx, some e⟩ ∈ r.deeds task i j) :
      Issues ctx session command bound task i j q
  /-- The task has found that the connection is closed. -/
  | closed {q : Program β} (hclosed : ⟨.isClosed, true⟩ ∈ r.deeds task i j) :
      Issues ctx session command bound task i j q
  /-- The task is on the way there, and can go on. -/
  | next {a : Act} {rest : a.Reply → Program β} (hlength : (r.deeds task i j).length ≤ bound)
      (hprompt : ((r.world j).perform task a).isSome) :
      Issues ctx session command bound task i j (.act a rest)

section Issues

variable {bound : Nat}

/-- A part of a program that is underway has got as far as the whole. -/
theorem Issues.bind {a : Act} {next : a.Reply → Program β} {f : β → Program γ}
    (h : r.Issues ctx session command bound task i j (.act a next)) :
    r.Issues ctx session command bound task i j ((Program.act a next).bind f) := by
  cases h with
  | written hwrite => exact .written hwrite
  | ended hended => exact .ended hended
  | closed hclosed => exact .closed hclosed
  | next hlength hprompt => exact .next hlength hprompt

/-- What a part that is over has come to, it has come to for the whole. -/
theorem Issues.of_done {x : β} {q : Program γ}
    (h : r.Issues ctx session command bound task i j (.done x)) (hij : i ≤ j) (hjk : j ≤ k) :
    r.Issues ctx session command bound task i k q := by
  have hmono : ∀ d ∈ r.deeds task i j, d ∈ r.deeds task i k := by
    rw [deeds_append hij hjk]
    exact fun d => List.mem_append_left _
  cases h with
  | written hwrite => exact .written (hmono _ hwrite)
  | ended hended => exact .ended (hmono _ hended)
  | closed hclosed => exact .closed (hmono _ hclosed)

/-- Some acts before count as well. -/
theorem Issues.earlier {q : Program β} (h : r.Issues ctx session command bound task k j q)
    (hik : i ≤ k) (hkj : k ≤ j) :
    r.Issues ctx session command ((r.deeds task i k).length + bound) task i j q := by
  have hdeeds : r.deeds task i j = r.deeds task i k ++ r.deeds task k j := deeds_append hik hkj
  have hmono : ∀ d ∈ r.deeds task k j, d ∈ r.deeds task i j := by
    rw [hdeeds]
    exact fun d => List.mem_append_right _
  cases h with
  | written hwrite => exact .written (hmono _ hwrite)
  | ended hended => exact .ended (hmono _ hended)
  | closed hclosed => exact .closed (hmono _ hclosed)
  | next hlength hprompt =>
    refine .next ?_ hprompt
    rw [hdeeds, List.length_append]
    exact Nat.add_le_add_left hlength _

/-- What a task has come to depends on nothing but what it has done, and on where it is. -/
theorem Issues.of_deeds {q : Program β} (h : r.Issues ctx session command bound task i j q)
    (hdeeds : r.deeds task i j = r.deeds task k j) :
    r.Issues ctx session command bound task k j q := by
  cases h with
  | written hwrite => exact .written (hdeeds ▸ hwrite)
  | ended hended => exact .ended (hdeeds ▸ hended)
  | closed hclosed => exact .closed (hdeeds ▸ hclosed)
  | next hlength hprompt => exact .next (hdeeds ▸ hlength) hprompt

end Issues

/-- A send comes to writing its request. -/
theorem Runs.issues_send {q : Program Reply}
    (h : r.Runs task i (send (some ctx) session command.method command.params).run j q) :
    r.Issues ctx session command 5 task i j q := by
  have hs := Send.sending_of_leads h.leads
  generalize hpath : r.deeds task i j = path at hs
  cases hs with
  | start | looking | numbering | parking | lookingAgain | writing =>
    exact .next (by rw [hpath]; simp [Send.looked, Send.parked]) rfl
  | ended c e hc =>
    cases hc
    exact .ended (e := e) (by simp [hpath])
  | refused | turningBack | turnedBack => exact .closed (by simp [hpath])
  | failing id e | failed id e =>
    have hwrite : ⟨.write (Send.request session command.method command.params id), .error e⟩ ∈
        r.deeds task i j := by
      simp [hpath, Send.written]
    exact .written hwrite
  | awaiting id | answered id =>
    have hwrite : ⟨.write (Send.request session command.method command.params id), .ok ()⟩ ∈
        r.deeds task i j := by
      simp [hpath, Send.written]
    exact .written hwrite

/-- A call comes to writing its request. -/
theorem Runs.issues_call {q : Program (Except Error α)}
    (h : r.Runs task i (execute ctx session command).run j q) :
    r.Issues ctx session command 5 task i j q := by
  rw [execute_run] at h
  rcases h.of_bind with ⟨a, next, hsend, rfl⟩ | ⟨k, reply, hsend, hread⟩
  · exact hsend.issues_send.bind
  · exact hsend.issues_send.of_done hsend.le hread.le

/-- So does a program that begins with a call. -/
theorem Runs.issues_first {f : Except Error α → Program β} {q : Program β}
    (h : r.Runs task i ((execute ctx session command).run.bind f) j q) :
    r.Issues ctx session command 5 task i j q := by
  rcases h.of_bind with ⟨a, next, hcall, rfl⟩ | ⟨k, answer, hcall, hrest⟩
  · exact hcall.issues_call.bind
  · exact hcall.issues_call.of_done hcall.le hrest.le

/-! ### Replies -/

variable (r) in
/-- A task has got a reply at `u`, and none between `i` and there. -/
structure FirstReply (ctx : Context) (task : TaskId) (i u id : Nat) (reply : Reply) : Prop where
  got : r.Does u task (.awaitReply (some ctx) id) reply
  first : ∀ v id' reply', i ≤ v → v < u → ¬ r.Does v task (.awaitReply (some ctx) id') reply'

/-- A reply is the first one when the task has waited for none before. -/
theorem FirstReply.of_deeds {u id : Nat} {reply : Reply}
    (hgot : r.Does u task (.awaitReply (some ctx) id) reply)
    (hbefore : ∀ d ∈ r.deeds task i u, d.act.awaits = false) :
    r.FirstReply ctx task i u id reply := by
  refine ⟨hgot, fun v id' reply' hiv hvu hdoes => ?_⟩
  have hmem : ⟨.awaitReply (some ctx) id', reply'⟩ ∈ r.deeds task i u :=
    mem_deeds.mpr ⟨v, hiv, hvu, hdoes⟩
  exact Bool.noConfusion (hbefore _ hmem)

/-- The first reply that a program gets which begins with a call is that to the call. -/
theorem Runs.first_reply (hr : r.Admissible) {f : Except Error α → Program β} {q : Program β}
    (hstops : ∀ e, ∃ y, f (.error e) = .done y)
    (h : r.Runs task i ((execute ctx session command).run.bind f) j q) {u id : Nat} {reply : Reply}
    (hiu : i ≤ u) (huj : u < j) (hu : r.FirstReply ctx task i u id reply) :
    r.Runs task i (execute ctx session command).run (u + 1)
      (.done (reply.bind command.acknowledge)) := by
  have hmem : ⟨.awaitReply (some ctx) id, reply⟩ ∈ r.deeds task i (u + 1) :=
    mem_deeds.mpr ⟨u, hiu, Nat.lt_succ_self u, hu.got⟩
  obtain ⟨q', h⟩ := h.upTo (Nat.le_succ_of_le hiu) huj
  rcases h.of_bind with ⟨a, next, hasks, -⟩ | ⟨k, x, hasks, hrest⟩
  · cases done_of_wait_execute hasks.leads hmem
  rcases Nat.lt_or_ge u k with huk | hku
  · obtain rfl := Nat.le_antisymm hrest.le huk
    rw [done_of_wait_execute hasks.leads hmem] at hasks
    exact hasks
  -- Who goes on after the answer has one that reads, and has waited for it before.
  cases x with
  | error e =>
    obtain ⟨y, hy⟩ := hstops e
    rw [hy] at hrest
    exact absurd hu.got (not_does_of_quiet hrest.of_done.1 hku (Nat.lt_succ_self u))
  | ok x =>
    obtain ⟨_, w, v, _, _, hiw, hwv, hvk, -, -, -, hv, -⟩ := hasks.acknowledged hr
    have hiv : i ≤ v := Nat.le_trans hiw (Nat.le_of_lt hwv)
    exact absurd hv (hu.first v _ _ hiv (Nat.lt_of_lt_of_le hvk hku))

end Run

end PagePilot
