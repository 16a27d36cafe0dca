import PagePilot.Proofs.Connection.Closing
import PagePilot.Proofs.Connection.Replies
/-!
# PagePilot.Proofs.Connection.Stopping

Stopping the reader strands its requests. A reader that comes to its end marks the
connection as closed and gives up on what is parked; one that is stopped does neither, and
there is no other reader. So who waits for a reply goes on waiting, and who sends later
finds the connection open, writes the request, and waits as well.

* `Run.StopStrandsNone` would be that stopping is as good as the end;
* `Run.StoppedAt` is what holds from a position on at which the reader is stopped, and
  `Run.stop_strands` proves it of all runs.

Of a reader that comes to its end `Run.StrandsNone` is what holds.
-/

namespace PagePilot

open Wire

/-! ### A reader that is stopped -/

namespace World

/-- A reader that is stopped is not started again. -/
theorem apply_reading_of_stopped {w : World} (h : w.inbound.reading = .stopped) (t : Transition) :
    (w.apply t).inbound.reading = .stopped := by
  have hstep := apply_reading w t
  rw [h] at hstep
  generalize (w.apply t).inbound.reading = reading at hstep
  cases hstep <;> rfl

end World

/-- No reply of the browser says that the connection is closed. -/
theorem Connection.replyIn_ne_closed (response : Response) :
    replyIn response ≠ .error .connectionClosed := by
  unfold replyIn
  cases response.error with
  | none => simp
  | some refused =>
    intro h
    simp only [refusal, Except.error.injEq] at h
    split at h <;> split at h <;> cases h

namespace Run

variable {r : Run} {task : TaskId} {i j k m : Nat} {id : Nat}

theorem stopped_mono (hkj : k ≤ j) (h : (r.world k).inbound.reading = .stopped) :
    (r.world j).inbound.reading = .stopped :=
  induction (P := fun w => w.inbound.reading = .stopped) hkj h fun _ t _ _ hk =>
    World.apply_reading_of_stopped hk t

/-- A run whose reader is stopped sometime has a connection that is never closed. -/
theorem open_of_stopped (hr : r.Admissible) (h : (r.world k).inbound.reading = .stopped) (j : Nat) :
    (r.world j).connection.closed = false := by
  have hopen : ∀ l, k ≤ l → (r.world l).connection.closed ≠ true := by
    intro l hkl hclosed
    have hreading := (closed_iff_reading hr).mp hclosed
    simp [stopped_mono hkl h] at hreading
  rw [Bool.eq_false_iff]
  intro hclosed
  rcases Nat.le_total k j with hkj | hjk
  · exact hopen j hkj hclosed
  · exact hopen k (Nat.le_refl k) (closed_mono hjk hclosed)

/-- Nothing is taken in by a reader that is stopped. -/
theorem incoming?_of_stopped (h : (r.world k).inbound.reading = .stopped) : r.incoming? k = none := by
  rw [Option.eq_none_iff_forall_ne_some]
  intro message hincoming
  obtain ⟨t, -, ht⟩ := Option.bind_eq_some_iff.mp hincoming
  obtain ⟨-, ⟨owner, howner⟩, -⟩ := World.running_of_incoming ht
  rw [h] at howner
  cases howner

/-- Nor does it give up on anything, then or before. -/
theorem not_clears_of_stopped (hr : r.Admissible) (h : (r.world k).inbound.reading = .stopped)
    (j : Nat) : ¬ r.Clears j := by
  intro hclears
  have hclosed := closed_of_clears hr hclears
  rw [open_of_stopped hr h j] at hclosed
  cases hclosed

/-- Replies come before the reader is stopped. -/
theorem Answers.before_stopped {reply : Reply} (h : r.Answers j id reply)
    (hstopped : (r.world k).inbound.reading = .stopped) : j < k := by
  refine Nat.lt_of_not_le ?_
  intro hkj
  obtain ⟨response, hreceives, -⟩ := h
  unfold Receives at hreceives
  rw [incoming?_of_stopped (stopped_mono hkj hstopped)] at hreceives
  cases hreceives

/-! ### Waits and sends -/

/-- A request that had no reply when the reader was stopped stays parked while its send waits. -/
theorem mem_parked_of_stopped (hr : r.Admissible) (h : (r.world k).inbound.reading = .stopped)
    (hunanswered : (r.world k).connection.replyTo? id = none) {ctx : Option Context}
    {next : Reply → Program Outcome}
    (hwaits : (r.world j).tasks[task]? = some (.running (.act (.awaitReply ctx id) next))) :
    id ∈ (r.world j).connection.parked := by
  have hstage : r.stage task j = .awaiting id := Stage.eq_of_allows (follows_stage hr hwaits).1 rfl
  obtain ⟨p, hpj, hpark, hheld⟩ := held hr hstage rfl
  have hnone : ∀ d < j, ∀ reply, ¬ r.Answers d id reply := by
    intro d _ reply hanswers
    have hsome := (replyTo?_eq_some_iff hr).mpr ⟨d, hanswers.before_stopped h, hanswers⟩
    rw [hunanswered] at hsome
    cases hsome
  refine Classical.byContradiction ?_
  intro hnot
  obtain ⟨c, -, -, hclears⟩ := clears_of_unanswered hr hpark hpj hheld hnone hnot
  exact not_clears_of_stopped hr h c hclears

variable {ctx : Option Context} {session : Option SessionId} {method : String} {params : Json}

variable (r) in
/-- What a send under `ctx`, done by `task` from `i` to `j`, ends with when the reader is
stopped at `k`. -/
inductive EndsStopped (k : Nat) (task : TaskId) (i j : Nat) (ctx : Option Context) : Reply → Prop
  /-- Its context has ended, before it did anything or while it waited. -/
  | context {m : Nat} {c : Context} {e : Error} (hctx : ctx = some c) (hm : i ≤ m ∧ m < j)
      (h : (r.world m).endOf c = some e ∨ (r.world m).toldEndOf c = some e) :
      EndsStopped k task i j ctx (.error e)
  /-- Its request could not be written. -/
  | unwritten {m : Nat} {request : Request} {e : Error} (hm : i ≤ m ∧ m < j)
      (h : r.Does m task (.write request) (.error e)) : EndsStopped k task i j ctx (.error e)
  /-- The response to its request came before the reader was stopped. -/
  | answered {p d : Nat} {id : Nat} {reply : Reply} (hp : i ≤ p ∧ p < d ∧ d < j)
      (hpark : r.Does p task (.park id) ()) (h : r.Answers d id reply) (hd : d < k) :
      EndsStopped k task i j ctx reply

theorem Runs.endsStopped (hr : r.Admissible) (hstopped : (r.world k).inbound.reading = .stopped)
    {result : Reply} (h : r.Runs task i (send ctx session method params).run j (.done result)) :
    r.EndsStopped k task i j ctx result := by
  have hending := Send.ending_of_leads h.leads
  generalize hpath : r.deeds task i j = path at hending
  have hdoes : ∀ (a : Act) (reply : a.Reply), ⟨a, reply⟩ ∈ path →
      ∃ k, i ≤ k ∧ k < j ∧ r.Does k task a reply := fun a reply hmem => does_of_mem (hpath ▸ hmem)
  cases hending with
  | ended c e hctx =>
    obtain ⟨m, him, hmj, hm⟩ := hdoes _ _ (List.mem_singleton.mpr rfl)
    exact .context hctx ⟨him, hmj⟩ (.inl hm.endOf_eq)
  | refused | turnedBack =>
    -- A send that is turned back has found the connection closed, which it never is.
    obtain ⟨m, -, -, hm⟩ := hdoes .isClosed true (by simp)
    have hclosed := hm.closed_eq
    rw [open_of_stopped hr hstopped m] at hclosed
    cases hclosed
  | failed id e =>
    obtain ⟨m, him, hmj, hm⟩ := hdoes (.write (Send.request session method params id)) (.error e)
      (by simp [Send.written])
    exact .unwritten ⟨him, hmj⟩ hm
  | answered id =>
    obtain ⟨m, him, hmj, hm⟩ := hdoes (.awaitReply ctx id) result (by simp)
    obtain ⟨p, hip, hpj, hpark⟩ := hdoes (.park id) () (by simp [Send.written, Send.parked])
    obtain ⟨-, -, -, ⟨c, e, hctx, hend, rfl⟩ | ⟨d, hdm, hanswers⟩ | ⟨⟨c, -, -, hclears⟩, -, -⟩⟩ :=
      reply_of_wait hr hm
    · exact .context hctx ⟨him, hmj⟩ (.inr hend)
    · have hpd := (first_of_answers hr ⟨task, hpark⟩ hanswers).1
      exact .answered ⟨hip, hpd, by omega⟩ hpark hanswers (hanswers.before_stopped hstopped)
    · exact absurd hclears (not_clears_of_stopped hr hstopped c)

/-- None of these ends says that the connection is closed. -/
theorem EndsStopped.ne_closed {result : Reply} (h : r.EndsStopped k task i j ctx result) :
    result ≠ .error .connectionClosed := by
  cases h with
  | context _ _ hend =>
    intro he
    cases he
    rcases hend with hend | hend <;>
      rcases Context.errorAt_eq_some.mp hend with ⟨-, he⟩ | ⟨-, -, he⟩ <;> cases he
  | unwritten _ hwrite =>
    intro he
    cases he
    obtain ⟨-, next, w', -, hp⟩ := hwrite.spec
    simp only [World.perform, World.write, Option.some.injEq] at hp
    split at hp <;> cases hp
  | answered _ _ hanswers =>
    obtain ⟨response, -, -, -, rfl⟩ := hanswers
    exact Connection.replyIn_ne_closed response

/-! ### All together -/

variable (r) in
/-- Stopping the reader strands no request, as its end does not: who waits then has something
to learn, and who sends later learns that the connection is closed. -/
structure StopStrandsNone : Prop where
  waits : ∀ k (task : TaskId) ctx id (next : Reply → Program Outcome),
    (r.world k).inbound.reading = .stopped →
    (r.world k).tasks[task]? = some (.running (.act (.awaitReply ctx id) next)) →
      ((r.world k).awaited ctx id).isSome
  refused : ∀ task i session method params j q, (r.world i).inbound.reading = .stopped →
    r.Runs task i (send none session method params).run j q →
      (∃ a next, q = .act a next ∧ ((r.world j).perform task a).isSome) ∨
        q = .done (.error .connectionClosed)

variable (r) in
/-- What holds of a run whose reader is stopped at `k`. -/
structure StoppedAt (k : Nat) : Prop where
  /-- It stays stopped, and takes in nothing. -/
  stays : ∀ j, k ≤ j → (r.world j).inbound.reading = .stopped ∧ r.incoming? j = none
  /-- The connection is never closed, and nobody gives up on what is parked. -/
  isOpen : ∀ j, (r.world j).connection.closed = false ∧ ¬ r.Clears j
  /-- Who waits for a reply that did not come before waits for the end of the context, and
  for nothing else. -/
  waits : ∀ j, k ≤ j → ∀ (task : TaskId) ctx id (next : Reply → Program Outcome),
    (r.world j).tasks[task]? = some (.running (.act (.awaitReply ctx id) next)) →
    (r.world k).connection.replyTo? id = none →
      id ∈ (r.world j).connection.parked ∧
        (r.world j).awaited ctx id = (ctx.bind (r.world j).toldEndOf).map .error
  /-- A send ends with its context, with its writing, or with a response that came before the
  reader was stopped; if it starts later, not with a response. -/
  ends : ∀ task i ctx session method params j result,
    r.Runs task i (send ctx session method params).run j (.done result) →
      r.EndsStopped k task i j ctx result
  /-- No send is told that the connection is closed. -/
  untold : ∀ task i ctx session method params j result,
    r.Runs task i (send ctx session method params).run j (.done result) →
      result ≠ .error .connectionClosed

/-- In every run, a reader that is stopped strands the requests that it leaves, and those
that come later. -/
theorem stop_strands (hr : r.Admissible) (hstopped : (r.world k).inbound.reading = .stopped) :
    r.StoppedAt k where
  stays _ hkj :=
    have hj := stopped_mono hkj hstopped
    ⟨hj, incoming?_of_stopped hj⟩
  isOpen j := ⟨open_of_stopped hr hstopped j, not_clears_of_stopped hr hstopped j⟩
  waits _ _ _ ctx _ _ hwaits hunanswered :=
    have hmem := mem_parked_of_stopped hr hstopped hunanswered hwaits
    ⟨hmem, awaited_of_parked hr hmem ctx⟩
  ends _ _ _ _ _ _ _ _ h := h.endsStopped hr hstopped
  untold _ _ _ _ _ _ _ _ h := (h.endsStopped hr hstopped).ne_closed

/-- The reader is stopped when a reload is underway, and then another one is sent. -/
def abandonedReload : Run where
  start := .initial [] .none
  transitions :=
    [.startReading, .spawn ((send none none "Page.reload" .empty).task .json),
      .step 0, .step 0, .step 0, .step 0, .step 0, .stopReading,
      .spawn ((send none none "Page.reload" .empty).task .json),
      .step 1, .step 1, .step 1, .step 1, .step 1, .disconnect, .receive, .read, .step 0, .step 1]

theorem abandonedReload_admissible : abandonedReload.Admissible :=
  admissible_of_admits ⟨trivial, (send_orderly ..).bind fun _ => .done _, trivial, trivial, trivial,
    trivial, trivial, nofun, (send_orderly ..).bind fun _ => .done _, trivial, trivial, trivial,
    trivial, trivial, trivial, trivial, trivial, trivial, trivial, trivial⟩

theorem stop_strands_abandonedReload :
    abandonedReload.Admissible ∧ (abandonedReload.world 8).inbound.reading = .stopped ∧
      abandonedReload.StoppedAt 8 ∧ (abandonedReload.world 19).connection.parked = [0, 1] :=
  ⟨abandonedReload_admissible, rfl, stop_strands abandonedReload_admissible rfl, rfl⟩

/-- Neither of the two reloads ever learns anything. -/
theorem abandonedReload_stranded :
    abandonedReload.Admissible ∧ ¬ abandonedReload.StopStrandsNone := by
  refine ⟨abandonedReload_admissible, fun h => ?_⟩
  have hsome := h.waits 8 0 none 0 _ rfl rfl
  cases hsome

end Run

end PagePilot
