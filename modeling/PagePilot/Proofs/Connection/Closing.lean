import PagePilot.Proofs.Connection.Correlation
/-!
# PagePilot.Proofs.Connection.Closing

The end of a connection strands no request. The reader marks the connection as closed and
then gives up on all parked requests; a send parks its request and then looks whether
the connection is closed. Whichever of the two comes first, the other sees it:

* a request that is still parked when the reader gives up is given up (`ended_iff`);
* a request that is parked later finds the connection closed, and is taken back.

`not_mem_parked_of_looked` is this argument, for any order of the single steps. What it
means for sends is said by `Run.StrandsNone`.
-/

namespace PagePilot

open Wire

namespace Run

variable {r : Run} {task task' : TaskId} {i j k l m p : Nat} {id : Nat}

/-! ### The two looks -/

/-- A request whose send found the connection open after the parking is not parked any more
once the reader has given up. -/
theorem not_mem_parked_of_looked (hr : r.Admissible) (hp : r.Parks p id) (hpl : p < l)
    (hlook : r.Does l task .isClosed false) (hended : (r.world k).inbound.reading = .ended) :
    id ∉ (r.world k).connection.parked := by
  obtain ⟨c, hck, hclears⟩ := (ended_iff hr).mp hended
  have hlc := le_of_clears hr hlook hclears
  exact not_mem_parked_of_unparks hr hp (Nat.lt_of_lt_of_le hpl hlc) (.inr (.inr hclears)) hck

theorem outcome?_isSome {c : Connection} (h : id ∉ c.parked) : (c.outcome? id).isSome := by
  unfold Connection.outcome?
  split
  · rfl
  · simp [h]

theorem awaited_isSome {w : World} (ctx : Option Context) (h : id ∉ w.connection.parked) :
    (w.awaited ctx id).isSome := by
  unfold World.awaited
  split
  · rfl
  · exact outcome?_isSome h

/-- Once the reader has given up, nobody waits for an answer in vain. -/
theorem awaited_of_ended (hr : r.Admissible) (hended : (r.world k).inbound.reading = .ended)
    {ctx : Option Context} {next : Reply → Program Outcome}
    (h : (r.world k).tasks[task]? = some (.running (.act (.awaitReply ctx id) next))) :
    ((r.world k).awaited ctx id).isSome := by
  have hstage : r.stage task k = .awaiting id := Stage.eq_of_allows (follows_stage hr h).1 rfl
  obtain ⟨w, -, request, -, -, hwriting⟩ := written_of_awaiting hr hstage
  obtain ⟨l, -, hlook, hparked⟩ := looked_of_writing hr hwriting
  obtain ⟨p, hpl, hpark, -⟩ := held hr hparked rfl
  exact awaited_isSome ctx (not_mem_parked_of_looked hr ⟨task, hpark⟩ hpl hlook hended)

/-- Answers are taken in only before the connection is closed. -/
theorem open_of_answers (hr : r.Admissible) {reply : Reply} (h : r.Answers k id reply) :
    (r.world k).connection.closed = false := by
  obtain ⟨response, hreceives, -⟩ := h
  obtain ⟨t, -, hincoming⟩ := Option.bind_eq_some_iff.mp hreceives
  obtain ⟨-, ⟨owner, hrunning⟩, -⟩ := World.running_of_incoming hincoming
  refine Bool.eq_false_iff.mpr ?_
  intro hclosed
  have hreading := (closed_iff_reading hr).mp hclosed
  simp [hrunning] at hreading

theorem le_of_closes (hopen : (r.world k).connection.closed = false)
    (h : r.Closes l) : k ≤ l := by
  refine Nat.le_of_not_lt ?_
  intro hlk
  have hclosed := closed_mono hlk (closed_succ.mpr (.inr h))
  rw [hopen] at hclosed
  cases hclosed

/-- The last answer comes before the connection is closed. -/
theorem Answers.before_closes (hr : r.Admissible) {reply : Reply} (h : r.Answers k id reply)
    (hl : r.Closes l) : k < l := by
  rcases Nat.lt_or_eq_of_le (le_of_closes (open_of_answers hr h) hl) with hlt | rfl
  · exact hlt
  · obtain ⟨response, hreceives, -⟩ := h
    obtain ⟨t, ht, hcloses⟩ := hl
    obtain ⟨t', ht', hincoming⟩ := Option.bind_eq_some_iff.mp hreceives
    cases ht.symm.trans ht'
    exact absurd hcloses (World.not_closes_of_incoming hincoming)

/-- Once the reader has given up, nothing is answered any more. -/
theorem not_answers_of_clears (hr : r.Admissible) {c : Nat} (hcm : c ≤ m) (hclears : r.Clears c)
    (hunanswered : ∀ d < m, ∀ reply, ¬ r.Answers d id reply) (d : Nat) (reply : Reply) :
    ¬ r.Answers d id reply := by
  intro hanswers
  rcases Nat.lt_or_ge d m with hdm | hmd
  · exact hunanswered d hdm reply hanswers
  · have hclosed := closed_mono (Nat.le_trans hcm hmd) (closed_of_clears hr hclears)
    rw [open_of_answers hr hanswers] at hclosed
    cases hclosed

/-- Once the reader has given up, no request is left but of sends that have yet to look
again, or to take their request back. -/
theorem parked_eq_nil_of_ended (hr : r.Admissible)
    (hended : (r.world k).inbound.reading = .ended)
    (hsends : ∀ task id, r.stage task k ≠ .parked id ∧ r.stage task k ≠ .yielding id) :
    (r.world k).connection.parked = [] := by
  refine List.eq_nil_iff_forall_not_mem.mpr ?_
  intro id hmem
  obtain ⟨p, hpk, ⟨task, hpark⟩, hkept⟩ := (mem_parked_iff hr).mp hmem
  obtain ⟨l, -, ⟨task', hpl, -, -, hlook⟩, -⟩ := registers_of_park hr hpark hpk
    (hsends task id).1 (hsends task id).2
    fun l hpl hlk h => hkept l hpl hlk (.inr (.inl ⟨task, h⟩))
  exact not_mem_parked_of_looked hr ⟨task, hpark⟩ hpl hlook hended hmem

/-! ### Sends -/

variable {ctx : Option Context} {session : Option SessionId} {method : String} {params : Json}

/-- Where a send has parked its request, and where it has looked at the connection after
that. -/
theorem looks_of_deeds (before : List Deed) {after : List Deed} {closed : Bool}
    (h : r.deeds task i j = before ++ (⟨.park id, ()⟩ :: ⟨.isClosed, closed⟩ :: after)) :
    ∃ p l, i ≤ p ∧ p < l ∧ l < j ∧ r.Does p task (.park id) () ∧
      r.Does l task .isClosed closed := by
  obtain ⟨p, hip, hpj, hpark, -, hafter⟩ := deeds_split h
  obtain ⟨l, hpl, hlj, hlook, -, -⟩ := deeds_cons hafter
  exact ⟨p, l, hip, hpl, hlj, hpark, hlook⟩

/-- Once the reader has given up, a send never has to wait. -/
theorem Runs.proceeds (hr : r.Admissible) (hended : (r.world k).inbound.reading = .ended)
    {a : Act} {next : a.Reply → Program Reply}
    (h : r.Runs task i (send ctx session method params).run k (.act a next)) :
    ((r.world k).perform task a).isSome := by
  have hs := Send.sending_of_leads h.leads
  generalize hpath : r.deeds task i k = path at hs
  generalize hq : Program.act a next = q at hs
  cases hs with
  | start =>
    cases ctx <;> cases hq <;> rfl
  | ended | refused | turnedBack | failed | answered => cases hq
  | looking | numbering | parking | lookingAgain | turningBack | writing | failing =>
    cases hq
    rfl
  | awaiting id =>
    cases hq
    have hsplit : r.deeds task i k =
        (Send.looked ctx ++ [⟨.isClosed, false⟩, ⟨.allocate, id⟩]) ++
          (⟨.park id, ()⟩ :: ⟨.isClosed, false⟩ ::
            [⟨.write (Send.request session method params id), .ok ()⟩]) := by
      simpa [Send.written, Send.parked] using hpath
    obtain ⟨p, l, -, hpl, -, hpark, hlook⟩ := looks_of_deeds _ hsplit
    have hawaited := awaited_isSome ctx
      (not_mem_parked_of_looked hr ⟨task, hpark⟩ hpl hlook hended)
    simpa [World.perform] using hawaited

/-- A send consists of seven acts at most. -/
theorem Runs.short {q : Program Reply}
    (h : r.Runs task i (send ctx session method params).run j q) :
    (r.deeds task i j).length ≤ 7 :=
  Send.length_of_leads h.leads

variable (r) in
/-- What a send under `ctx`, done by `task` from `i` to `j`, ends with. -/
inductive EndsWith (task : TaskId) (i j : Nat) (ctx : Option Context) : Reply → Prop
  /-- Its context has ended, before it did anything or while it waited. -/
  | context {m : Nat} {c : Context} {e : Error} (hctx : ctx = some c) (hm : i ≤ m ∧ m < j)
      (h : (r.world m).endOf c = some e ∨ (r.world m).toldEndOf c = some e) :
      EndsWith task i j ctx (.error e)
  /-- Its request could not be written. -/
  | unwritten {m : Nat} {request : Request} {e : Error} (hm : i ≤ m ∧ m < j)
      (h : r.Does m task (.write request) (.error e)) : EndsWith task i j ctx (.error e)
  /-- The response to its request came before the connection was closed. -/
  | answered {p d : Nat} {id : Nat} {reply : Reply} (hp : i ≤ p ∧ p < d ∧ d < j)
      (hpark : r.Does p task (.park id) ()) (h : r.Answers d id reply)
      (hopen : ∀ c, r.Closes c → d < c) : EndsWith task i j ctx reply
  /-- It has found the connection closed, and has written nothing. -/
  | refused {m : Nat} (hm : i ≤ m ∧ m < j) (h : r.Does m task .isClosed true)
      (hnone : ∀ l request result, i ≤ l → l < j → ¬ r.Does l task (.write request) result) :
      EndsWith task i j ctx (.error .connectionClosed)
  /-- It has written its request, and no response to it came. -/
  | unanswered {m : Nat} {request : Request} (hm : i ≤ m ∧ m < j)
      (h : r.Does m task (.write request) (.ok ()))
      (hnone : ∀ d reply, ¬ r.Answers d request.id reply) :
      EndsWith task i j ctx (.error .connectionClosed)

theorem Runs.endsWith (hr : r.Admissible) {result : Reply}
    (h : r.Runs task i (send ctx session method params).run j (.done result)) :
    r.EndsWith task i j ctx result := by
  have hending := Send.ending_of_leads h.leads
  generalize hpath : r.deeds task i j = path at hending
  have hdoes : ∀ (a : Act) (reply : a.Reply), ⟨a, reply⟩ ∈ path →
      ∃ k, i ≤ k ∧ k < j ∧ r.Does k task a reply := fun a reply hmem => does_of_mem (hpath ▸ hmem)
  cases hending with
  | ended c e hctx =>
    obtain ⟨m, him, hmj, hm⟩ := hdoes _ _ (List.mem_singleton.mpr rfl)
    exact .context hctx ⟨him, hmj⟩ (.inl hm.endOf_eq)
  | refused | turnedBack =>
    obtain ⟨m, him, hmj, hm⟩ := hdoes .isClosed true (by simp)
    refine .refused ⟨him, hmj⟩ hm ?_
    intro l request result hil hlj hl
    have hmem : ⟨.write request, result⟩ ∈ r.deeds task i j := mem_deeds.mpr ⟨l, hil, hlj, hl⟩
    rw [hpath] at hmem
    cases ctx <;> simp [Send.looked, Send.parked] at hmem
  | failed id e =>
    obtain ⟨m, him, hmj, hm⟩ := hdoes (.write (Send.request session method params id)) (.error e)
      (by simp [Send.written])
    exact .unwritten ⟨him, hmj⟩ hm
  | answered id =>
    obtain ⟨m, him, hmj, hm⟩ := hdoes (.awaitReply ctx id) result (by simp)
    obtain ⟨w, hiw, hwj, hw⟩ := hdoes (.write (Send.request session method params id)) (.ok ())
      (by simp [Send.written])
    obtain ⟨p, hip, hpj, hpark⟩ := hdoes (.park id) ()
      (by simp [Send.written, Send.parked])
    obtain ⟨p', hpm, hpark', ⟨c, e, hctx, hend, rfl⟩ | ⟨d, hdm, hanswers⟩ |
      ⟨⟨c, hpc, hcm, hclears⟩, hunanswered, rfl⟩⟩ := reply_of_wait hr hm
    · exact .context hctx ⟨him, hmj⟩ (.inr hend)
    · have hpd := (first_of_answers hr ⟨task, hpark⟩ hanswers).1
      exact .answered ⟨hip, hpd, by omega⟩ hpark hanswers fun c hc => hanswers.before_closes hr hc
    · exact .unanswered ⟨hiw, hwj⟩ hw (not_answers_of_clears hr (by omega) hclears hunanswered)

/-- A send that starts when the connection is closed does nothing but look. -/
theorem Runs.refused (hclosed : (r.world i).connection.closed = true) {q : Program Reply}
    (h : r.Runs task i (send ctx session method params).run j q) :
    (∀ d ∈ r.deeds task i j, (∃ c, d.act = .endOf c) ∨ d.act = .isClosed) ∧
      ((∃ a next, q = .act a next ∧ ((r.world j).perform task a).isSome) ∨
        q = .done (.error .connectionClosed) ∨
        ∃ m c e, i ≤ m ∧ m < j ∧ ctx = some c ∧ (r.world m).endOf c = some e ∧
          q = .done (.error e)) := by
  have hs := Send.sending_of_leads h.leads
  generalize hpath : r.deeds task i j = path at hs
  have hdoes : ∀ (a : Act) (reply : a.Reply), ⟨a, reply⟩ ∈ path →
      ∃ k, i ≤ k ∧ k < j ∧ r.Does k task a reply := fun a reply hmem => does_of_mem (hpath ▸ hmem)
  have hlook : ⟨.isClosed, false⟩ ∉ path := by
    intro hmem
    obtain ⟨k, hik, -, hk⟩ := hdoes _ _ hmem
    have hk' := closed_mono hik hclosed
    rw [hk.closed_eq] at hk'
    cases hk'
  cases hs with
  | start =>
    refine ⟨fun d hd => absurd hd List.not_mem_nil, .inl ?_⟩
    cases ctx <;> exact ⟨_, _, rfl, rfl⟩
  | ended c e hctx =>
    obtain ⟨m, him, hmj, hm⟩ := hdoes _ _ (List.mem_singleton.mpr rfl)
    refine ⟨?_, .inr (.inr ⟨m, c, e, him, hmj, hctx, hm.endOf_eq, rfl⟩)⟩
    intro d hd
    obtain rfl := List.mem_singleton.mp hd
    exact .inl ⟨c, rfl⟩
  | looking =>
    refine ⟨?_, .inl ⟨_, _, rfl, rfl⟩⟩
    intro d hd
    cases ctx <;> simp [Send.looked] at hd
    simp [hd]
  | refused =>
    refine ⟨?_, .inr (.inl rfl)⟩
    intro d hd
    cases ctx <;> simp [Send.looked] at hd
    · simp [hd]
    · rcases hd with rfl | rfl <;> simp
  | numbering | parking | lookingAgain | turningBack | turnedBack | writing | failing | failed
      | awaiting | answered =>
    exact absurd (by simp [Send.written, Send.parked]) hlook

/-! ### All together -/

variable (r) in
/-- The end of the connection leaves no request of a run without an end. -/
structure StrandsNone : Prop where
  /-- Once the reader has given up, nobody waits for an answer in vain. -/
  waits : ∀ k (task : TaskId) ctx id (next : Reply → Program Outcome),
    (r.world k).inbound.reading = .ended →
    (r.world k).tasks[task]? = some (.running (.act (.awaitReply ctx id) next)) →
      ((r.world k).awaited ctx id).isSome
  /-- A send that is still running then can do its next act, whatever else is done in
  between. -/
  proceeds : ∀ task i ctx session method params k a next,
    (r.world k).inbound.reading = .ended →
      r.Runs task i (send ctx session method params).run k (.act a next) →
        ((r.world k).perform task a).isSome
  /-- There are seven of these acts at most. -/
  short : ∀ task i ctx session method params j q,
    r.Runs task i (send ctx session method params).run j q → (r.deeds task i j).length ≤ 7
  /-- A send ends with the response to its request if that came before the connection was
  closed, and otherwise because the connection is closed, if neither its context nor its
  writing fails. -/
  ends : ∀ task i ctx session method params j result,
    r.Runs task i (send ctx session method params).run j (.done result) →
      r.EndsWith task i j ctx result
  /-- A send that starts on a closed connection does nothing but look at its context and at
  the connection, at once, and fails. -/
  refused : ∀ task i ctx session method params j q, (r.world i).connection.closed = true →
    r.Runs task i (send ctx session method params).run j q →
      (∀ d ∈ r.deeds task i j, (∃ c, d.act = .endOf c) ∨ d.act = .isClosed) ∧
        ((∃ a next, q = .act a next ∧ ((r.world j).perform task a).isSome) ∨
          q = .done (.error .connectionClosed) ∨
          ∃ m c e, i ≤ m ∧ m < j ∧ ctx = some c ∧ (r.world m).endOf c = some e ∧
            q = .done (.error e))
  /-- Once the reader has given up, nothing is parked but by sends that are between two of
  their checks. -/
  empty : ∀ k, (r.world k).inbound.reading = .ended →
    (∀ task id, r.stage task k ≠ .parked id ∧ r.stage task k ≠ .yielding id) →
      (r.world k).connection.parked = []
  /-- A connection that is closed stays closed. -/
  stays : ∀ i j, i ≤ j → (r.world i).connection.closed = true →
    (r.world j).connection.closed = true

/-- The end of the connection strands no request, in whatever order the steps of the sends
and of the reader are done. -/
theorem close_strands_none (hr : r.Admissible) : r.StrandsNone where
  waits _ _ _ _ _ hended h := awaited_of_ended hr hended h
  proceeds _ _ _ _ _ _ _ _ _ hended h := h.proceeds hr hended
  short _ _ _ _ _ _ _ _ h := h.short
  ends _ _ _ _ _ _ _ _ h := h.endsWith hr
  refused _ _ _ _ _ _ _ _ hclosed h := h.refused hclosed
  empty _ := parked_eq_nil_of_ended hr
  stays _ _ := closed_mono

/-- A send that parks its request when the reader has given up already. -/
def lateParking : Run where
  start := .initial [] .none
  transitions :=
    [.startReading, .spawn ((send none none "Browser.getVersion" .null).task .json),
      .step 0, .step 0, .disconnect, .receive, .read, .read, .step 0, .step 0, .step 0, .step 0]

theorem lateParking_admissible : lateParking.Admissible :=
  admissible_of_admits ⟨trivial, (send_orderly ..).bind fun _ => .done _, trivial, trivial, trivial,
    trivial, trivial, trivial, trivial, trivial, trivial, trivial, trivial⟩

theorem close_strands_none_lateParking :
    lateParking.Admissible ∧ lateParking.StrandsNone ∧
      (lateParking.world 9).connection.parked = [0] ∧
      (lateParking.world 11).connection.parked = [] ∧
      (lateParking.world 12).tasks.map Task.outcome? =
        [some (.operation (.error .connectionClosed))] :=
  ⟨lateParking_admissible, close_strands_none lateParking_admissible, rfl, rfl, rfl⟩

end Run

end PagePilot
