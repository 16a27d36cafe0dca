import PagePilot.Proofs.Connection.Requests
import PagePilot.Proofs.Context
import PagePilot.Proofs.Operation.Orderly
/-!
# PagePilot.Proofs.Connection.Correlation

Which answer belongs to which request, in any run. The map of parked requests is changed
by the parking, by an answer, by a task that takes its request back, and by the reader
that gives up; `Run.Correlated` says what comes of all these, in whatever order.

* `reply_of_wait` says what a wait for an answer can end with, in terms of its own id
  only;
* `mem_parked_iff_waits` says what the map holds while no send is between two of its
  checks.

Ids are natural numbers here. Those of a connection are as many as its sends
(`ids_eq_range`), so below `2 ^ 64` sends they are those of a counter of 64 bits.
-/

namespace PagePilot

open Wire

/-- A result that only the browser gives. -/
def Reply.FromBrowser : Reply → Prop
  | .ok _ | .error (.protocol ..) | .error (.targetClosed _) => True
  | .error _ => False

/-! ### What a response says -/

/-- The text of a refusal: its message, and behind it its data if there are any. -/
inductive Wire.ErrorPayload.Worded : ErrorPayload → String → Prop
  | bare {code : Int} {message : String} : Worded ⟨code, message, none⟩ message
  | detailed {code : Int} {message data : String} :
      Worded ⟨code, message, some data⟩ (message ++ ": " ++ data)

/-- A text in which a browser says that a target, or a session, is gone. -/
def Connection.TellsGone (text : String) : Prop :=
  ∃ words ∈ ["Target closed", "No target with given id", "Session with given id not found"],
    words.toList <:+: text.toList

/-- What a response says to the request that it answers. -/
inductive Wire.Response.Says : Response → Reply → Prop
  | result {id : Nat} {value : Json} : Says ⟨id, some value, none⟩ (.ok value)
  /-- The result is left out. -/
  | nothing {id : Nat} : Says ⟨id, none, none⟩ (.ok .null)
  /-- With an error the result does not count. -/
  | gone {id : Nat} {result : Option Json} {e : ErrorPayload} {text : String}
      (htext : e.Worded text) (hgone : Connection.TellsGone text) :
      Says ⟨id, result, some e⟩ (.error (.targetClosed text))
  | refused {id : Nat} {result : Option Json} {e : ErrorPayload} {text : String}
      (htext : e.Worded text) (hgone : ¬ Connection.TellsGone text) :
      Says ⟨id, result, some e⟩ (.error (.protocol e.code text))

namespace Connection

theorem occursIn_eq_true {piece text : List Char} :
    occursIn piece text = true ↔ piece <:+: text := by
  induction text with
  | nil => simp [occursIn]
  | cons c rest ih =>
    rw [occursIn, Bool.or_eq_true, List.isPrefixOf_iff_prefix, ih, List.infix_cons_iff]

theorem tellsGone_iff {text : String} :
    TellsGone text ↔ (goneTexts.any fun piece => occursIn piece.toList text.toList) = true := by
  simp only [List.any_eq_true, occursIn_eq_true]
  rfl

theorem replyIn_of_worded {e : ErrorPayload} {text : String} (h : e.Worded text) (id : Nat)
    (result : Option Json) : replyIn ⟨id, result, some e⟩ =
      .error (if goneTexts.any fun piece => occursIn piece.toList text.toList then
        .targetClosed text else .protocol e.code text) := by
  cases h <;> rfl

/-- A response is taken in as what it says, and it says nothing else. -/
theorem says_iff {response : Response} {reply : Reply} :
    response.Says reply ↔ reply = replyIn response := by
  constructor
  · intro h
    cases h with
    | result | nothing => rfl
    | gone htext hgone =>
      rw [replyIn_of_worded htext, if_pos (tellsGone_iff.mp hgone)]
    | refused htext hgone =>
      rw [replyIn_of_worded htext, if_neg fun h => hgone (tellsGone_iff.mpr h)]
  · rintro rfl
    obtain ⟨id, result, error⟩ := response
    cases error with
    | none =>
      cases result with
      | none => exact .nothing
      | some value => exact .result
    | some e =>
      obtain ⟨text, htext⟩ : ∃ text, e.Worded text := by
        obtain ⟨code, message, data⟩ := e
        cases data with
        | none => exact ⟨_, .bare⟩
        | some data => exact ⟨_, .detailed⟩
      rw [replyIn_of_worded htext]
      split
      next hgone => exact .gone htext (tellsGone_iff.mpr hgone)
      next hgone => exact .refused htext fun htells => hgone (tellsGone_iff.mp htells)

end Connection

namespace Run

variable {r : Run} {task task' : TaskId} {i j k l m p : Nat} {id : Nat}

/-! ### Waits for answers -/

/-- A request that is underway is not taken back by anybody else, and not yet by its
task. -/
theorem not_unpark_of_held (hr : r.Admissible) (hp : r.Does p task (.park id) ())
    (hheld : ∀ l, p < l → l ≤ k → (r.stage task l).held? = some id) (hpl : p < l) (hlk : l < k) :
    ¬ r.Does l task' (.unpark id) () := by
  intro hl
  have hstage := stage_of_does hr hl rfl
  obtain ⟨p', -, hp', -⟩ := held hr hstage rfl
  obtain rfl := parked_unique hr ⟨task, hp⟩ ⟨task', hp'⟩
  obtain rfl := hp.task_eq hp'
  have hafter := hheld (l + 1) (by omega) hlk
  rw [stage_succ_of_does hl, hstage] at hafter
  cases hafter

/-- The first response after the parking is taken in as the answer. -/
theorem answers_of_first (hr : r.Admissible) (hp : r.Parks p id) (hpl : p < l)
    (hkept : ∀ l', p < l' → l' < l → ¬ r.Unparks l' id) {response : Response}
    (hreceives : r.Receives l response) (hid : response.id = id) :
    r.Answers l id (Connection.replyIn response) :=
  ⟨response, hreceives, hid, (mem_parked_iff hr).mpr ⟨p, hpl, hp, hkept⟩, rfl⟩

/-- An answer is the first response with the id after the parking. -/
theorem first_of_answers (hr : r.Admissible) (hp : r.Parks p id) {reply : Reply}
    (h : r.Answers l id reply) :
    p < l ∧ ∃ response, r.Receives l response ∧ response.id = id ∧ response.Says reply ∧
      ∀ l' response', p < l' → l' < l → r.Receives l' response' → response'.id ≠ id := by
  obtain ⟨response, hreceives, hid, hmem, rfl⟩ := h
  obtain ⟨p', hpl, hp', hkept⟩ := (mem_parked_iff hr).mp hmem
  obtain rfl := parked_unique hr hp hp'
  refine ⟨hpl, response, hreceives, hid, Connection.says_iff.mpr rfl, ?_⟩
  intro l' response' hpl' hl' hreceives' hid'
  exact hkept l' hpl' hl' (.inl ⟨response', hreceives', hid'⟩)

/-- A request that is neither parked nor answered while its send is underway was lost when the
reader gave up. -/
theorem clears_of_unanswered (hr : r.Admissible) (hpark : r.Does p task (.park id) ())
    (hpm : p < m) (hheld : ∀ l, p < l → l ≤ m → (r.stage task l).held? = some id)
    (hunanswered : ∀ d < m, ∀ reply, ¬ r.Answers d id reply)
    (hmem : id ∉ (r.world m).connection.parked) : ∃ c, p < c ∧ c < m ∧ r.Clears c := by
  refine Classical.byContradiction ?_
  intro hnot
  -- Nothing else can have taken the request away: not its task, and not an answer.
  refine hmem ((mem_parked_iff hr).mpr ⟨p, hpm, ⟨task, hpark⟩, ?_⟩)
  intro l
  induction l using Nat.strongRecOn with
  | ind l ih =>
    rintro hpl hlm (⟨response, hreceives, hid⟩ | ⟨task', hunpark⟩ | hclears)
    · exact hunanswered l hlm _ (answers_of_first hr ⟨task, hpark⟩ hpl
        (fun l' hpl' hl' => ih l' hl' hpl' (by omega)) hreceives hid)
    · exact not_unpark_of_held hr hpark hheld hpl hlm hunpark
    · exact hnot ⟨l, hpl, hlm, hclears⟩

/-- A wait for an answer ends with the end of its context, with the first response that
came for its request, or because the reader has given up. -/
theorem reply_of_wait (hr : r.Admissible) {ctx : Option Context} {reply : Reply}
    (h : r.Does m task (.awaitReply ctx id) reply) :
    ∃ p < m, r.Does p task (.park id) () ∧
      ((∃ c e, ctx = some c ∧ (r.world m).toldEndOf c = some e ∧ reply = .error e) ∨
        (∃ d < m, r.Answers d id reply) ∨
        ((∃ c, p < c ∧ c < m ∧ r.Clears c) ∧ (∀ d < m, ∀ reply', ¬ r.Answers d id reply') ∧
          reply = .error .connectionClosed)) := by
  have hstage := stage_of_does hr h rfl
  obtain ⟨p, hpm, hpark, hheld⟩ := held hr hstage rfl
  refine ⟨p, hpm, hpark, ?_⟩
  have hawaited := h.awaited_eq
  unfold World.awaited at hawaited
  split at hawaited
  next e hend =>
    cases hawaited
    obtain ⟨c, hc, hend⟩ := Option.bind_eq_some_iff.mp hend
    exact .inl ⟨c, e, hc, hend, rfl⟩
  next =>
    refine .inr ?_
    unfold Connection.outcome? at hawaited
    split at hawaited
    next reply'' hreply'' =>
      cases hawaited
      exact .inl ((replyTo?_eq_some_iff hr).mp hreply'')
    next hnone =>
      split at hawaited
      next => cases hawaited
      next hmem =>
        cases hawaited
        have hunanswered : ∀ d < m, ∀ reply', ¬ r.Answers d id reply' := by
          intro d hdm reply' hanswers
          have hsome := (replyTo?_eq_some_iff hr).mpr ⟨d, hdm, hanswers⟩
          rw [hnone] at hsome
          cases hsome
        exact .inr ⟨clears_of_unanswered hr hpark hpm hheld hunanswered hmem, hunanswered, rfl⟩

/-- Two waits for the answer to one request are one wait. -/
theorem wait_unique (hr : r.Admissible) {ctx ctx' : Option Context} {reply reply' : Reply}
    (h : r.Does m task (.awaitReply ctx id) reply)
    (h' : r.Does l task' (.awaitReply ctx' id) reply') : m = l := by
  have hstage := stage_of_does hr h rfl
  have hstage' := stage_of_does hr h' rfl
  obtain ⟨p, hpm, hpark, hheld⟩ := held hr hstage rfl
  obtain ⟨p', hpl, hpark', hheld'⟩ := held hr hstage' rfl
  obtain rfl := parked_unique hr ⟨task, hpark⟩ ⟨task', hpark'⟩
  obtain rfl := hpark.task_eq hpark'
  -- After a wait its task is at nothing, so neither wait is after the other.
  rcases Nat.lt_trichotomy m l with hlt | heq | hlt
  · have hafter := hheld' (m + 1) (by omega) hlt
    rw [stage_succ_of_does h, hstage] at hafter
    cases hafter
  · exact heq
  · have hafter := hheld (l + 1) (by omega) hlt
    rw [stage_succ_of_does h', hstage'] at hafter
    cases hafter

/-! ### Written requests -/

theorem allocated_of_write (hr : r.Admissible) {request : Request} {result : Except Error Unit}
    (h : r.Does k task (.write request) result) :
    ∃ a < k, r.Does a task .allocate request.id := by
  have hstage := stage_of_does hr h rfl
  obtain ⟨p, hpk, hpark, -⟩ := held hr hstage rfl
  obtain ⟨a, hap, hallocate, -⟩ := allocated_of_park hr hpark
  exact ⟨a, by omega, hallocate⟩

/-- A task does nothing between parking a request and writing it but look at the
connection. -/
theorem not_write_before (hr : r.Admissible) {request request' : Request}
    {result result' : Except Error Unit} (hml : m < l) (hm : r.Does m task (.write request) result)
    (hl : r.Does l task' (.write request') result') : request.id ≠ request'.id := by
  intro hid
  have hstage := stage_of_does hr hm rfl
  obtain ⟨p, hpm, hpark, -⟩ := held hr hstage rfl
  obtain ⟨o, hol, s₀, d, ho, henters, hlook, hquiet⟩ := entered hr (stage_of_does hr hl rfl) nofun
  cases henters
  obtain ⟨p', hpo, s₀, d, -, henters, hpark', hquiet'⟩ := entered hr ho nofun
  cases henters
  rw [hid] at hpark
  obtain rfl := parked_unique hr ⟨task, hpark⟩ ⟨task', hpark'⟩
  obtain rfl := hpark.task_eq hpark'
  -- Before the second look the task was quiet since its parking, after it until its writing.
  rcases Nat.lt_trichotomy m o with hlt | rfl | hlt
  · exact not_does_of_quiet hquiet' hpm hlt hm
  · cases hm.symm.trans hlook
  · exact not_does_of_quiet hquiet hlt hml hm

/-- No id is written twice. -/
theorem write_unique (hr : r.Admissible) {request request' : Request}
    {result result' : Except Error Unit} (hm : r.Does m task (.write request) result)
    (hl : r.Does l task' (.write request') result') (hid : request.id = request'.id) : m = l := by
  refine eq_of_once (P := fun m => ∃ task request' result,
    r.Does m task (.write request') result ∧ request'.id = request.id) ?_
    ⟨task, request, result, hm, rfl⟩ ⟨task', request', result', hl, hid.symm⟩
  rintro m l hml ⟨_, _, _, hm, hmid⟩ ⟨_, _, _, hl, hlid⟩
  exact not_write_before hr hml hm hl (hmid.trans hlid.symm)

/-! ### Sends -/

/-- The error of a context is none of the browser's. -/
theorem not_fromBrowser_of_errorAt {ctx : Context} {scopes : Scopes} {time : Nat} {e : Error}
    (h : ctx.errorAt scopes time = some e) : ¬ Reply.FromBrowser (.error e) := by
  rcases Context.errorAt_eq_some.mp h with ⟨-, rfl⟩ | ⟨-, -, rfl⟩ <;> exact id

theorem not_fromBrowser_of_write {request : Request} {e : Error}
    (h : r.Does k task (.write request) (.error e)) : ¬ Reply.FromBrowser (.error e) := by
  obtain ⟨-, next, w', -, hp⟩ := h.spec
  have hwrite : ((r.world k).write task request).1 = .error e :=
    congrArg Prod.fst (Option.some.inj hp)
  unfold World.write at hwrite
  split at hwrite
  · cases hwrite
    exact id
  · cases hwrite

theorem does_of_mem {a : Act} {reply : a.Reply} (h : ⟨a, reply⟩ ∈ r.deeds task i j) :
    ∃ k, i ≤ k ∧ k < j ∧ r.Does k task a reply :=
  mem_deeds.mp h

/-- A send that ends with something that only the browser says has waited for it. -/
theorem Runs.waits {ctx : Option Context} {session : Option SessionId} {method : String}
    {params : Json} {result : Reply}
    (h : r.Runs task i (send ctx session method params).run j (.done result))
    (hresult : result.FromBrowser) :
    ∃ id, (∃ k, i ≤ k ∧ k < j ∧ r.Does k task .allocate id) ∧
      (∃ p, i ≤ p ∧ p < j ∧ r.Does p task (.park id) ()) ∧
      ∃ m, m < j ∧ r.Does m task (.awaitReply ctx id) result := by
  have hending := Send.ending_of_leads h.leads
  generalize hpath : r.deeds task i j = path at hending
  have hdoes : ∀ (a : Act) (reply : a.Reply), ⟨a, reply⟩ ∈ path →
      ∃ k, i ≤ k ∧ k < j ∧ r.Does k task a reply := fun a reply hmem => does_of_mem (hpath ▸ hmem)
  cases hending with
  | ended c e =>
    obtain ⟨k, -, -, hk⟩ := hdoes _ _ (List.mem_singleton.mpr rfl)
    exact absurd hresult (not_fromBrowser_of_errorAt hk.endOf_eq)
  | refused | turnedBack => exact False.elim hresult
  | failed id e =>
    obtain ⟨k, -, -, hk⟩ := hdoes (.write (Send.request session method params id)) (.error e)
      (by simp [Send.written])
    exact absurd hresult (not_fromBrowser_of_write hk)
  | answered id =>
    obtain ⟨m, -, hmj, hm⟩ := hdoes (.awaitReply ctx id) result (by simp)
    exact ⟨id, hdoes _ _ (by simp [Send.written, Send.parked]),
      hdoes _ _ (by simp [Send.written, Send.parked]), m, hmj, hm⟩

/-- What only the browser says is the first response that came for the request. -/
theorem Runs.first_response (hr : r.Admissible) {ctx : Option Context}
    {session : Option SessionId} {method : String} {params : Json} {result : Reply}
    (h : r.Runs task i (send ctx session method params).run j (.done result))
    (hresult : result.FromBrowser) :
    ∃ id, (∃ k, i ≤ k ∧ k < j ∧ r.Does k task .allocate id) ∧
      ∃ p d, i ≤ p ∧ p < d ∧ d < j ∧ r.Does p task (.park id) () ∧
        ∃ response, r.Receives d response ∧ response.id = id ∧ response.Says result ∧
          ∀ l response', p < l → l < d → r.Receives l response' → response'.id ≠ id := by
  obtain ⟨id, hallocate, ⟨p, hip, hpj, hpark⟩, m, hmj, hwait⟩ := h.waits hresult
  obtain ⟨p', -, -, ⟨c, e, -, hend, rfl⟩ | ⟨d, hdm, hanswers⟩ | ⟨-, -, rfl⟩⟩ := reply_of_wait hr hwait
  · exact absurd hresult (not_fromBrowser_of_errorAt hend)
  · obtain ⟨hpd, hfirst⟩ := first_of_answers hr ⟨task, hpark⟩ hanswers
    exact ⟨id, hallocate, p, d, hip, hpd, by omega, hpark, hfirst⟩
  · exact False.elim hresult

/-! ### The map of parked requests -/

variable (r) in
/-- A send is through with its checks: it has parked its request at `p`, and has found the
connection still open at `l`, the next time that it did anything. -/
def Registers (p l : Nat) (id : Nat) : Prop :=
  ∃ task, p < l ∧ r.Does p task (.park id) () ∧ r.deeds task (p + 1) l = [] ∧
    r.Does l task .isClosed false

theorem stage_after_park (hr : r.Admissible) (hp : r.Does p task (.park id) ()) :
    r.stage task (p + 1) = .parked id := by
  rw [stage_succ_of_does hp, stage_of_does hr hp rfl]
  rfl

/-- What a task does next after it has parked a request is its second look. -/
theorem registers_of_park (hr : r.Admissible) (hp : r.Does p task (.park id) ()) (hpk : p < k)
    (hparked : r.stage task k ≠ .parked id) (hyielding : r.stage task k ≠ .yielding id)
    (hkept : ∀ l, p < l → l < k → ¬ r.Does l task (.unpark id) ()) :
    ∃ l < k, r.Registers p l id ∧ r.stage task l = .parked id := by
  have hstage := stage_after_park hr hp
  rcases next_deed (r := r) task (p + 1) k with hquiet | ⟨l, ⟨a, closed⟩, hpl, hlk, hdoes, hquiet⟩
  · exact absurd ((stage_of_quiet hpk hquiet).trans hstage) hparked
  · have hl := (stage_of_quiet hpl hquiet).trans hstage
    have hallows := allows_of_does hr hdoes
    rw [hl] at hallows
    obtain rfl : a = .isClosed := hallows
    cases closed with
    | false => exact ⟨l, hlk, ⟨task, hpl, hp, hquiet, hdoes⟩, hl⟩
    | true =>
      have hafter : r.stage task (l + 1) = .yielding id := by
        rw [stage_succ_of_does hdoes, hl]
        rfl
      rcases unpark_of_yielding hr hlk hafter with hk | ⟨m, hlm, hmk, hunpark⟩
      · exact absurd hk hyielding
      · exact absurd hunpark (hkept m (by omega) hmk)

/-- A send looks at the connection once between parking its request and going on. -/
theorem look_unique (hr : r.Admissible) {closed : Bool} (h : r.Registers p l id)
    (hm : r.stage task m = .parked id) (hlook : r.Does m task .isClosed closed) : m = l := by
  obtain ⟨task', hpl, hpark, hquiet, hopen⟩ := h
  obtain ⟨p', hpm, s₀, d, -, henters, hdoes, hquiet'⟩ := entered hr hm nofun
  cases henters
  obtain rfl := parked_unique hr ⟨task', hpark⟩ ⟨task, hdoes⟩
  obtain rfl := hpark.task_eq hdoes
  -- Each of the two looks is the first deed after the parking.
  rcases Nat.lt_trichotomy m l with hlt | heq | hlt
  · exact absurd hlook (not_does_of_quiet hquiet hpm hlt)
  · exact heq
  · exact absurd hopen (not_does_of_quiet hquiet' hpl hlt)

/-- A request that could not be written is taken back next. -/
theorem unparks_of_failed (hr : r.Admissible) {request : Request} {e : Error}
    (hp : r.Parks p request.id) (hwrite : r.Does m task (.write request) (.error e)) (hmk : m < k)
    (hyielding : r.stage task k ≠ .yielding request.id) :
    ∃ l, p < l ∧ l < k ∧ r.Does l task (.unpark request.id) () := by
  have hstage := stage_of_does hr hwrite rfl
  have hafter : r.stage task (m + 1) = .yielding request.id := by
    rw [stage_succ_of_does hwrite, hstage]
    rfl
  obtain ⟨p', hpm, hpark', -⟩ := held hr hstage rfl
  obtain rfl := parked_unique hr hp ⟨task, hpark'⟩
  rcases unpark_of_yielding hr hmk hafter with hk | ⟨l, hml, hlk, hunpark⟩
  · exact absurd hk hyielding
  · exact ⟨l, by omega, hlk, hunpark⟩

/-- Who finds the connection open does so before the reader gives up. -/
theorem le_of_clears (hr : r.Admissible) (hopen : r.Does l task .isClosed false) {c : Nat}
    (hclears : r.Clears c) : l ≤ c := by
  refine Nat.le_of_not_lt ?_
  intro hcl
  have hl := closed_mono (Nat.le_of_lt hcl) (closed_of_clears hr hclears)
  rw [hopen.closed_eq] at hl
  cases hl

/-- A connection that was found open and is closed was closed meanwhile, and the reader has
given up since. -/
theorem clears_of_closed (hr : r.Admissible) (hopen : r.Does l task .isClosed false)
    (hclosed : (r.world k).connection.closed = true)
    (hreading : (r.world k).inbound.reading ≠ .closing) : ∃ c, l ≤ c ∧ c < k ∧ r.Clears c := by
  have hended := ((closed_iff_reading hr).mp hclosed).resolve_left hreading
  obtain ⟨c, hck, hclears⟩ := (ended_iff hr).mp hended
  exact ⟨c, le_of_clears hr hopen hclears, hck, hclears⟩

/-- While no send of a request is between two of its checks, nor the reader between its
last two steps, the request is parked if its send went through its checks, no response
came for it, its writing did not fail, and the connection is not closed. -/
theorem mem_parked_iff_waits (hr : r.Admissible)
    (hsends : ∀ task, r.stage task k ≠ .parked id ∧ r.stage task k ≠ .yielding id)
    (hreading : (r.world k).inbound.reading ≠ .closing) :
    id ∈ (r.world k).connection.parked ↔
      ∃ p l, l < k ∧ r.Registers p l id ∧
        (∀ d response, p < d → d < k → r.Receives d response → response.id ≠ id) ∧
        (∀ m task request e, m < k → r.Does m task (.write request) (.error e) →
          request.id ≠ id) ∧
        (r.world k).connection.closed = false := by
  rw [mem_parked_iff hr]
  constructor
  · rintro ⟨p, hpk, ⟨task, hpark⟩, hkept⟩
    have hunpark : ∀ l task', p < l → l < k → ¬ r.Does l task' (.unpark id) () :=
      fun l task' hpl hlk h => hkept l hpl hlk (.inr (.inl ⟨task', h⟩))
    obtain ⟨l, hlk, hregisters, -⟩ := registers_of_park hr hpark hpk (hsends task).1
      (hsends task).2 fun l hpl hlk => hunpark l task hpl hlk
    have ⟨_, hpl, _, _, hopen⟩ := hregisters
    refine ⟨p, l, hlk, hregisters, ?_, ?_, ?_⟩
    · intro d response hpd hdk hreceives hid
      exact hkept d hpd hdk (.inl ⟨response, hreceives, hid⟩)
    · rintro m task' request e hmk hwrite rfl
      obtain ⟨l', hpl', hlk', h⟩ :=
        unparks_of_failed hr ⟨task, hpark⟩ hwrite hmk (hsends task').2
      exact hunpark l' task' hpl' hlk' h
    · refine Bool.eq_false_iff.mpr ?_
      intro hclosed
      obtain ⟨c, hlc, hck, hclears⟩ := clears_of_closed hr hopen hclosed hreading
      exact hkept c (Nat.lt_of_lt_of_le hpl hlc) hck (.inr (.inr hclears))
  -- Each of the three ways to stop being parked is excluded by one of the conditions.
  · rintro ⟨p, l, hlk, ⟨task, hpl, hpark, hquiet, hopen⟩, hresponses, hwrites, hclosed⟩
    refine ⟨p, by omega, ⟨task, hpark⟩, ?_⟩
    rintro l' hpl' hlk' (⟨response, hreceives, hid⟩ | ⟨task', hunpark⟩ | hclears)
    · exact hresponses l' response hpl' hlk' hreceives hid
    · obtain ⟨m, hml, ⟨hlook, hm⟩ | ⟨request, e, hid, hwrite, -⟩⟩ :=
        yields_of_yielding hr (stage_of_does hr hunpark rfl)
      · obtain rfl := look_unique hr ⟨task, hpl, hpark, hquiet, hopen⟩ hm hlook
        have := hlook.closed_eq.symm.trans hopen.closed_eq
        cases this
      · exact hwrites m task' request e (by omega) hwrite hid
    · have hk := closed_mono (Nat.le_of_lt hlk') (closed_of_clears hr hclears)
      rw [hclosed] at hk
      cases hk

/-! ### Responses and abandoned sends -/

theorem connection_of_receives {response : Response} (h : r.Receives k response) :
    (r.world (k + 1)).connection = (r.world k).connection.answer response := by
  obtain ⟨t, ht, hincoming⟩ := Option.bind_eq_some_iff.mp h
  rw [world_succ ht, World.apply_connection_of_response hincoming]

/-- A response changes nothing unless it is the first one for its request. -/
theorem connection_of_stray (hr : r.Admissible) {response : Response}
    (h : r.Receives k response)
    (hstray : ∀ p < k, r.Parks p response.id →
      ∃ l response', p < l ∧ l < k ∧ r.Receives l response' ∧ response'.id = response.id) :
    (r.world (k + 1)).connection = (r.world k).connection := by
  rw [connection_of_receives h]
  refine if_neg ?_
  intro hmem
  obtain ⟨p, hpk, hpark, hkept⟩ := (mem_parked_iff hr).mp hmem
  obtain ⟨l, response', hpl, hlk, hreceives, hid⟩ := hstray p hpk hpark
  exact hkept l hpl hlk (.inl ⟨response', hreceives, hid⟩)

/-- A response is nothing to the other requests. -/
theorem others_of_receives {response : Response} (h : r.Receives k response)
    (hid : id ≠ response.id) :
    (id ∈ (r.world (k + 1)).connection.parked ↔ id ∈ (r.world k).connection.parked) ∧
      (r.world (k + 1)).connection.replyTo? id = (r.world k).connection.replyTo? id := by
  rw [connection_of_receives h, Connection.mem_parked_answer]
  refine ⟨⟨And.left, fun hmem => ⟨hmem, hid.symm⟩⟩, ?_⟩
  unfold Connection.replyTo?
  rw [Connection.answer_replies, List.lookup_append]
  split <;> simp [List.lookup_cons, beq_false_of_ne hid]

variable (r) in
/-- A send is abandoned at a position: its task is dropped, or its wait ends, perhaps with
its context and without an answer. -/
def Abandons (k : Nat) (task : TaskId) : Prop :=
  r.transitions[k]? = some (.abort task) ∨
    ∃ ctx id reply, r.Does k task (.awaitReply ctx id) reply

/-- A send that is abandoned leaves the connection and all other tasks alone. -/
theorem frame_of_abandons (h : r.Abandons k task) :
    (r.world (k + 1)).connection = (r.world k).connection ∧
      ∀ task', task' ≠ task → (r.world (k + 1)).tasks[task']? = (r.world k).tasks[task']? := by
  rcases h with ht | ⟨ctx, id, reply, hdoes⟩
  · rw [world_succ ht]
    show ((r.world k).abort task).connection = _ ∧
      ∀ task', _ → ((r.world k).abort task).tasks[task']? = _
    unfold World.abort
    split
    · unfold World.retire
      rw [(World.dropHoldings_aside ..).connection, (World.dropHoldings_aside ..).tasks]
      exact ⟨rfl, fun task' hne => List.getElem?_set_ne hne.symm⟩
    · exact ⟨rfl, fun _ _ => rfl⟩
  · obtain ⟨ht, next, w', htask, hp⟩ := hdoes.spec
    obtain ⟨reply', -, hreply⟩ := Option.map_eq_some_iff.mp hp
    obtain rfl : r.world k = w' := congrArg Prod.snd hreply
    have happly : (r.world k).apply (.step task) = (r.world k).setTask task (.running (next reply)) := by
      simp [World.apply, World.step, htask, hp]
    rw [world_succ ht, happly]
    exact ⟨rfl, fun task' hne => List.getElem?_set_ne hne.symm⟩

/-! ### All together -/

variable (r) in
/-- The requests of a run and their answers belong together. -/
structure Correlated : Prop where
  /-- Ids are given out from zero on, one after the other. -/
  ids : ∀ k, r.ids k = List.range (r.world k).connection.nextId
  /-- A request is written by the task that its id was given to. -/
  own : ∀ k task request result, r.Does k task (.write request) result →
    ∃ a < k, r.Does a task .allocate request.id
  /-- No two requests are written under one id. -/
  distinct : ∀ k l task task' request request' result result',
    r.Does k task (.write request) result → r.Does l task' (.write request') result' →
      request.id = request'.id → k = l
  /-- What only the browser says is the first response that came after the parking of the
  request, under the id that the send was given. -/
  outcome : ∀ task i ctx session method params j (result : Reply),
    r.Runs task i (send ctx session method params).run j (.done result) →
      result.FromBrowser →
      ∃ id, (∃ k, i ≤ k ∧ k < j ∧ r.Does k task .allocate id) ∧
        ∃ p d, i ≤ p ∧ p < d ∧ d < j ∧ r.Does p task (.park id) () ∧
          ∃ response, r.Receives d response ∧ response.id = id ∧ response.Says result ∧
            ∀ l response', p < l → l < d → r.Receives l response' → response'.id ≠ id
  /-- An id is waited for once, so a response completes one send at most. -/
  once : ∀ m l task task' ctx ctx' id reply reply',
    r.Does m task (.awaitReply ctx id) reply → r.Does l task' (.awaitReply ctx' id) reply' →
      m = l ∧ task = task'
  /-- A response that is not the first one after the parking of its request changes
  nothing, and neither does one whose request was never parked. -/
  stray : ∀ k response, r.Receives k response →
    (∀ p < k, r.Parks p response.id →
      ∃ l response', p < l ∧ l < k ∧ r.Receives l response' ∧ response'.id = response.id) →
    (r.world (k + 1)).connection = (r.world k).connection
  /-- A response is nothing to the other requests. -/
  others : ∀ k response id, r.Receives k response → id ≠ response.id →
    (id ∈ (r.world (k + 1)).connection.parked ↔ id ∈ (r.world k).connection.parked) ∧
      (r.world (k + 1)).connection.replyTo? id = (r.world k).connection.replyTo? id
  /-- A send that is abandoned is nothing to the other sends. -/
  abandoned : ∀ k task, r.Abandons k task →
    (r.world (k + 1)).connection = (r.world k).connection ∧
      ∀ task', task' ≠ task → (r.world (k + 1)).tasks[task']? = (r.world k).tasks[task']?
  /-- While no send of a request is between two of its checks, nor the reader between its
  last two steps, the request is parked if its send went through its checks, no response
  came for it, its writing did not fail, and the connection is not closed. -/
  parked : ∀ k id, (∀ task, r.stage task k ≠ .parked id ∧ r.stage task k ≠ .yielding id) →
    (r.world k).inbound.reading ≠ .closing →
    (id ∈ (r.world k).connection.parked ↔
      ∃ p l, l < k ∧ r.Registers p l id ∧
        (∀ d response, p < d → d < k → r.Receives d response → response.id ≠ id) ∧
        (∀ m task request e, m < k → r.Does m task (.write request) (.error e) →
          request.id ≠ id) ∧
        (r.world k).connection.closed = false)

/-- In every run the answers go to the requests that they belong to. -/
theorem requests_correlate (hr : r.Admissible) : r.Correlated where
  ids _ := ids_eq_range hr
  own _ _ _ _ := allocated_of_write hr
  distinct _ _ _ _ _ _ _ _ := write_unique hr
  outcome _ _ _ _ _ _ _ _ h hresult := h.first_response hr hresult
  once _ _ _ _ _ _ _ _ _ h h' := by
    obtain rfl := wait_unique hr h h'
    exact ⟨rfl, h.task_eq h'⟩
  stray _ _ := connection_of_stray hr
  others _ _ _ := others_of_receives
  abandoned _ _ := frame_of_abandons
  parked _ _ := mem_parked_iff_waits hr

/-- One send, and the answer to it. -/
def exchange : Run where
  start := .initial [] .none
  transitions :=
    [.startReading, .spawn ((send none none "Browser.getVersion" .null).task .json),
      .step 0, .step 0, .step 0, .step 0, .step 0,
      .inject (.object [("id", .int 0), ("result", .int 7)]), .receive, .read, .step 0, .step 0]

theorem exchange_admissible : exchange.Admissible :=
  admissible_of_admits ⟨trivial, (send_orderly ..).bind fun _ => .done _, trivial, trivial, trivial,
    trivial, trivial, trivial, trivial, trivial, trivial, trivial, trivial⟩

theorem requests_correlate_exchange :
    exchange.Admissible ∧ exchange.Correlated ∧
      (exchange.world 12).tasks.map Task.outcome? = [some (.operation (.ok (.json (.int 7))))] :=
  ⟨exchange_admissible, requests_correlate exchange_admissible, rfl⟩

end Run

end PagePilot
