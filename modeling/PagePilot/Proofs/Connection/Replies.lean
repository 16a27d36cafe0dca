import PagePilot.Proofs.Connection.Requests
import PagePilot.Proofs.Operation.Orderly
import PagePilot.Proofs.Wire.Message
/-!
# PagePilot.Proofs.Connection.Replies

Which messages complete a request. A message that carries the id of a parked request
completes it when it reads as an answer, and whether it does is up to its refusal only: a
result may be anything, but the `data` of a refusal has to be a text. A refusal with other
data is logged as no message at all, and its request goes on waiting.

* `Run.RepliesComplete` would be that every answer completes its request;
* `Run.ReplySettles` is what holds of a message with the id of a parked request, and
  `Run.reply_settles` proves it of all runs.
-/

namespace PagePilot

open Wire

/-- What an answer has besides its id: a result of any kind, or a refusal with any data. -/
inductive Wire.Response.Body (members : List (String × Json)) : Prop
  | result {j : Json} (h : Json.lookup "result" members = some j)
      (hnone : Json.lookup "error" members = none)
  | refusal {refusal : List (String × Json)} {number : Int} {text : String}
      (h : Json.lookup "error" members = some (.object refusal))
      (hmembers : ErrorPayload.Members refusal number text)

namespace Run

variable {r : Run} {k n : Nat} {members : List (String × Json)}

variable (r) in
/-- The reader takes a message at a position. -/
structure Reads (k : Nat) (message : Json) : Prop where
  reads : r.transitions[k]? = some .read
  running : ∃ owner, (r.world k).inbound.reading = .running owner
  first : ∃ rest, (r.world k).inbound.inbox = message :: rest

variable (r) in
/-- Every answer to a parked request completes it. -/
def RepliesComplete : Prop :=
  ∀ k n members, r.Reads k (.object members) → Response.Members members n →
    Response.Body members → n ∈ (r.world k).connection.parked →
      n ∉ (r.world (k + 1)).connection.parked ∧
        ((r.world (k + 1)).connection.outcome? n).isSome

theorem Reads.incoming {message : Json} (h : r.Reads k message) :
    r.incoming? k = (Message.decode message).toOption := by
  obtain ⟨owner, howner⟩ := h.running
  obtain ⟨rest, hrest⟩ := h.first
  simp [incoming?, h.reads, World.incoming?, howner, hrest]

/-- What reads as an answer is taken in as one, and nothing else is. -/
theorem Reads.receives_iff {message : Json} (h : r.Reads k message) {response : Response} :
    r.Receives k response ↔ Response.decode message = .ok response := by
  unfold Receives
  rw [h.incoming, ← Message.decode_response]
  cases Message.decode message <;> simp [Except.toOption]

/-- What completes a request is the message that reads as an answer to it. -/
theorem Reads.not_mem_parked_iff {message : Json} (h : r.Reads k message)
    (hn : n ∈ (r.world k).connection.parked) :
    n ∉ (r.world (k + 1)).connection.parked ↔
      ∃ response, Response.decode message = .ok response ∧ response.id = n := by
  have hnot : ∀ task a (reply : a.Reply), ¬ r.Does k task a reply := by
    intro task a reply hdoes
    cases h.reads.symm.trans hdoes.spec.1
  have hclears : ¬ r.Clears k := by
    rintro ⟨t, -, -, hclosing⟩
    obtain ⟨owner, howner⟩ := h.running
    cases howner.symm.trans hclosing
  rw [mem_parked_succ]
  simp only [Unparks, Parks, hnot, hclears, hn, h.receives_iff, exists_false, or_false, true_and,
    Classical.not_not]

theorem outcome?_of_parked (hr : r.Admissible) (hn : n ∈ (r.world k).connection.parked) :
    (r.world k).connection.outcome? n = none := by
  unfold Connection.outcome?
  cases hreply : (r.world k).connection.replyTo? n with
  | none => simp [hn]
  | some reply =>
    obtain ⟨d, hdk, hanswers⟩ := (replyTo?_eq_some_iff hr).mp hreply
    exact absurd hn (not_mem_parked_of_answers hr hanswers hdk)

/-- Who waits for a request that is parked waits for the end of its context. -/
theorem awaited_of_parked (hr : r.Admissible) (hn : n ∈ (r.world k).connection.parked)
    (ctx : Option Context) :
    (r.world k).awaited ctx n = (ctx.bind (r.world k).toldEndOf).map .error := by
  unfold World.awaited
  rw [outcome?_of_parked hr hn]
  cases ctx.bind (r.world k).toldEndOf <;> rfl

theorem Reads.outcome?_of_decode (hr : r.Admissible) {message : Json} (h : r.Reads k message)
    {response : Response} (hdecode : Response.decode message = .ok response)
    (hn : response.id ∈ (r.world k).connection.parked) :
    (r.world (k + 1)).connection.outcome? response.id = some (Connection.replyIn response) := by
  have hanswers : r.Answers k response.id (Connection.replyIn response) :=
    ⟨response, h.receives_iff.mpr hdecode, rfl, hn, rfl⟩
  unfold Connection.outcome?
  rw [(replyTo?_eq_some_iff hr).mpr ⟨k, Nat.lt_succ_self k, hanswers⟩]

/-- A message with the id of a parked request completes it, with what it reads as. -/
theorem Reads.completes (hr : r.Admissible) (h : r.Reads k (.object members))
    (hm : Response.Members members n) (hn : n ∈ (r.world k).connection.parked)
    {response : Response} (hdecode : Response.decode (.object members) = .ok response) :
    n ∉ (r.world (k + 1)).connection.parked ∧
      (r.world (k + 1)).connection.outcome? n = some (Connection.replyIn response) := by
  obtain ⟨rfl, -⟩ := (Response.decode_eq_ok hm).mp hdecode
  exact ⟨(h.not_mem_parked_iff hn).mpr ⟨response, hdecode, rfl⟩,
    h.outcome?_of_decode hr hdecode hn⟩

/-- Whether it does is up to its refusal. -/
theorem Reads.completes_iff (h : r.Reads k (.object members)) (hm : Response.Members members n)
    (hn : n ∈ (r.world k).connection.parked) :
    n ∉ (r.world (k + 1)).connection.parked ↔
      ∀ j, Json.given? "error" members = some j → ∃ e, ErrorPayload.decode j = .ok e := by
  rw [h.not_mem_parked_iff hn, ← Response.exists_decode_iff hm]
  constructor
  · rintro ⟨response, hdecode, -⟩
    exact ⟨response, hdecode⟩
  · rintro ⟨response, hdecode⟩
    exact ⟨response, hdecode, ((Response.decode_eq_ok hm).mp hdecode).1⟩

/-- A message that reads as nothing is logged, and that is all. -/
theorem Reads.world_of_bad {message : Json} (h : r.Reads k message) {cause : DecodeError}
    (hdecode : Message.decode message = .error cause) :
    ∃ rest, (r.world k).inbound.inbox = message :: rest ∧ r.world (k + 1) =
      { r.world k with inbound := { (r.world k).inbound with inbox := rest } }.note
        (.logged (World.badMessage cause message)) := by
  obtain ⟨owner, howner⟩ := h.running
  obtain ⟨rest, hrest⟩ := h.first
  refine ⟨rest, hrest, ?_⟩
  rw [world_succ h.reads]
  simp only [World.apply, World.read, howner, hrest, World.take, hdecode]

/-! ### All together -/

variable (r) in
/-- What comes of a message with the id `n` of a parked request, when the reader takes it at
`k`. -/
structure ReplySettles (k n : Nat) (members : List (String × Json)) : Prop where
  /-- It completes the request if its refusal, when it has one, reads as a refusal. -/
  completes : n ∉ (r.world (k + 1)).connection.parked ↔
    ∀ j, Json.given? "error" members = some j → ∃ e, ErrorPayload.decode j = .ok e
  /-- Without a refusal, the request has the result, whatever that is. -/
  result : Json.given? "error" members = none →
    n ∉ (r.world (k + 1)).connection.parked ∧ (r.world (k + 1)).connection.outcome? n =
      some (.ok ((Json.given? "result" members).getD .null))
  /-- With a refusal whose data is a text, `null` or left out, the request fails with it. -/
  refusal : ∀ refusal number text (data : Option String),
    Json.given? "error" members = some (.object refusal) →
      ErrorPayload.Members refusal number text → Json.given? "data" refusal = data.map .string →
        n ∉ (r.world (k + 1)).connection.parked ∧ (r.world (k + 1)).connection.outcome? n =
          some (.error (Connection.refusal ⟨number, text, data⟩))
  /-- With a refusal whose data is anything else, the request stays parked, and who waits for
  it waits for the end of a context. -/
  stays : ∀ refusal number text, Json.given? "error" members = some (.object refusal) →
    ErrorPayload.Members refusal number text →
      (∀ data : Option String, Json.given? "data" refusal ≠ data.map .string) →
        n ∈ (r.world (k + 1)).connection.parked ∧
          ∀ ctx, (r.world (k + 1)).awaited ctx n =
            (ctx.bind (r.world (k + 1)).toldEndOf).map .error
  /-- If it has no method either, a message that does not complete the request is logged, and
  that is all. -/
  dropped : n ∈ (r.world (k + 1)).connection.parked → Json.lookup "method" members = none →
    ∃ rest, (r.world k).inbound.inbox = .object members :: rest ∧ r.world (k + 1) =
      { r.world k with inbound := { (r.world k).inbound with inbox := rest } }.note
        (.logged (World.badMessage (.noAlternative "Message") (.object members)))

/-- In every run, what a message does to the request whose id it carries is up to its
refusal. -/
theorem reply_settles (hr : r.Admissible) (h : r.Reads k (.object members))
    (hm : Response.Members members n) (hn : n ∈ (r.world k).connection.parked) :
    r.ReplySettles k n members := by
  refine ⟨h.completes_iff hm hn, ?_, ?_, ?_, ?_⟩
  · intro hnone
    exact h.completes hr hm hn (Response.decode_of_result hm hnone)
  · intro refusal number text data herror hrefusal hdata
    have hread := (ErrorPayload.decode_eq_ok hrefusal).mpr ⟨data, hdata, rfl⟩
    exact h.completes hr hm hn (Response.decode_of_refusal hm herror hread)
  · intro refusal number text herror hrefusal hdata
    have hparked : n ∈ (r.world (k + 1)).connection.parked := by
      refine Classical.byContradiction fun hnot => ?_
      obtain ⟨e, he⟩ := (h.completes_iff hm hn).mp hnot _ herror
      obtain ⟨data, hdata', -⟩ := (ErrorPayload.decode_eq_ok hrefusal).mp he
      exact hdata data hdata'
    exact ⟨hparked, awaited_of_parked hr hparked⟩
  · intro hparked hmethod
    refine h.world_of_bad (Message.decode_of_no_method hm.keys hmethod ?_)
    intro response hdecode
    exact (h.completes hr hm hn hdecode).1 hparked

/-- The members of a refusal whose data is an object. -/
def refusedField : List (String × Json) :=
  [("code", .int (-32602)), ("message", .string "Invalid parameters"),
    ("data", .object [("field", .string "url")])]

/-- A reload that the browser refuses, with an object as the data of the refusal. -/
def detailedRefusal : Run where
  start := .initial [] .none
  transitions :=
    [.startReading, .spawn ((send none none "Page.reload" .empty).task .json),
      .step 0, .step 0, .step 0, .step 0, .step 0,
      .inject (.object [("id", .int 0), ("error", .object refusedField)]), .receive, .read]

theorem detailedRefusal_admissible : detailedRefusal.Admissible :=
  admissible_of_admits ⟨trivial, (send_orderly ..).bind fun _ => .done _, trivial, trivial, trivial,
    trivial, trivial, trivial, trivial, trivial, trivial⟩

theorem detailedRefusal_reads :
    detailedRefusal.Reads 9 (.object [("id", .int 0), ("error", .object refusedField)]) :=
  ⟨rfl, ⟨none, rfl⟩, [], rfl⟩

theorem detailedRefusal_members :
    Response.Members [("id", .int 0), ("error", .object refusedField)] 0 :=
  ⟨by decide, rfl, by decide⟩

theorem refusedField_members : ErrorPayload.Members refusedField (-32602) "Invalid parameters" :=
  ⟨by decide, rfl, by decide, rfl⟩

theorem reply_settles_detailedRefusal : detailedRefusal.Admissible ∧
    detailedRefusal.Reads 9 (.object [("id", .int 0), ("error", .object refusedField)]) ∧
      detailedRefusal.ReplySettles 9 0 [("id", .int 0), ("error", .object refusedField)] :=
  ⟨detailedRefusal_admissible, detailedRefusal_reads,
    reply_settles detailedRefusal_admissible detailedRefusal_reads detailedRefusal_members
      (by decide)⟩

/-- The refusal is not taken for one: its request goes on waiting. -/
theorem detailedRefusal_unanswered : detailedRefusal.Admissible ∧ ¬ detailedRefusal.RepliesComplete := by
  refine ⟨detailedRefusal_admissible, fun h => ?_⟩
  have hcompleted := h 9 0 _ detailedRefusal_reads detailedRefusal_members
    (.refusal rfl refusedField_members) (by decide)
  exact hcompleted.1 (by decide)

end Run

end PagePilot
