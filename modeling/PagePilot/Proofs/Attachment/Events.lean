import PagePilot.Proofs.Attachment
import PagePilot.Proofs.Connection.Routing
/-!
# PagePilot.Proofs.Attachment.Events

Which events of its session a page gets that a task attaches to a target. The session begins
with the answer of the browser, but the page is registered only when the task goes on with
that answer, and the reader does not wait for it. So what is taken in between the two goes
where the session's events went before, which is nowhere as a rule, even when it comes in one
burst with the answer.

* `Run.Attaches` tells of an attachment when the answer was taken in and when the page was
  registered;
* `Run.AttachmentComplete` would be that the page gets all events after the answer;
* `Run.AttachedEvents` is what it gets, and `Run.attached_events` proves it of all runs.
-/

namespace PagePilot

open Wire

/-- A page that is there, and that nobody keeps. -/
def World.Gone (w : World) (page : PageKey) : Prop :=
  ∃ p, w.pages[page]? = some p ∧ p.alive = false

namespace Run

variable (r : Run)

/-- A task has attached to a target by position `j`, and has the page now. The answer with the
session was taken in at `d`, and the task registered the page at `o`. -/
structure Attaches (task : TaskId) (i j : Nat) (page : Page) (d o : Nat) (session : SessionId) :
    Prop where
  attached : ∃ ctx target, r.Runs task i (Page.attach ctx target).run j (.done (.ok page))
  answered : ∃ id w target answer, i ≤ w ∧ w < o ∧
    r.Does w task (.write (Send.request none (Command.attachToTarget target true).method
      (Command.attachToTarget target true).params id)) (.ok ()) ∧
    r.Answers d id (.ok answer) ∧
      (Command.attachToTarget target true).acknowledge answer = .ok session
  before : d < o
  registers : r.Does o task (.openPage session) page.key
  within : o < j
  session_eq : page.session = some session

/-- Nobody registers or unregisters a page under the session between two positions. -/
def Undisturbed (o l : Nat) (session : SessionId) : Prop :=
  ∀ m, o < m → m < l →
    (∀ page, ¬ r.Routes m (some session) page) ∧ ¬ r.Unroutes m (some session)

/-- An event of a session is taken in at a position. -/
def Hears (l : Nat) (session : SessionId) (e : EventMessage) : Prop :=
  r.incoming? l = some (.event e) ∧ e.sessionId = some session

/-- The page that was attached gets every event of its session from the answer on, as long as
it is not gone and the session is not given to another page. -/
def AttachmentComplete : Prop :=
  ∀ task i j page d o session, r.Attaches task i j page d o session →
    ∀ l e, d < l → r.Hears l session e → ¬ (r.world l).Gone page.key →
      r.Undisturbed o l session → r.Hands l ⟨page.key, e.method, e.params⟩

variable {r} {task : TaskId} {i j k l d o n : Nat} {page : Page} {session : SessionId}
  {e : EventMessage}

/-- Who has attached to a target has registered the page after the answer. -/
theorem Runs.attaches (hr : r.Admissible) {ctx : Context} {target : TargetId}
    (h : r.Runs task i (Page.attach ctx target).run j (.done (.ok page))) :
    ∃ d o session, r.Attaches task i j page d o session := by
  have hattached := h
  unfold Page.attach at h
  rcases h.of_op_bind_done with ⟨_, hq, -⟩ | ⟨k, session, hasks, h⟩
  · cases hq
  rcases h.of_op_bind_done with ⟨_, hq, -⟩ | ⟨l, key, hopened, h⟩
  · cases hq
  rcases h.of_op_bind_done with ⟨_, hq, -⟩ | ⟨m, _, henabled, h⟩
  · cases hq
  obtain ⟨o, _, hko, hol, hopens, -, -, hkey⟩ := hopened.of_perform_done
  cases hkey
  obtain ⟨-, hresult⟩ := h.of_done
  cases hresult
  obtain ⟨id, w, u, d, answer, hiw, hwu, huk, hdu, hw, hanswers, -, -, hread⟩ :=
    hasks.acknowledged hr
  have hlm := henabled.le
  have hmj := h.le
  exact ⟨d, o, session,
    { attached := ⟨ctx, target, hattached⟩
      answered := ⟨id, w, target, answer, hiw, by omega, hw, hanswers, hread⟩
      before := by omega
      registers := hopens
      within := by omega
      session_eq := rfl }⟩

/-- A page that a task opens is a new one. -/
theorem Does.opens_new {key : PageKey} (h : r.Does o task (.openPage session) key) :
    key = (r.world o).pages.length := by
  obtain ⟨-, next, w', -, hp⟩ := h.spec
  cases hp
  rfl

/-- No page gets anything before it is there. -/
theorem Hands.there (hr : r.Grounded) {handing : Handing} (h : r.Hands l handing) (hlo : l ≤ o) :
    handing.page < (r.world o).pages.length := by
  obtain ⟨e, key, -, -, halive, rfl⟩ := (hands_iff hr).mp h
  obtain ⟨p, hp, -⟩ := World.isAlive_eq_true.mp halive
  obtain ⟨p', hp', -⟩ := hr.page_mono hlo hp
  exact (List.getElem?_eq_some_iff.mp hp').1

theorem Attaches.after (hr : r.Grounded) (h : r.Attaches task i j page d o session)
    {handing : Handing} (hhands : r.Hands l handing) (hpage : handing.page = page.key) : o < l := by
  refine Nat.lt_of_not_le fun hlo => ?_
  have hthere := hhands.there hr hlo
  rw [hpage, h.registers.opens_new] at hthere
  exact Nat.lt_irrefl _ hthere

/-- From its registration on, the page serves its session. -/
theorem Attaches.hands (hr : r.Grounded) (h : r.Attaches task i j page d o session) (hol : o < l)
    (hhears : r.Hears l session e) (hgone : ¬ (r.world l).Gone page.key)
    (hothers : r.Undisturbed o l session) : r.Hands l ⟨page.key, e.method, e.params⟩ := by
  obtain ⟨hincoming, hsession⟩ := hhears
  have hserves : r.Serves l (some session) page.key := ⟨o, hol, .task h.registers, hothers⟩
  obtain ⟨p, hp⟩ := (Routes.task h.registers).there hr
  obtain ⟨p', hp', -⟩ := hr.page_mono hol hp
  have halive : (r.world l).isAlive page.key = true := by
    refine World.isAlive_eq_true.mpr ⟨p', hp', ?_⟩
    simpa using fun hdead => hgone ⟨p', hp', hdead⟩
  exact (hands_iff hr).mpr ⟨e, page.key, hincoming, hsession ▸ hserves, halive, rfl⟩

/-! ### All together -/

variable (r) in
/-- What a page gets of the events of its session, when a task has attached it. The answer was
taken in at `d`, and the task registered the page at `o`. -/
structure AttachedEvents (task : TaskId) (i j : Nat) (page : Page) (d o : Nat)
    (session : SessionId) : Prop where
  /-- The task has attached to the target. -/
  attaches : r.Attaches task i j page d o session
  /-- Of the events of the session after the answer, the page is handed those after its
  registration, as long as it is not gone and the session is not given to another page. -/
  handed : ∀ l e, d < l → r.Hears l session e → ¬ (r.world l).Gone page.key →
    r.Undisturbed o l session → (r.Hands l ⟨page.key, e.method, e.params⟩ ↔ o < l)
  /-- What it is handed is delivered there, in the order in which the browser sent it, each
  event once. -/
  delivered : ∀ l method params, r.Hands l ⟨page.key, method, params⟩ →
    ∃ message rest, (r.world l).inbound.inbox = message :: rest ∧ r.world (l + 1) =
      (((r.world l).withInbox rest).note (.handed page.key method params)).deliver page.key
        (.decode method params)
  received : ∀ l, r.takenBefore l ++ (r.world l).pending = r.sentBefore l
  /-- Nothing is handed to it before its registration. -/
  nothing : ∀ l handing, l ≤ o → r.Hands l handing → handing.page ≠ page.key
  /-- So up to any position after the registration it has got all events of its session if and
  only if none came between the answer and the registration. -/
  complete : ∀ n, o < n → ¬ (r.world n).Gone page.key → r.Undisturbed o n session →
    ((∀ l e, d < l → l < n → r.Hears l session e → r.Hands l ⟨page.key, e.method, e.params⟩) ↔
      ∀ l e, d < l → l < o → ¬ r.Hears l session e)

/-- A page that is not gone was not gone before. -/
theorem Grounded.not_gone_of_le (hr : r.Grounded) {key : PageKey} (hln : l ≤ n)
    (h : ¬ (r.world n).Gone key) : ¬ (r.world l).Gone key := by
  rintro ⟨p, hp, hdead⟩
  obtain ⟨p', hp', hback⟩ := hr.page_mono hln hp
  refine h ⟨p', hp', Bool.eq_false_iff.mpr fun halive => ?_⟩
  exact Bool.false_ne_true (hdead.symm.trans (hback halive))

theorem Undisturbed.of_le (h : r.Undisturbed o n session) (hln : l ≤ n) :
    r.Undisturbed o l session :=
  fun m hom hml => h m hom (Nat.lt_of_lt_of_le hml hln)

/-- In every run, a page that is attached gets the events of its session from its registration
on, and not those that came between the answer and the registration. -/
theorem attached_events (hr : r.Admissible) (hgrounded : r.Grounded) {ctx : Context}
    {target : TargetId} (h : r.Runs task i (Page.attach ctx target).run j (.done (.ok page))) :
    ∃ d o session, r.AttachedEvents task i j page d o session := by
  obtain ⟨d, o, session, hattaches⟩ := h.attaches hr
  have hhanded : ∀ l e, d < l → r.Hears l session e → ¬ (r.world l).Gone page.key →
      r.Undisturbed o l session → (r.Hands l ⟨page.key, e.method, e.params⟩ ↔ o < l) :=
    fun l e _ hhears hgone hothers =>
      ⟨fun hhands => hattaches.after hgrounded hhands rfl,
        fun hol => hattaches.hands hgrounded hol hhears hgone hothers⟩
  refine ⟨d, o, session, hattaches, hhanded, fun _ _ _ => Hands.delivered,
    fun _ => takenBefore_append_pending hgrounded, ?_, ?_⟩
  · intro l handing hlo hhands hpage
    exact Nat.not_le.mpr (hattaches.after hgrounded hhands hpage) hlo
  · intro n hon hgone hothers
    constructor
    · intro hall l e hdl hlo hhears
      have hhands := hall l e hdl (Nat.lt_trans hlo hon) hhears
      exact Nat.not_lt.mpr (Nat.le_of_lt hlo) (hattaches.after hgrounded hhands rfl)
    · intro hnone l e hdl hln hhears
      have hgone' := hgrounded.not_gone_of_le (Nat.le_of_lt hln) hgone
      refine (hhanded l e hdl hhears hgone' (hothers.of_le (Nat.le_of_lt hln))).mpr ?_
      refine Nat.lt_of_not_le fun hlo => ?_
      rcases Nat.lt_or_eq_of_le hlo with hlt | rfl
      · exact hnone l e hdl hlt hhears
      · -- At `o` the task acts, so no event is taken in there.
        obtain ⟨t, ht, hincoming⟩ := Option.bind_eq_some_iff.mp hhears.1
        obtain ⟨rfl, -⟩ := World.running_of_incoming hincoming
        cases ht.symm.trans hattaches.registers.spec.1

/-- The news that the main frame of a session is another one now. -/
def navigated (session frame : String) : Transition :=
  .inject (.object [("method", .string "Page.frameNavigated"),
    ("params", .object [("frame", .object [("id", .string frame), ("loaderId", .string "L"),
      ("url", .string "about:blank")])]), ("sessionId", .string session)])

/-- A page is attached. The answer with its session comes in one burst with an event of the
session, and both are taken in before the task goes on; the events of the session have gone to
an older page so far, so this one goes there too. A later event reaches the new page. -/
def handover : Run where
  start := .initial [] .none
  transitions :=
    [.newScope none, .openPage (some ⟨"S"⟩) (some ⟨"F"⟩), .route (some ⟨"S"⟩) 0, .startReading,
      .spawn ((Page.attach ⟨0, none⟩ ⟨"T1"⟩).task fun page => .page page.key),
      .step 0, .step 0, .step 0, .step 0, .step 0, .step 0,
      answerTo 0 (.object [("sessionId", .string "S")]), navigated "S" "NEW", .receive,
      .read, .read, .step 0, .step 0, navigated "S" "LATER", .receive, .read,
      .step 0, .step 0, .step 0, .step 0, .step 0, .step 0,
      answerTo 1 .empty, .receive, .read, .step 0,
      .step 0, .step 0, .step 0, .step 0, .step 0, .step 0,
      answerTo 2 .empty, .receive, .read, .step 0,
      .step 0, .step 0, .step 0, .step 0, .step 0, .step 0,
      answerTo 3 (.object [("frameTree", .object [("frame", .object [("id", .string "ROOT"),
        ("loaderId", .string "L"), ("url", .string "about:blank")])])]),
      .receive, .read, .step 0, .step 0]

theorem handover_admissible : handover.Admissible := by
  refine admissible_of_admits ⟨trivial, trivial, trivial, trivial, ?_, trivial, trivial, trivial,
    trivial, trivial, trivial, trivial, trivial, trivial, trivial, trivial, trivial, trivial,
    trivial, trivial, trivial, trivial, trivial, trivial, trivial, trivial, trivial, trivial,
    trivial, trivial, trivial, trivial, trivial, trivial, trivial, trivial, trivial, trivial,
    trivial, trivial, trivial, trivial, trivial, trivial, trivial, trivial, trivial, trivial,
    trivial, trivial, trivial, trivial, trivial⟩
  exact (Page.attach_orderly _ _).bind fun _ => .done _

theorem handover_grounded : handover.Grounded where
  initial := ⟨[], .none, rfl⟩
  step k t ht := by
    have hall : ∀ k < 52, ∀ t ∈ handover.transitions[k]?, t.Grounded (handover.world k) := by
      decide
    exact hall k (List.getElem?_eq_some_iff.mp ht).1 t ht

-- The command that attaches, the registration, three commands, and the writing of the frame.
theorem handover_runs : handover.Runs 0 5 (Page.attach ⟨0, none⟩ ⟨"T1"⟩).run 52
    (.done (.ok ⟨1, some ⟨"S"⟩⟩)) where
  begins := ⟨_, rfl⟩
  le := by decide
  leads := .cons (.cons (.cons (.cons (.cons (.cons (.cons (.cons (.cons (.cons (.cons (.cons
    (.cons (.cons (.cons (.cons (.cons (.cons (.cons (.cons (.cons (.cons (.cons (.cons (.cons
      (.cons (.cons (.cons (.cons (.cons (.nil _))))))))))))))))))))))))))))))

theorem handover_attaches : handover.Attaches 0 5 52 ⟨1, some ⟨"S"⟩⟩ 14 17 ⟨"S"⟩ where
  attached := ⟨_, _, handover_runs⟩
  answered := ⟨0, 10, ⟨"T1"⟩, _, by decide, by decide, rfl, ⟨_, rfl, rfl, by decide, rfl⟩, rfl⟩
  before := by decide
  registers := rfl
  within := by decide
  session_eq := rfl

theorem attached_events_handover : handover.Admissible ∧ handover.Grounded ∧
    handover.Runs 0 5 (Page.attach ⟨0, none⟩ ⟨"T1"⟩).run 52 (.done (.ok ⟨1, some ⟨"S"⟩⟩)) ∧
      ∃ d o session, handover.AttachedEvents 0 5 52 ⟨1, some ⟨"S"⟩⟩ d o session :=
  ⟨handover_admissible, handover_grounded, handover_runs,
    attached_events handover_admissible handover_grounded handover_runs⟩

/-- The event that came with the answer is not handed to the page that was attached. -/
theorem handover_misses : handover.Admissible ∧ handover.Grounded ∧
    ¬ handover.AttachmentComplete := by
  refine ⟨handover_admissible, handover_grounded, fun h => ?_⟩
  have hgone : ¬ (handover.world 15).Gone 1 := by
    rintro ⟨p, hp, -⟩
    cases hp
  have hhands := h 0 5 52 _ 14 17 ⟨"S"⟩ handover_attaches 15 _ (by decide) ⟨rfl, rfl⟩ hgone
    fun m hlt hle => absurd (Nat.lt_trans hlt hle) (by decide)
  have hpages : (handover.world 16).handings.map (·.page) = [0] := by decide
  rw [hhands, List.map_append] at hpages
  exact absurd hpages (by decide)

end Run

end PagePilot
