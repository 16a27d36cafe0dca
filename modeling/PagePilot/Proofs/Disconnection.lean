import PagePilot.Proofs.Connection.Closing
import PagePilot.Proofs.Navigation
import PagePilot.Proofs.Operation.Composed
/-!
# PagePilot.Proofs.Disconnection

What becomes of the operations on a page when the browser has gone away and the reader has
given up. Nobody waits for an answer any more, so an operation goes on to its end, which is
that the connection is closed unless its result was decided before. But nothing links the
reader to the barriers: a navigation that has its acknowledgment waits for its load as it did
before, until its context ends.

* `Run.CloseEndsOperations` would be that no operation waits;
* `Run.AwaitsLoad` is where one may wait, and `Run.ClosedEnd` lists how it may end;
* `Run.AfterClose` is what holds of an operation then, and `Run.operation_after_close` proves
  it of all runs.
-/

namespace PagePilot

open Wire

namespace Run

variable {r : Run} {page : Page} {ctx : Context} {task : TaskId} {i j k l m : Nat}

/-! ### What there is to wait for -/

variable (r) in
/-- A task that works at an operation since `i` waits for a load: the command of a navigation
was acknowledged, its load was not reported since, and its context has not ended. -/
def AwaitsLoad (task : TaskId) (i k : Nat) (page : Page) (ctx : Context) (a : Act) : Prop :=
  ∃ (n : Navigation) (m y : Nat) (key : BarrierKey) (x : n.Result), i ≤ m ∧ y ≤ k ∧
    r.Does m task (.arm page.key ctx Page.loadMilestone) key ∧
    r.Runs task (m + 1) (page.call ctx n.command).run y (.done (.ok x)) ∧ n.failure x = none ∧
    r.deeds task y k = [] ∧ a = .awaitMatch key ∧ ¬ r.Loads m k page.key ctx ∧
      (r.world k).toldEndOf ctx = none

theorem AwaitsLoad.of_later {a : Act} (h : r.AwaitsLoad task j k page ctx a) (hij : i ≤ j) :
    r.AwaitsLoad task i k page ctx a := by
  obtain ⟨n, m, y, key, x, hjm, h⟩ := h
  exact ⟨n, m, y, key, x, Nat.le_trans hij hjm, h⟩

/-- Who waits for a load cannot go on. -/
theorem AwaitsLoad.waits (hr : r.Admissible) {a : Act} (h : r.AwaitsLoad task i k page ctx a)
    (hpage : ((r.world i).board.listeners page.key).isSome) (hrunning : r.Running k task) :
    (r.world k).perform task a = none := by
  obtain ⟨n, m, y, key, x, him, hyk, harm, hcommand, -, hquiet, rfl, hload, halive⟩ := h
  have hmk : m < k := Nat.lt_of_lt_of_le hcommand.le hyk
  have hkeeps : ¬ r.LetsGo m k task key := hcommand.keeps_waiting hyk hquiet hrunning
  rcases loaded_of_awaitMatch hr harm (page_mono hr him hpage) hmk hkeeps with ⟨hloads, -⟩ | ⟨-, heq⟩
  · exact absurd hloads hload
  · rw [halive] at heq
    simp only [World.perform]
    rw [heq]
    rfl

/-- Once the reader has given up, a command never has to wait. -/
theorem Runs.command_proceeds (hr : r.Admissible)
    (hended : (r.world k).inbound.reading = .ended) {session : Option SessionId}
    {command : Command α} {a : Act} {next : a.Reply → Program (Except Error α)}
    (h : r.Runs task i (execute ctx session command).run k (.act a next)) :
    ((r.world k).perform task a).isSome := by
  rw [execute_run] at h
  rcases h.of_bind with ⟨a', next', hsend, hq⟩ | ⟨y, reply, -, hread⟩
  · cases hq
    exact hsend.proceeds hr hended
  · cases hread.of_done.2

/-- Once the reader has given up, a navigation waits for nothing but its load. -/
theorem Runs.awaitsLoad_of_navigation (hr : r.Admissible)
    (hended : (r.world k).inbound.reading = .ended) {n : Navigation} {a : Act}
    {next : a.Reply → Program (Except Error n.Result)}
    (h : r.Runs task i (n.op page ctx).run k (.act a next))
    (hpage : ((r.world i).board.listeners page.key).isSome) (hrunning : r.Running k task)
    (hwaits : (r.world k).perform task a = none) : r.AwaitsLoad task i k page ctx a := by
  rw [n.op_run] at h
  rcases h.of_act with ⟨-, hq⟩ | ⟨o, _, hio, -, -, -, h⟩
  · cases hq
    cases hwaits
  rcases h.of_act with ⟨-, hq⟩ | ⟨m, key, hom, -, -, harm, h⟩
  · cases hq
    cases hwaits
  rcases h.of_bind with ⟨a', next', hcommand, hq⟩ | ⟨y, ack, hcommand, hafter⟩
  · cases hq
    have hproceeds := hcommand.command_proceeds hr hended
    rw [hwaits] at hproceeds
    cases hproceeds
  have him : i ≤ m := by omega
  have hletting : ∀ {i : Nat} {result : Except Error n.Result},
      ¬ r.Runs task i (Load.letting key result) k (.act a next) := by
    intro i result h
    rcases h.of_act with ⟨-, hq⟩ | ⟨c, _, -, -, -, -, hdone⟩
    · cases hq
      cases hwaits
    · cases hdone.of_done.2
  unfold Navigation.afterCommand Navigation.verdict at hafter
  cases ack with
  | error e => exact absurd hafter hletting
  | ok x =>
    cases hfailure : n.failure x with
    | some text =>
      simp only [Except.bind, hfailure] at hafter
      exact absurd hafter hletting
    | none =>
      simp only [Except.bind, hfailure] at hafter
      rcases hafter.of_act with ⟨hquiet, hq⟩ | ⟨z, loaded, -, -, -, -, hrest⟩
      · cases hq
        have hmk : m < k := Nat.lt_of_lt_of_le hcommand.le hafter.le
        have hkeeps : ¬ r.LetsGo m k task key := hcommand.keeps_waiting hafter.le hquiet hrunning
        have houtcome : (r.world k).barrierOutcome key = none := Option.map_eq_none_iff.mp hwaits
        rcases loaded_of_awaitMatch hr harm (page_mono hr him hpage) hmk hkeeps with
          ⟨-, heq⟩ | ⟨hload, heq⟩
        · cases houtcome.symm.trans heq
        · exact ⟨n, m, y, key, x, him, hafter.le, harm, hcommand, hfailure, hquiet, rfl, hload,
            Option.map_eq_none_iff.mp (heq.symm.trans houtcome)⟩
      · exact absurd hrest hletting

/-- Once the reader has given up, an operation waits for nothing but a load. -/
theorem Runs.awaitsLoad (hr : r.Admissible) (hended : (r.world k).inbound.reading = .ended)
    {n : Nat} {op : Op α} (hop : page.Composed ctx n op) {a : Act}
    {next : a.Reply → Program (Except Error α)} (h : r.Runs task i op.run k (.act a next))
    (hpage : ((r.world i).board.listeners page.key).isSome) (hrunning : r.Running k task)
    (hwaits : (r.world k).perform task a = none) : r.AwaitsLoad task i k page ctx a := by
  induction hop generalizing i with
  | known result => cases h.of_done.2
  | command command =>
    have hproceeds := h.command_proceeds hr hended
    rw [hwaits] at hproceeds
    cases hproceeds
  | setFrame frame =>
    rcases h.of_act with ⟨-, hq⟩ | ⟨_, _, -, -, -, -, hrest⟩
    · cases hq
      cases hwaits
    · cases hrest.of_done.2
  | navigation n => exact h.awaitsLoad_of_navigation hr hended hpage hrunning hwaits
  | andThen hx hf ihx ihf =>
    rcases h.of_op_bind_act with ⟨next', hunderway⟩ | ⟨l, y, hdone, hrest⟩
    · exact ihx hunderway hpage
    · exact (ihf y hrest (page_mono hr hdone.le hpage)).of_later hdone.le

/-! ### What an operation ends with -/

variable (r) in
/-- What a task has learned of the connection was so before it was closed: it has not found it
closed, and the answers that it waited for came before. -/
structure Informed (task : TaskId) (i j : Nat) : Prop where
  answered : ∀ m ctx id reply, i ≤ m → m < j → r.Does m task (.awaitReply ctx id) reply →
    ∃ d < m, r.Answers d id reply ∧ ∀ c, r.Closes c → d < c
  unclosed : ∀ m, i ≤ m → m < j → ¬ r.Does m task .isClosed true

variable (r) in
/-- How an operation ends, if the connection is closed at any time. -/
inductive ClosedEnd (task : TaskId) (i j : Nat) (ctx : Context) : Except Error α → Prop
  /-- It has found the connection closed, or no response came to a request that it wrote. -/
  | closed {m : Nat} (hm : i ≤ m ∧ m < j) (h : r.Does m task .isClosed true ∨
      ∃ request, r.Does m task (.write request) (.ok ()) ∧
        ∀ d reply, ¬ r.Answers d request.id reply) :
      ClosedEnd task i j ctx (.error .connectionClosed)
  /-- Its context has ended. -/
  | context {m : Nat} {e : Error} (hm : i ≤ m ∧ m < j)
      (h : (r.world m).endOf ctx = some e ∨ (r.world m).toldEndOf ctx = some e) :
      ClosedEnd task i j ctx (.error e)
  /-- A request could not be written. -/
  | unwritten {m : Nat} {request : Request} {e : Error} (hm : i ≤ m ∧ m < j)
      (h : r.Does m task (.write request) (.error e)) : ClosedEnd task i j ctx (.error e)
  /-- Its result was decided by answers that came before. -/
  | decided {result : Except Error α} (h : r.Informed task i j) : ClosedEnd task i j ctx result

theorem Informed.append (h : r.Informed task i j) (h' : r.Informed task j k) :
    r.Informed task i k where
  answered m ctx id reply him hmk hm := by
    rcases Nat.lt_or_ge m j with hmj | hjm
    · exact h.answered m ctx id reply him hmj hm
    · exact h'.answered m ctx id reply hjm hmk hm
  unclosed m him hmk := by
    rcases Nat.lt_or_ge m j with hmj | hjm
    · exact h.unclosed m him hmj
    · exact h'.unclosed m hjm hmk

/-- Who does nothing to the connection learns nothing of it. -/
theorem Informed.of_acts (h : ∀ d ∈ r.deeds task i j, d.act.ofSend = false) :
    r.Informed task i j where
  answered m ctx id reply him hmj hm := by
    have hact := h ⟨.awaitReply ctx id, reply⟩ (mem_deeds.mpr ⟨m, him, hmj, hm⟩)
    cases hact
  unclosed m him hmj hm := by
    have hact := h ⟨.isClosed, true⟩ (mem_deeds.mpr ⟨m, him, hmj, hm⟩)
    cases hact

theorem Informed.of_quiet (h : r.deeds task i j = []) : r.Informed task i j :=
  .of_acts fun _ hd => absurd (h ▸ hd) List.not_mem_nil

/-- The error of a part is the error of the whole, whatever is done around the part. -/
theorem ClosedEnd.of_error {e : Error} (h : r.ClosedEnd task j k ctx (.error e : Except Error α))
    (hij : i ≤ j) (hkl : k ≤ l) (hbefore : r.Informed task i j) (hafter : r.Informed task k l) :
    r.ClosedEnd task i l ctx (.error e : Except Error β) := by
  have hwithin : ∀ {m}, j ≤ m ∧ m < k → i ≤ m ∧ m < l :=
    fun hm => ⟨Nat.le_trans hij hm.1, Nat.lt_of_lt_of_le hm.2 hkl⟩
  cases h with
  | closed hm h => exact .closed (hwithin hm) h
  | context hm h => exact .context (hwithin hm) h
  | unwritten hm h => exact .unwritten (hwithin hm) h
  | decided h => exact .decided ((hbefore.append h).append hafter)

/-- A part that did not fail has learned nothing of a close. -/
theorem ClosedEnd.informed {x : α} (h : r.ClosedEnd task i j ctx (.ok x)) :
    r.Informed task i j := by
  cases h with
  | decided h => exact h

/-- Before a part nothing of a close was learned. -/
theorem ClosedEnd.prepend {result : Except Error α} (h : r.ClosedEnd task j k ctx result)
    (hij : i ≤ j) (hbefore : r.Informed task i j) : r.ClosedEnd task i k ctx result := by
  cases result with
  | ok x => exact .decided (hbefore.append h.informed)
  | error e => exact h.of_error hij (Nat.le_refl k) hbefore (.of_quiet deeds_self)

/-- The end of a send. -/
theorem Runs.send_closedEnd (hr : r.Admissible) {session : Option SessionId} {method : String}
    {params : Json} {reply : Reply}
    (h : r.Runs task i (send (some ctx) session method params).run j (.done reply)) :
    r.ClosedEnd task i j ctx reply := by
  have hending := Send.ending_of_leads h.leads
  generalize hpath : r.deeds task i j = path at hending
  have hdoes : ∀ (a : Act) (reply : a.Reply), ⟨a, reply⟩ ∈ path →
      ∃ k, i ≤ k ∧ k < j ∧ r.Does k task a reply := fun a reply hmem => does_of_mem (hpath ▸ hmem)
  have hmem : ∀ {m : Nat} {a : Act} {reply : a.Reply}, i ≤ m → m < j → r.Does m task a reply →
      (⟨a, reply⟩ : Deed) ∈ path := fun him hmj hm => hpath ▸ mem_deeds.mpr ⟨_, him, hmj, hm⟩
  cases hending with
  | ended c e hctx =>
    cases hctx
    obtain ⟨m, him, hmj, hm⟩ := hdoes _ _ (List.mem_singleton.mpr rfl)
    exact .context ⟨him, hmj⟩ (.inl hm.endOf_eq)
  | refused | turnedBack =>
    obtain ⟨m, him, hmj, hm⟩ := hdoes .isClosed true (by simp)
    exact .closed ⟨him, hmj⟩ (.inl hm)
  | failed id e =>
    obtain ⟨m, him, hmj, hm⟩ := hdoes (.write (Send.request session method params id)) (.error e)
      (by simp [Send.written])
    exact .unwritten ⟨him, hmj⟩ hm
  | answered id =>
    obtain ⟨m, him, hmj, hm⟩ := hdoes (.awaitReply (some ctx) id) reply (by simp)
    obtain ⟨p, -, -, ⟨c, e, hctx, hend, rfl⟩ | ⟨d, hdm, hanswers⟩ |
      ⟨⟨c, -, hcm, hclears⟩, hunanswered, rfl⟩⟩ := reply_of_wait hr hm
    · cases hctx
      exact .context ⟨him, hmj⟩ (.inr hend)
    · -- It has waited for this answer only, and has found the connection open twice.
      refine .decided ⟨?_, ?_⟩
      · intro m' ctx' id' reply' him' hmj' hm'
        have hwait := hmem him' hmj' hm'
        simp [Send.looked, Send.written, Send.parked] at hwait
        obtain ⟨⟨rfl, rfl⟩, hreply⟩ := hwait
        cases hreply
        obtain rfl := wait_unique hr hm hm'
        exact ⟨d, hdm, hanswers, fun c hc => hanswers.before_closes hr hc⟩
      · intro m' him' hmj' hm'
        have hlook := hmem him' hmj' hm'
        simp [Send.looked, Send.written, Send.parked] at hlook
    · obtain ⟨w, hiw, hwj, hw⟩ := hdoes (.write (Send.request session method params id)) (.ok ())
        (by simp [Send.written])
      exact .closed ⟨hiw, hwj⟩ (.inr ⟨_, hw, not_answers_of_clears hr (by omega) hclears hunanswered⟩)

/-- The end of a command. -/
theorem Runs.command_closedEnd (hr : r.Admissible) {session : Option SessionId}
    {command : Command α} {result : Except Error α}
    (h : r.Runs task i (execute ctx session command).run j (.done result)) :
    r.ClosedEnd task i j ctx result := by
  rw [execute_run] at h
  rcases h.of_bind with ⟨_, _, -, hq⟩ | ⟨y, reply, hsend, hread⟩
  · cases hq
  obtain ⟨hquiet, hresult⟩ := hread.of_done
  cases hresult
  have hend := hsend.send_closedEnd hr
  cases reply with
  | ok answer => exact .decided (hend.informed.append (.of_quiet hquiet))
  | error e =>
    exact hend.of_error (Nat.le_refl i) hread.le (.of_quiet deeds_self) (.of_quiet hquiet)

/-- The end of a navigation. -/
theorem Runs.navigation_closedEnd (hr : r.Admissible) {n : Navigation}
    {result : Except Error n.Result} (h : r.Runs task i (n.op page ctx).run j (.done result))
    (hpage : ((r.world i).board.listeners page.key).isSome) : r.ClosedEnd task i j ctx result := by
  rcases h.navigation with ⟨-, hq⟩ | ⟨m, key, him, hmj, hlog, harm, hrest⟩
  · exact absurd rfl (hq result)
  rcases hrest.of_bind with ⟨_, _, -, hq⟩ | ⟨y, ack, hcommand, hafter⟩
  · cases hq
  have hmy : m + 1 ≤ y := hcommand.le
  have hbefore : r.Informed task i (m + 1) := by
    refine .of_acts fun d hd => ?_
    rw [deeds_succ_of_does (d := ⟨_, key⟩) him harm] at hd
    rcases List.mem_append.mp hd with hd | hd
    · rw [hlog d hd]
      rfl
    · rw [List.mem_singleton.mp hd]
      rfl
  have hlater : r.Informed task y j := by
    refine .of_acts fun d hd => ?_
    rcases (Navigation.acts_of_afterCommand hafter.leads).2 d hd with hact | hact <;>
      · rw [hact]
        rfl
  have hend := hcommand.command_closedEnd hr
  cases hcommand.ends hr harm (page_mono hr him hpage) hafter with
  | failed e => exact hend.of_error (Nat.le_succ_of_le him) hafter.le hbefore hlater
  | refused _ => exact .decided ((hbefore.append hend.informed).append hlater)
  | loaded => exact .decided ((hbefore.append hend.informed).append hlater)
  | ended _ hyz hzj _ htold _ => exact .context ⟨by omega, hzj⟩ (.inr htold)

/-- The end of an operation. -/
theorem Runs.closedEnd (hr : r.Admissible) {n : Nat} {op : Op α} (hop : page.Composed ctx n op)
    {result : Except Error α} (h : r.Runs task i op.run j (.done result))
    (hpage : ((r.world i).board.listeners page.key).isSome) : r.ClosedEnd task i j ctx result := by
  induction hop generalizing i j with
  | known result => exact .decided (.of_quiet h.of_done.1)
  | command command => exact h.command_closedEnd hr
  | setFrame frame =>
    obtain ⟨s, reply, his, hsj, hdoes, hquiet, hnothing, -⟩ := h.of_perform_done
    refine .decided (.of_acts fun d hd => ?_)
    rw [deeds_at (d := ⟨_, reply⟩) his hsj hdoes, hquiet, hnothing] at hd
    rw [List.mem_singleton.mp hd]
    rfl
  | navigation n => exact h.navigation_closedEnd hr hpage
  | andThen hx hf ihx ihf =>
    rcases h.of_op_bind_done with ⟨e, rfl, hfailed⟩ | ⟨k, a, hdone, hrest⟩
    · exact (ihx hfailed hpage).of_error (Nat.le_refl i) (Nat.le_refl j) (.of_quiet deeds_self)
        (.of_quiet deeds_self)
    · exact (ihf a hrest (page_mono hr hdone.le hpage)).prepend hdone.le (ihx hdone hpage).informed

/-! ### All together -/

variable (r) in
/-- Once the reader has given up, no operation on a page waits. -/
def CloseEndsOperations : Prop :=
  ∀ (α : Type) (op : Op α) (page : Page) (ctx : Context) (task : TaskId) (i k : Nat) (a : Act)
    (next : a.Reply → Program (Except Error α)), page.Offers ctx op →
      page.key < (r.world i).pages.length → (r.world k).inbound.reading = .ended →
        r.Running k task → r.Runs task i op.run k (.act a next) →
          ((r.world k).perform task a).isSome

variable (r) in
/-- What holds of an operation on a page, begun at `i`, when the reader has given up by `k` and
`q` is left of the operation then. -/
structure AfterClose (page : Page) (ctx : Context) (task : TaskId) (i k : Nat)
    (q : Program (Except Error α)) : Prop where
  /-- It waits for a load, or it does not wait. -/
  proceeds : ∀ a next, q = .act a next → r.Running k task →
    ((r.world k).perform task a = none ↔ r.AwaitsLoad task i k page ctx a)
  /-- There are 22 acts at most to be done. -/
  short : (r.deeds task i k).length ≤ 22
  /-- When it has ended, it has because the connection is closed, if its result was not decided
  before, and neither its context nor its writing failed. -/
  ends : ∀ result, q = .done result → r.ClosedEnd task i k ctx result
  /-- A load comes only from outside then. -/
  silent : ∀ d page' event, k ≤ d → r.Delivers d page' event →
    r.transitions[d]? = some (.deliver page' event)

/-- Once the reader has given up it takes nothing in. -/
theorem deliver_of_ended (hr : r.Admissible) (hended : (r.world k).inbound.reading = .ended)
    {d : Nat} (hkd : k ≤ d) {page : PageKey} {event : Event} (h : r.Delivers d page event) :
    r.transitions[d]? = some (.deliver page event) := by
  obtain ⟨c, hck, hclears⟩ := (ended_iff hr).mp hended
  have hlater := (ended_iff hr).mpr ⟨c, Nat.lt_of_lt_of_le hck hkd, hclears⟩
  obtain ⟨t, ht, hdelivered⟩ := h
  cases t with
  | deliver page' event' =>
    cases hdelivered
    exact ht
  | read =>
    have hnone : (r.world d).incoming? .read = none := by
      simp only [World.incoming?, hlater]
    simp [World.delivered?, hnone] at hdelivered
  | _ => cases hdelivered

/-- In every run, once the reader has given up an operation on a page goes on to its end,
unless it waits for a load. -/
theorem operation_after_close (hr : r.Admissible) {op : Op α} (hop : page.Offers ctx op)
    {q : Program (Except Error α)} (h : r.Runs task i op.run k q)
    (hpage : page.key < (r.world i).pages.length)
    (hended : (r.world k).inbound.reading = .ended) : r.AfterClose page ctx task i k q := by
  obtain ⟨n, hn, hcomposed⟩ := hop.composed
  have hpage : ((r.world i).board.listeners page.key).isSome := by
    simp [World.board, List.getElem?_eq_getElem hpage]
  refine ⟨?_, ?_, ?_, ?_⟩
  · rintro a next rfl hrunning
    exact ⟨h.awaitsLoad hr hended hcomposed hpage hrunning, fun hload =>
      hload.waits hr hpage hrunning⟩
  · exact Nat.le_trans (hcomposed.length_of_leads h.leads) hn
  · rintro result rfl
    exact h.closedEnd hr hcomposed hpage
  · intro d page' event hkd hd
    exact deliver_of_ended hr hended hkd hd

/-- A reload that is acknowledged before the browser goes away. -/
def goneBeforeLoad : Run where
  start := .initial [] .none
  transitions :=
    [.newScope none, .openPage none (some ⟨"F"⟩), .startReading,
      .spawn (((Navigation.reload { }).op ⟨0, none⟩ ⟨0, none⟩).task fun _ => .nothing),
      .step 0, .step 0, .step 0, .step 0, .step 0, .step 0, .step 0, .step 0,
      .inject (.object [("id", .int 0), ("result", .null)]), .receive, .read, .step 0,
      .disconnect, .receive, .read, .read]

theorem goneBeforeLoad_admissible : goneBeforeLoad.Admissible := by
  refine admissible_of_admits ⟨trivial, trivial, trivial, ?_, trivial, trivial, trivial, trivial,
    trivial, trivial, trivial, trivial, trivial, trivial, trivial, trivial, trivial, trivial,
    trivial, trivial, trivial⟩
  exact (Page.reload_orderly _ _ ⟨by decide, by decide⟩).bind fun _ => .done _

-- The log and the arming, and the seven acts of the command.
theorem goneBeforeLoad_runs : ∃ next, goneBeforeLoad.Runs 0 4
    ((Navigation.reload { }).op ⟨0, none⟩ ⟨0, none⟩).run 20 (.act (.awaitMatch 0) next) :=
  ⟨_, ⟨_, rfl⟩, by decide,
    .cons (.cons (.cons (.cons (.cons (.cons (.cons (.cons (.cons (.nil _)))))))))⟩

theorem operation_after_close_goneBeforeLoad : goneBeforeLoad.Admissible ∧
    (goneBeforeLoad.world 20).inbound.reading = .ended ∧
      ∃ next : Except Error Unit → Program (Except Error Unit),
        goneBeforeLoad.AfterClose ⟨0, none⟩ ⟨0, none⟩ 0 4 20 (.act (.awaitMatch 0) next) := by
  obtain ⟨next, hruns⟩ := goneBeforeLoad_runs
  exact ⟨goneBeforeLoad_admissible, rfl, next,
    operation_after_close goneBeforeLoad_admissible (.reload { }) hruns (by decide) rfl⟩

/-- The reload waits on, though the connection is closed. -/
theorem goneBeforeLoad_waits :
    goneBeforeLoad.Admissible ∧ ¬ goneBeforeLoad.CloseEndsOperations := by
  obtain ⟨next, hruns⟩ := goneBeforeLoad_runs
  refine ⟨goneBeforeLoad_admissible, fun h => ?_⟩
  have hproceeds := h _ _ _ _ _ _ _ _ next (.reload { }) (by decide) rfl ⟨_, rfl⟩ hruns
  exact absurd hproceeds (by decide)

end Run

end PagePilot
