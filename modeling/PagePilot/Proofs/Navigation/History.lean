import PagePilot.Proofs.Connection.Issuing
import PagePilot.Proofs.History
import PagePilot.Proofs.Navigation
/-!
# PagePilot.Proofs.Navigation.History

Going back and forward, in any run. A move asks for the history first, and what comes of it is
decided by the answer. Where the history has an entry to go to, the move goes on as the
navigation to that entry, so all that holds of navigations holds of it from there on; where it
has none, the move is over, and the question is all that was done.

`Run.MoveOutcome` is what holds of a move at every moment, and `Run.move_outcome` proves it of
all runs, with the laws of the moves themselves.
-/

namespace PagePilot

open Wire

/-- The operation that a move is. -/
def History.Move.op (page : Page) (ctx : Context) : History.Move → Op Unit
  | .back => page.back ctx
  | .forward => page.forward ctx

theorem History.Move.op_eq (move : History.Move) (page : Page) (ctx : Context) :
    move.op page ctx = Page.move move.entry page ctx := by
  cases move <;> rfl

namespace Run

variable {r : Run} {n : Navigation} {move : History.Move} {page : Page} {ctx : Context}
  {task : TaskId} {i j k : Nat} {q : Program (Except Error Unit)}

/-! ### The parts of a move -/

/-- A navigation comes to writing its command. -/
theorem Runs.issues {q : Program (Except Error n.Result)}
    (h : r.Runs task i (n.op page ctx).run j q) :
    r.Issues ctx page.session n.command 7 task i j q := by
  rw [n.op_run] at h
  rcases h.of_act with ⟨hquiet, rfl⟩ | ⟨o, _, hio, hoj, hquiet, hlog, h⟩
  · exact .next (by simp [hquiet]) rfl
  have hlogged : r.deeds task i (o + 1) = [⟨.log n.record, ()⟩] := by
    rw [deeds_at (d := ⟨_, _⟩) hio (Nat.lt_succ_self o) hlog, hquiet, deeds_self]
    rfl
  rcases h.of_act with ⟨hquiet, rfl⟩ | ⟨m, key, hom, hmj, hquiet, harm, h⟩
  · refine .next ?_ rfl
    rw [deeds_append (Nat.le_succ_of_le hio) hoj, hlogged, hquiet]
    exact (by decide : 1 ≤ 7)
  have him : i ≤ m + 1 := by omega
  have hbefore : (r.deeds task i (m + 1)).length = 2 := by
    rw [deeds_append (k := m + 1) (Nat.le_succ_of_le hio) (by omega), hlogged,
      deeds_at (d := ⟨_, _⟩) hom (Nat.lt_succ_self m) harm, hquiet, deeds_self]
    rfl
  have hissues := h.issues_first.earlier him hmj
  rwa [hbefore] at hissues

/-- What a move does with the answer that it gets. -/
def afterAnswer (move : History.Move) (page : Page) (ctx : Context)
    (answer : Except Error NavigationHistory) : Program (Except Error Unit) :=
  match answer.bind move.entry with
  | .error e => .done (.error e)
  | .ok entry => ((Navigation.entry entry.id).op page ctx).run

theorem move_run (move : History.Move) (page : Page) (ctx : Context) :
    (move.op page ctx).run =
      (page.entries ctx).run.bind (afterAnswer move page ctx) := by
  rw [move.op_eq]
  refine (Program.run_bind _ _).trans (congrArg (Program.bind _) (funext ?_))
  intro answer
  cases answer with
  | error e => rfl
  | ok history =>
    show (Op.ofExcept (move.entry history) >>= fun entry =>
      page.navigateToEntry ctx entry.id).run = _
    unfold afterAnswer
    rw [show (Except.ok history).bind move.entry = move.entry history from rfl]
    cases move.entry history <;> rfl

/-- The first reply that a move gets is that to its question. -/
theorem Runs.reads (hr : r.Admissible) (h : r.Runs task i (move.op page ctx).run j q)
    {u id : Nat} {reply : Reply} (hiu : i ≤ u) (huj : u < j)
    (hu : r.FirstReply ctx task i u id reply) :
    r.Runs task i (page.entries ctx).run (u + 1)
      (.done (reply.bind Command.getNavigationHistory.acknowledge)) := by
  rw [move_run] at h
  have hstops : ∀ e, ∃ y, afterAnswer move page ctx (.error e) = .done y := fun e => ⟨_, rfl⟩
  exact h.first_reply hr hstops hiu huj hu

/-- Until it has its answer a move writes the question, once, and arms nothing. -/
theorem Runs.asking (hr : r.Admissible) {p : Program (Except Error NavigationHistory)}
    (h : r.Runs task i (page.entries ctx).run k p) :
    (∀ w request result, i ≤ w → w < k → r.Does w task (.write request) result →
      (∃ id, request = Send.request page.session "Page.getNavigationHistory" .empty id) ∧
        ∀ w' request' result', w < w' → w' < k → ¬ r.Does w' task (.write request') result') ∧
      ∀ m p c milestone key, i ≤ m → m < k → ¬ r.Does m task (.arm p c milestone) key := by
  refine ⟨fun w request result hiw hwk hw => ?_, fun m p c milestone key him hmk harm => ?_⟩
  · obtain ⟨⟨id, hrequest, -⟩, honce⟩ := h.call_writes hr hiw hwk hw
    refine ⟨⟨id, hrequest⟩, fun w' request' result' hww' hw'k hw' => ?_⟩
    have hsame := honce w' request' result' (by omega) hw'k hw'
    omega
  · obtain ⟨q', hq'⟩ := send_of_execute h.leads
    have hmem : ⟨.arm p c milestone, key⟩ ∈ r.deeds task i k := mem_deeds.mpr ⟨m, him, hmk, harm⟩
    cases Send.ofSend_of_leads hq' hmem

/-! ### All together -/

variable (r move page ctx task) in
/-- What holds of a move between the position `i` where it begins and a position `j` where `q` is
left of it. -/
structure MoveOutcome (i j : Nat) (q : Program (Except Error Unit)) : Prop where
  /-- It is asking for the history, or it has its answer. -/
  asks : (∃ a rest, r.Runs task i (page.entries ctx).run j (.act a rest)) ∨
    ∃ k x, k ≤ j ∧ r.Runs task i (page.entries ctx).run k (.done x)
  /-- Until then it writes the question, once, and arms nothing. -/
  asking : ∀ k p, r.Runs task i (page.entries ctx).run k p →
    (∀ w request result, i ≤ w → w < k → r.Does w task (.write request) result →
      (∃ id, request = Send.request page.session "Page.getNavigationHistory" .empty id) ∧
        ∀ w' request' result', w < w' → w' < k → ¬ r.Does w' task (.write request') result') ∧
      ∀ m p c milestone key, i ≤ m → m < k → ¬ r.Does m task (.arm p c milestone) key
  /-- The answer is the first reply that it gets, whatever that is. -/
  reads : ∀ u id reply, i ≤ u → u < j → r.FirstReply ctx task i u id reply →
    r.Runs task i (page.entries ctx).run (u + 1)
      (.done (reply.bind Command.getNavigationHistory.acknowledge))
  /-- When the answer is no history, or one with no entry to go to, the move has failed with that,
  and has done nothing but ask. -/
  fails : ∀ k x e, k ≤ j → r.Runs task i (page.entries ctx).run k (.done x) →
    x.bind move.entry = .error e →
      q = .done (.error e) ∧ r.Runs task i (page.entries ctx).run j (.done x)
  /-- When there is an entry to go to, the move navigates to that one. The request is written
  then, unless the context has ended or the connection is closed by that time, and no other
  request is. -/
  issues : ∀ k history entry, k ≤ j →
    r.Runs task i (page.entries ctx).run k (.done (.ok history)) →
      move.entry history = .ok entry →
        r.Issues ctx page.session (Command.navigateToHistoryEntry entry.id) 7 task k j q ∧
          ∀ w request result, k ≤ w → w < j → r.Does w task (.write request) result →
            (∃ id, request = Send.request page.session "Page.navigateToHistoryEntry"
              (.object [("entryId", .int entry.id)]) id) ∧
              ∀ w' request' result', w < w' → w' < j →
                ¬ r.Does w' task (.write request') result'

/-- A move back from the second of two entries, which is loaded before its navigation is
acknowledged. -/
def backToFirst : Run where
  start := .initial [] .none
  transitions :=
    [.newScope none, .openPage none (some ⟨"F"⟩), .startReading,
      .spawn ((History.Move.back.op ⟨0, none⟩ ⟨0, none⟩).task fun _ => .nothing),
      .step 0, .step 0, .step 0, .step 0, .step 0, .step 0,
      .inject (.object [("id", .int 0), ("result", .object [("currentIndex", .int 1),
        ("entries", .array [.object [("id", .int 10), ("url", .string "")],
          .object [("id", .int 11), ("url", .string "")]])])]), .receive, .read, .step 0,
      .step 0, .step 0, .step 0, .step 0, .step 0, .step 0, .step 0, .step 0,
      .deliver 0 (.lifecycle
        { frameId := ⟨"F"⟩, loaderId := ⟨""⟩, name := "load", timestamp := .zero false }),
      .inject (.object [("id", .int 1), ("result", .null)]), .receive, .read, .step 0, .step 0,
      .step 0]

theorem backToFirst_admissible : backToFirst.Admissible := by
  refine admissible_of_admits ⟨trivial, trivial, trivial, ?_, trivial, trivial, trivial, trivial,
    trivial, trivial, trivial, trivial, trivial, trivial, trivial, trivial, trivial, trivial,
    trivial, trivial, trivial, trivial, trivial, trivial, trivial, trivial, trivial, trivial,
    trivial, trivial⟩
  exact (Page.move_orderly _ _ ⟨by decide, by decide⟩).bind fun _ => .done _

-- The seven acts of the question, and the eleven of the navigation.
theorem backToFirst_runs : backToFirst.Runs 0 4 (History.Move.back.op ⟨0, none⟩ ⟨0, none⟩).run 29
    (.done (.ok ())) where
  begins := ⟨_, rfl⟩
  le := by decide
  leads := .cons (.cons (.cons (.cons (.cons (.cons (.cons (.cons (.cons (.cons (.cons (.cons
    (.cons (.cons (.cons (.cons (.cons (.cons (.nil _))))))))))))))))))

end Run

end PagePilot
