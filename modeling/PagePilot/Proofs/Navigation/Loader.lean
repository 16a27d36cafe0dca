import PagePilot.Proofs.Attachment
import PagePilot.Proofs.Navigation
/-!
# PagePilot.Proofs.Navigation.Loader

Whose load a navigation waits for. The browser names a loader for every load of a document, in
the acknowledgment of a navigation and in the milestones that it reports. A navigation waits
for its frame and not for its loader: the barrier is armed before the command is given, when
the loader is not known yet, so a document that was still loading may end the wait.

* `Run.LoadsBy` is the load of the frame by one loader;
* `Run.OwnLoads` would be that the loader is the acknowledged one;
* `Run.LoadAwaited` is what a navigation waits for, and `Run.load_awaited` proves it of all
  runs.
-/

namespace PagePilot

open Wire

namespace Run

variable {r : Run} {task : TaskId} {i j m y : Nat} {page : Page} {ctx : Context} {url : String}
  {key : BarrierKey} {ack result : Except Error NavigateReply}

variable (r) in
/-- A load of the frame that was current on a page at `m` is reported to the page at `d`. -/
def ReportsLoad (m d : Nat) (page : PageKey) (e : LifecycleEvent) : Prop :=
  r.Delivers d page (.lifecycle e) ∧ e.name = Page.loadMilestone ∧
    e.frameId = (r.world m).frameOf page

variable (r) in
/-- A load by the given loader is reported to a page after `m` and before `k`, while a context
is not cancelled. The frame is the one that was current on the page at `m`. -/
def LoadsBy (loader : LoaderId) (m k : Nat) (page : PageKey) (ctx : Context) : Prop :=
  ∃ d e, m < d ∧ d < k ∧ (r.world d).scopes.isCancelled ctx.scope = false ∧
    r.ReportsLoad m d page e ∧ e.loaderId = loader

variable (r) in
/-- A navigation that succeeds was reported the load by the loader that was acknowledged. -/
def OwnLoads : Prop :=
  ∀ task i j page ctx url reply loader,
    r.Runs task i (Page.navigate page ctx url).run j (.done (.ok reply)) →
      page.key < (r.world i).pages.length → reply.loaderId = some loader →
        ∃ m key d e, i ≤ m ∧ m < j ∧
          r.Does m task (.arm page.key ctx Page.loadMilestone) key ∧ d < j ∧
            r.ReportsLoad m d page.key e ∧ e.loaderId = loader

/-- Every load is by some loader. -/
theorem loads_iff_exists_loadsBy {k : Nat} {page : PageKey} :
    r.Loads m k page ctx ↔ ∃ loader, r.LoadsBy loader m k page ctx := by
  constructor
  · rintro ⟨d, hmd, hdk, hlive, e, hd, hname, hframe⟩
    exact ⟨e.loaderId, d, e, hmd, hdk, hlive, ⟨hd, hname, hframe⟩, rfl⟩
  · rintro ⟨_, d, e, hmd, hdk, hlive, ⟨hd, hname, hframe⟩, -⟩
    exact ⟨d, hmd, hdk, hlive, e, hd, hname, hframe⟩

/-! ### All together -/

variable (r) in
/-- What a navigation waits for that ends at `j` with `result`, when it has armed its barrier at
`m`, and `ack` is what came of its command by `y`. -/
structure LoadAwaited (task : TaskId) (i j : Nat) (page : Page) (ctx : Context) (url : String)
    (result : Except Error NavigateReply) (m : Nat) (key : BarrierKey) (y : Nat)
    (ack : Except Error NavigateReply) : Prop where
  /-- The frame is that of the time when the barrier is armed, before the command is given. -/
  arms : i ≤ m ∧ m < j ∧ r.Does m task (.arm page.key ctx Page.loadMilestone) key
  commands : r.Runs task (m + 1) (page.call ctx (.navigate { url })).run y (.done ack)
  /-- When the load has started, the navigation waits, and it succeeds exactly when a load of the
  frame was reported by then. It may be a load by any loader, whatever the acknowledgment says. -/
  decided : ∀ reply, ack = .ok reply → Page.started reply = .ok reply →
    ∃ z loaded, y ≤ z ∧ z < j ∧ r.Does z task (.awaitMatch key) loaded ∧
      (result = .ok reply ↔ ∃ loader, r.LoadsBy loader m z page.key ctx)
  /-- A navigation that succeeds gives its acknowledgment, and a load of the frame by some loader
  was reported after the barrier was armed and before the end. -/
  reported : ∀ reply, result = .ok reply →
    ack = .ok reply ∧ ∃ loader, r.LoadsBy loader m j page.key ctx
  /-- So it was reported the load by the acknowledged loader if no other load of the frame was
  reported in that time. -/
  own : ∀ reply loader, result = .ok reply → reply.loaderId = some loader →
    (∀ d e, m < d → d < j → r.ReportsLoad m d page.key e → e.loaderId = loader) →
      r.LoadsBy loader m j page.key ctx

/-- In every run a navigation waits for a load of its frame, by whichever loader. -/
theorem load_awaited (hr : r.Admissible)
    (h : r.Runs task i (Page.navigate page ctx url).run j (.done result))
    (hpage : page.key < (r.world i).pages.length) :
    ∃ m key y ack, r.LoadAwaited task i j page ctx url result m key y ack := by
  have hpage : ((r.world i).board.listeners page.key).isSome := World.isSome_listeners.mpr hpage
  obtain ⟨m, key, y, ack, him, hmj, -, harm, hcommand, hends⟩ :=
    Runs.navigation_ends (n := .navigate url) hr h hpage
  have hreported : ∀ reply, result = .ok reply →
      ack = .ok reply ∧ ∃ loader, r.LoadsBy loader m j page.key ctx := by
    rintro reply rfl
    cases hends with
    | loaded hfailure _ hzj _ hload =>
      obtain ⟨loader, d, e, hmd, hdz, hrest⟩ := loads_iff_exists_loadsBy.mp hload
      exact ⟨rfl, loader, d, e, hmd, Nat.lt_trans hdz hzj, hrest⟩
  refine ⟨m, key, y, ack, ⟨him, hmj, harm⟩, hcommand, ?_, hreported, ?_⟩
  · intro reply hack hstarted
    cases hends with
    | failed => cases hack
    | refused htext =>
      cases hack
      simp [Navigation.started_eq_verdict url reply, Navigation.verdict, htext] at hstarted
    | loaded _ hyz hzj hwait hload =>
      cases hack
      exact ⟨_, _, hyz, hzj, hwait, iff_of_true rfl (loads_iff_exists_loadsBy.mp hload)⟩
    | ended _ hyz hzj hwait _ hload =>
      refine ⟨_, _, hyz, hzj, hwait, fun h => ?_, fun hloads => ?_⟩
      · cases h
      · exact absurd (loads_iff_exists_loadsBy.mpr hloads) hload
  · rintro reply loader hresult - hothers
    obtain ⟨-, loader', d, e, hmd, hdj, hlive, hreports, -⟩ := hreported reply hresult
    exact ⟨d, e, hmd, hdj, hlive, hreports, hothers d e hmd hdj hreports⟩

/-- A navigation while another document is still loading in the same frame. The load of that one
is reported after the barrier is armed, and the navigation succeeds with it. -/
def overlap : Run where
  start := .initial [] .none
  transitions :=
    [.newScope none, .openPage (some ⟨"S"⟩) (some ⟨"F"⟩), .route (some ⟨"S"⟩) 0, .startReading,
      .spawn ((Page.navigate ⟨0, some ⟨"S"⟩⟩ ⟨0, none⟩ "http://b/").task .navigation),
      .step 0, .step 0, .step 0, .step 0, .step 0, .step 0, .step 0, .step 0,
      .inject (.object [("method", .string "Page.lifecycleEvent"),
        ("params", .object [("frameId", .string "F"), ("loaderId", .string "OLD"),
          ("name", .string "load")]), ("sessionId", .string "S")]),
      .receive, .read,
      answerTo 0 (.object [("frameId", .string "F"), ("loaderId", .string "L")]),
      .receive, .read, .step 0, .step 0, .step 0]

theorem overlap_admissible : overlap.Admissible := by
  refine admissible_of_admits ⟨trivial, trivial, trivial, trivial, ?_, trivial, trivial, trivial,
    trivial, trivial, trivial, trivial, trivial, trivial, trivial, trivial, trivial, trivial,
    trivial, trivial, trivial, trivial, trivial⟩
  exact (Page.navigate_orderly _ _ ⟨by decide, by decide⟩).bind fun _ => .done _

-- The log and the arming, the seven acts of the command, the wait and the disarming.
theorem overlap_runs : overlap.Runs 0 5 (Page.navigate ⟨0, some ⟨"S"⟩⟩ ⟨0, none⟩ "http://b/").run 22
    (.done (.ok ⟨⟨"F"⟩, some ⟨"L"⟩, none⟩)) where
  begins := ⟨_, rfl⟩
  le := by decide
  leads := .cons (.cons (.cons (.cons (.cons (.cons (.cons (.cons (.cons (.cons (.cons
    (.nil _)))))))))))

theorem load_awaited_overlap : overlap.Admissible ∧
    overlap.Runs 0 5 (Page.navigate ⟨0, some ⟨"S"⟩⟩ ⟨0, none⟩ "http://b/").run 22
      (.done (.ok ⟨⟨"F"⟩, some ⟨"L"⟩, none⟩)) ∧ 0 < (overlap.world 5).pages.length ∧
    ∃ m key y ack, overlap.LoadAwaited 0 5 22 ⟨0, some ⟨"S"⟩⟩ ⟨0, none⟩ "http://b/"
      (.ok ⟨⟨"F"⟩, some ⟨"L"⟩, none⟩) m key y ack :=
  ⟨overlap_admissible, overlap_runs, by decide,
    load_awaited overlap_admissible overlap_runs (by decide)⟩

/-- The navigation succeeds though the load that it was acknowledged with is never reported. -/
theorem overlap_other_loader : overlap.Admissible ∧ ¬ overlap.OwnLoads := by
  refine ⟨overlap_admissible, fun h => ?_⟩
  obtain ⟨m, key, d, e, -, -, -, hdj, ⟨⟨t, ht, hdelivered⟩, -, -⟩, hloader⟩ :=
    h 0 5 22 _ _ _ _ ⟨"L"⟩ overlap_runs (by decide) rfl
  have hquiet : ∀ d < 22, d ≠ 15 →
      (overlap.transitions[d]?.bind (overlap.world d).delivered?).isNone := by decide
  by_cases hd : d = 15
  · subst hd
    cases ht
    cases hdelivered
    exact absurd hloader (by decide)
  · have hnone := hquiet d hdj hd
    rw [ht, Option.bind_some, hdelivered] at hnone
    cases hnone

end Run

end PagePilot
