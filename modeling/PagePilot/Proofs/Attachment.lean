import PagePilot.Proofs.Barrier.History
import PagePilot.Proofs.Connection.Command
import PagePilot.Proofs.Machine.CurrentFrame
/-!
# PagePilot.Proofs.Attachment

The current frame of a page when it has been enabled, by itself or as a part of attaching.
Two write it: whoever takes messages in follows the main frame by the events that come, and
the task that enables the page writes the root of the frame tree once it goes on with the
answer. Between the answer and the writing more events may be taken in, and what they said
is lost then.

* `Run.Latest` is the frame that the browser spoke of last;
* `Run.FollowsLatest` would be that this is the current frame;
* `Run.EnabledFrame` is what the current frame is, and `Run.enabled_frame` proves it of all
  runs.
-/

namespace PagePilot

open Wire

theorem World.isSome_listeners {w : World} {page : PageKey} :
    (w.board.listeners page).isSome ↔ page < w.pages.length := by
  simp [World.board]

namespace Run

variable {r : Run} {task : TaskId} {page : PageKey} {frame root : FrameId} {d i j k l s : Nat}

/-! ### Who writes the current frame -/

variable (r) in
/-- The current frame of a page is written at a position. -/
def SetsFrame (k : Nat) (page : PageKey) (frame : FrameId) : Prop :=
  ∃ t, r.transitions[k]? = some t ∧ (r.world k).frameSet? t = some (page, frame)

variable (r) in
/-- An event of the main frame reaches a page at a position. -/
def Navigates (k : Nat) (page : PageKey) (frame : FrameId) : Prop :=
  ∃ event, r.Delivers k page event ∧ event.mainFrame? = some frame

variable (r) in
/-- The current frame of a page is written by something else than an event: by a task, or from
outside. -/
def Overrides (k : Nat) (page : PageKey) : Prop :=
  ∃ frame, r.transitions[k]? = some (.setFrame page frame) ∨
    ∃ task, r.Does k task (.setFrame page frame) ()

theorem frameSet?_of_step {w : World} : w.frameSet? (.step task) = some (page, frame) ↔
    ∃ task', w.deed? (.step task) = some (task', ⟨.setFrame page frame, ()⟩) := by
  simp only [World.frameSet?]
  cases w.deed? (.step task) with
  | none => simp
  | some d =>
    obtain ⟨task', a, reply⟩ := d
    cases a <;> simp [Act.frameSet?]

/-- There are no other ways to write the current frame. -/
theorem setsFrame_iff : r.SetsFrame k page frame ↔ r.Navigates k page frame ∨
    r.transitions[k]? = some (.setFrame page frame) ∨
      ∃ task, r.Does k task (.setFrame page frame) () := by
  have hevent : ∀ delivered : Option (PageKey × Event),
      (delivered.bind fun d => d.2.mainFrame?.map (d.1, ·)) = some (page, frame) ↔
        ∃ event, delivered = some (page, event) ∧ event.mainFrame? = some frame := by
    intro delivered
    cases delivered with
    | none => simp
    | some d =>
      obtain ⟨page', event⟩ := d
      simp only [Option.bind_some, Option.map_eq_some_iff, Prod.mk.injEq, Option.some.injEq]
      constructor
      · rintro ⟨_, hframe, rfl, rfl⟩
        exact ⟨event, ⟨rfl, rfl⟩, hframe⟩
      · rintro ⟨_, ⟨rfl, rfl⟩, hframe⟩
        exact ⟨frame, hframe, rfl, rfl⟩
  unfold SetsFrame Navigates Delivers Does deed?
  cases r.transitions[k]? with
  | none => simp
  | some t =>
    simp only [Option.some.injEq, exists_eq_left', Option.bind_some]
    cases t with
    | setFrame => simp [World.frameSet?, World.delivered?, World.deed?]
    | step task => simp [frameSet?_of_step, World.delivered?]
    | read | deliver => simp [World.frameSet?, World.deed?, hevent]
    | _ => simp [World.frameSet?, World.deed?, World.delivered?]

theorem currentFrame_of_setsFrame (hpage : page < (r.world k).pages.length)
    (h : r.SetsFrame k page frame) : (r.world (k + 1)).currentFrame page = some frame := by
  obtain ⟨t, ht, hset⟩ := h
  rw [world_succ ht, World.apply_currentFrame hpage, hset]
  exact if_pos rfl

theorem currentFrame_of_not (hpage : page < (r.world k).pages.length)
    (h : ∀ frame, ¬ r.SetsFrame k page frame) :
    (r.world (k + 1)).currentFrame page = (r.world k).currentFrame page := by
  cases ht : r.transitions[k]? with
  | none => rw [world_succ_of_none ht]
  | some t =>
    rw [world_succ ht, World.apply_currentFrame hpage]
    unfold World.frameAfter
    split
    next page' frame' hset =>
      refine if_neg ?_
      rintro rfl
      exact h frame' ⟨t, ht, hset⟩
    next => rfl

theorem pages_mono (hr : r.Admissible) (hij : i ≤ j) (h : page < (r.world i).pages.length) :
    page < (r.world j).pages.length :=
  World.isSome_listeners.mp (page_mono hr hij (World.isSome_listeners.mpr h))

/-- The current frame is what was written last. -/
theorem currentFrame_of_last (hr : r.Admissible) (hpage : page < (r.world s).pages.length)
    (h : r.SetsFrame s page frame) (hsj : s < j)
    (hlast : ∀ l, s < l → l < j → ∀ frame', ¬ r.SetsFrame l page frame') :
    (r.world j).currentFrame page = some frame := by
  induction hsj with
  | refl => exact currentFrame_of_setsFrame hpage h
  | @step j hsj ih =>
    rw [currentFrame_of_not (pages_mono hr (Nat.le_of_lt hsj) hpage)
      fun frame' => hlast j hsj (Nat.lt_succ_self j) frame']
    exact ih fun l hsl hlj => hlast l hsl (Nat.lt_succ_of_lt hlj)

/-! ### What the browser said last -/

variable (r) in
/-- The frame that was spoken of last: by the answer that was taken in at `d`, with `root` in
it, or by an event of the main frame after that and before `j`. -/
inductive Latest (page : PageKey) (d : Nat) (root : FrameId) (j : Nat) : FrameId → Prop
  | answer (h : ∀ e frame, d < e → e < j → ¬ r.Navigates e page frame) : Latest page d root j root
  | event {e : Nat} {frame : FrameId} (hde : d < e) (hej : e < j) (h : r.Navigates e page frame)
      (hlast : ∀ e' frame', e < e' → e' < j → ¬ r.Navigates e' page frame') :
      Latest page d root j frame

theorem Navigates.unique {frame' : FrameId} (h : r.Navigates k page frame)
    (h' : r.Navigates k page frame') : frame = frame' := by
  obtain ⟨event, ⟨t, ht, hd⟩, hframe⟩ := h
  obtain ⟨event', ⟨t', ht', hd'⟩, hframe'⟩ := h'
  cases ht.symm.trans ht'
  cases hd.symm.trans hd'
  exact Option.some.inj (hframe.symm.trans hframe')

/-- Something was spoken of last. -/
theorem exists_latest (hdj : d < j) : ∃ frame, r.Latest page d root j frame := by
  induction hdj with
  | refl => exact ⟨root, .answer fun e _ hde hed => absurd hed (Nat.not_lt.mpr hde)⟩
  | @step j hdj ih =>
    by_cases hj : ∃ frame, r.Navigates j page frame
    · obtain ⟨frame, hframe⟩ := hj
      exact ⟨frame, .event hdj (Nat.lt_succ_self j) hframe fun e' _ hje' he'j =>
        absurd he'j (Nat.not_lt.mpr hje')⟩
    · have hbefore : ∀ e frame, r.Navigates e page frame → e < j + 1 → e < j := by
        intro e frame he hej
        refine Nat.lt_of_le_of_ne (Nat.lt_succ_iff.mp hej) ?_
        rintro rfl
        exact hj ⟨frame, he⟩
      obtain ⟨frame, hframe⟩ := ih
      refine ⟨frame, ?_⟩
      cases hframe with
      | answer h => exact .answer fun e frame' hde hej he => h e frame' hde (hbefore e _ he hej) he
      | event hde hej h hlast =>
        exact .event hde (Nat.lt_succ_of_lt hej) h fun e' frame' hee' he'j he' =>
          hlast e' frame' hee' (hbefore e' _ he' he'j) he'

/-- Only one thing was spoken of last. -/
theorem Latest.unique {frame' : FrameId} (h : r.Latest page d root j frame)
    (h' : r.Latest page d root j frame') : frame = frame' := by
  cases h with
  | answer hnone =>
    cases h' with
    | answer => rfl
    | event hde hej he => exact absurd he (hnone _ _ hde hej)
  | @event e _ hde hej he hlast =>
    cases h' with
    | answer hnone => exact absurd he (hnone _ _ hde hej)
    | @event e' _ hde' hej' he' hlast' =>
      rcases Nat.lt_trichotomy e e' with hlt | rfl | hlt
      · exact absurd he' (hlast _ _ hlt hej')
      · exact he.unique he'
      · exact absurd he (hlast' _ _ hlt hej)

/-- When nothing is heard of between two positions, it does not matter which of them one
looks at. -/
theorem Latest.congr (h : r.Latest page d root s frame) (hsj : s ≤ j)
    (hnone : ∀ e frame, s ≤ e → e < j → ¬ r.Navigates e page frame) :
    r.Latest page d root j frame := by
  have hbefore : ∀ e frame', r.Navigates e page frame' → e < j → e < s := by
    intro e frame' he hej
    exact Nat.lt_of_not_le fun hse => hnone e frame' hse hej he
  cases h with
  | answer h => exact .answer fun e frame' hde hej he => h e frame' hde (hbefore e _ he hej) he
  | event hde hes h hlast =>
    exact .event hde (Nat.lt_of_lt_of_le hes hsj) h fun e' frame' hee' he'j he' =>
      hlast e' frame' hee' (hbefore e' _ he' he'j) he'

/-- What is heard of after a position is what one hears of last. -/
theorem Latest.of_later {e : Nat} {frame' : FrameId} (h : r.Latest page s root j frame)
    (hds : d < s) (hse : s < e) (hej : e < j) (he : r.Navigates e page frame') (root' : FrameId) :
    r.Latest page d root' j frame := by
  cases h with
  | answer hnone => exact absurd he (hnone e frame' hse hej)
  | event hse' hej' h hlast => exact .event (Nat.lt_trans hds hse') hej' h hlast

/-! ### Enabling a page -/

variable (r) in
/-- A page is enabled by a task, by itself or as the last part of attaching to a target. -/
inductive Enables (task : TaskId) (i j : Nat) (page : Page) : Prop
  | enable {ctx : Context} (hpage : page.key < (r.world i).pages.length)
      (h : r.Runs task i (page.enable ctx).run j (.done (.ok ())))
  | attach {ctx : Context} {target : TargetId}
      (h : r.Runs task i (Page.attach ctx target).run j (.done (.ok page)))

variable (r) in
/-- A task has asked for the frame tree of a page, the answer was taken in at `d`, and the task
has written the root of the tree as the current frame at `s`. -/
structure Seeds (task : TaskId) (i j : Nat) (page : Page) (d s : Nat) (root : FrameId) : Prop where
  asked : ∃ id w answer tree, i ≤ w ∧ w < s ∧
    r.Does w task (.write (Send.request page.session Command.getFrameTree.method
      Command.getFrameTree.params id)) (.ok ()) ∧
    r.Answers d id (.ok answer) ∧ Command.getFrameTree.acknowledge answer = .ok tree ∧
      tree.frame.id = root
  answered : d < s
  writes : r.Does s task (.setFrame page.key root) ()
  before : s < j
  there : page.key < (r.world s).pages.length

/-- The last part of enabling a page writes the root of its frame tree. -/
theorem Runs.seeds (hr : r.Admissible) {page : Page} {ctx : Context}
    (h : r.Runs task i (page.enable ctx).run j (.done (.ok ())))
    (hpage : page.key < (r.world i).pages.length) : ∃ d s root, r.Seeds task i j page d s root := by
  unfold Page.enable at h
  rcases h.of_op_bind_done with ⟨_, hq, -⟩ | ⟨k₁, _, hevents, h⟩
  · cases hq
  rcases h.of_op_bind_done with ⟨_, hq, -⟩ | ⟨k₂, _, hmilestones, h⟩
  · cases hq
  rcases h.of_op_bind_done with ⟨_, hq, -⟩ | ⟨k₃, tree, hasks, h⟩
  · cases hq
  obtain ⟨s, _, hks, hsj, hwrites, -, -, -⟩ := h.of_perform_done
  obtain ⟨id, w, u, d, answer, hkw, hwu, huk, hdu, hw, hanswers, -, -, hread⟩ :=
    hasks.acknowledged hr
  have hevents := hevents.le
  have hmilestones := hmilestones.le
  exact ⟨d, s, tree.frame.id,
    { asked := ⟨id, w, answer, tree, by omega, by omega, hw, hanswers, hread, rfl⟩
      answered := by omega
      writes := hwrites
      before := hsj
      there := pages_mono hr (by omega) hpage }⟩

/-- Whoever enables a page writes the root of its frame tree. -/
theorem Enables.seeds (hr : r.Admissible) {page : Page} (h : r.Enables task i j page) :
    ∃ d s root, r.Seeds task i j page d s root := by
  cases h with
  | enable hpage h => exact h.seeds hr hpage
  | attach h =>
    unfold Page.attach at h
    rcases h.of_op_bind_done with ⟨_, hq, -⟩ | ⟨k, session, hattached, h⟩
    · cases hq
    rcases h.of_op_bind_done with ⟨_, hq, -⟩ | ⟨l, key, hopened, h⟩
    · cases hq
    rcases h.of_op_bind_done with ⟨_, hq, -⟩ | ⟨m, _, henabled, h⟩
    · cases hq
    obtain ⟨o, _, hko, hol, hopens, -, -, hkey⟩ := hopened.of_perform_done
    cases hkey
    obtain ⟨-, hresult⟩ := h.of_done
    cases hresult
    obtain ⟨d, s, root, hseeds⟩ := henabled.seeds hr (pages_mono hr hol hopens.opens)
    obtain ⟨id, w, answer, tree, hlw, hasked⟩ := hseeds.asked
    have hattached := hattached.le
    exact ⟨d, s, root,
      { hseeds with
        asked := ⟨id, w, answer, tree, by omega, hasked⟩
        before := Nat.lt_of_lt_of_le hseeds.before h.le }⟩

/-! ### All together -/

variable (r) in
/-- The current frame of a page that was enabled is the one that the browser spoke of last. -/
def FollowsLatest : Prop :=
  ∀ task i j page d s root, r.Enables task i j page → r.Seeds task i j page d s root →
    (∀ l, i ≤ l → l < j → l ≠ s → ¬ r.Overrides l page.key) →
      ∀ frame, r.Latest page.key d root j frame →
        (r.world j).currentFrame page.key = some frame

variable (r) in
/-- What the current frame of a page is at `j`, when a task has enabled the page by then. The
answer with the frame `root` was taken in at `d`, and the task has written it at `s`. -/
structure EnabledFrame (task : TaskId) (i j : Nat) (page : Page) (d s : Nat) (root : FrameId) :
    Prop where
  /-- The task has asked for the frame tree, and has written its root. -/
  seeds : r.Seeds task i j page d s root
  /-- Of what the browser says after the writing, the last is the current frame. -/
  current : (∀ l, s < l → l < j → ¬ r.Overrides l page.key) → ∀ frame,
    (r.world j).currentFrame page.key = some frame ↔ r.Latest page.key s root j frame
  /-- So it is the last that the browser has said at all if it has said something after the
  writing, or if it has said nothing else between the answer and the writing. -/
  upToDate : (∀ l, s < l → l < j → ¬ r.Overrides l page.key) →
    ((∀ frame, r.Latest page.key d root j frame →
      (r.world j).currentFrame page.key = some frame) ↔
        (∃ e frame, s < e ∧ e < j ∧ r.Navigates e page.key frame) ∨
          r.Latest page.key d root s root)

/-- What was written last, by the task or by an event, is the current frame. -/
theorem Seeds.currentFrame_eq (hr : r.Admissible) {page : Page}
    (h : r.Seeds task i j page d s root)
    (hothers : ∀ l, s < l → l < j → ¬ r.Overrides l page.key)
    (hlatest : r.Latest page.key s root j frame) :
    (r.world j).currentFrame page.key = some frame := by
  have hevents : ∀ l frame', s < l → l < j → r.SetsFrame l page.key frame' →
      r.Navigates l page.key frame' := by
    intro l frame' hsl hlj hset
    rcases setsFrame_iff.mp hset with hnavigates | hwritten
    · exact hnavigates
    · exact absurd ⟨frame', hwritten⟩ (hothers l hsl hlj)
  cases hlatest with
  | answer hnone =>
    have hset : r.SetsFrame s page.key frame := setsFrame_iff.mpr (.inr (.inr ⟨task, h.writes⟩))
    exact currentFrame_of_last hr h.there hset h.before fun l hsl hlj frame' hset' =>
      hnone l frame' hsl hlj (hevents l frame' hsl hlj hset')
  | @event e _ hse hej he hlast =>
    have hset : r.SetsFrame e page.key frame := setsFrame_iff.mpr (.inl he)
    exact currentFrame_of_last hr (pages_mono hr (Nat.le_of_lt hse) h.there) hset hej
      fun l hel hlj frame' hset' =>
        hlast l frame' hel hlj (hevents l frame' (Nat.lt_trans hse hel) hlj hset')

/-- The current frame is what was written last. -/
theorem Seeds.currentFrame_iff (hr : r.Admissible) {page : Page}
    (h : r.Seeds task i j page d s root)
    (hothers : ∀ l, s < l → l < j → ¬ r.Overrides l page.key) :
    (r.world j).currentFrame page.key = some frame ↔ r.Latest page.key s root j frame := by
  obtain ⟨last, hlast⟩ : ∃ last, r.Latest page.key s root j last := exists_latest h.before
  constructor
  · intro hframe
    obtain rfl := Option.some.inj (hframe.symm.trans (h.currentFrame_eq hr hothers hlast))
    exact hlast
  · exact h.currentFrame_eq hr hothers

/-- What is said after the writing is followed. -/
theorem Seeds.follows_of_later (hr : r.Admissible) {page : Page}
    (h : r.Seeds task i j page d s root)
    (hothers : ∀ l, s < l → l < j → ¬ r.Overrides l page.key)
    (hlater : ∃ e frame, s < e ∧ e < j ∧ r.Navigates e page.key frame)
    (hlatest : r.Latest page.key d root j frame) :
    (r.world j).currentFrame page.key = some frame := by
  obtain ⟨e, frame', hse, hej, he⟩ := hlater
  obtain ⟨last, hlast⟩ : ∃ last, r.Latest page.key s root j last := exists_latest h.before
  rw [hlatest.unique (hlast.of_later h.answered hse hej he root)]
  exact h.currentFrame_eq hr hothers hlast

/-- When nothing is said after the writing, what was said before it is not followed, unless it
was the answer. -/
theorem Seeds.follows_iff_of_silence (hr : r.Admissible) {page : Page}
    (h : r.Seeds task i j page d s root)
    (hothers : ∀ l, s < l → l < j → ¬ r.Overrides l page.key)
    (hsilent : ∀ e frame, s < e → e < j → ¬ r.Navigates e page.key frame) :
    (∀ frame, r.Latest page.key d root j frame →
      (r.world j).currentFrame page.key = some frame) ↔ r.Latest page.key d root s root := by
  have hroot : (r.world j).currentFrame page.key = some root :=
    h.currentFrame_eq hr hothers (.answer hsilent)
  have hnone : ∀ e frame, s ≤ e → e < j → ¬ r.Navigates e page.key frame := by
    intro e frame hse hej he
    rcases Nat.lt_or_eq_of_le hse with hlt | rfl
    · exact hsilent e frame hlt hej he
    · -- At `s` the task writes, so no event is taken in there.
      obtain ⟨event, ⟨t, ht, hdelivered⟩, -⟩ := he
      cases ht.symm.trans h.writes.spec.1
      cases hdelivered
  constructor
  · intro hfollows
    obtain ⟨before, hbefore⟩ : ∃ before, r.Latest page.key d root s before :=
      exists_latest h.answered
    have hkept := hbefore.congr (Nat.le_of_lt h.before) hnone
    obtain rfl := Option.some.inj (hroot.symm.trans (hfollows before hkept))
    exact hbefore
  · intro hlatest frame hframe
    rw [hroot, hframe.unique (hlatest.congr (Nat.le_of_lt h.before) hnone)]

/-- In every run, the current frame of a page that was enabled is what came after the
writing. -/
theorem enabled_frame (hr : r.Admissible) {page : Page} (h : r.Enables task i j page) :
    ∃ d s root, r.EnabledFrame task i j page d s root := by
  obtain ⟨d, s, root, hseeds⟩ := h.seeds hr
  refine ⟨d, s, root, hseeds, fun hothers _ => hseeds.currentFrame_iff hr hothers, ?_⟩
  intro hothers
  by_cases hlater : ∃ e frame, s < e ∧ e < j ∧ r.Navigates e page.key frame
  · exact iff_of_true (fun _ => hseeds.follows_of_later hr hothers hlater) (.inl hlater)
  · have hsilent : ∀ e frame, s < e → e < j → ¬ r.Navigates e page.key frame :=
      fun e frame hse hej he => hlater ⟨e, frame, hse, hej, he⟩
    simp only [hlater, false_or]
    exact hseeds.follows_iff_of_silence hr hothers hsilent

/-- The message with which the browser answers a request. -/
def answerTo (id : Int) (result : Json) : Transition :=
  .inject (.object [("id", .int id), ("result", result)])

/-- A page is enabled. The answer with its frame tree and the news of another frame come in one
burst, and both are taken in before the task goes on. -/
def burst : Run where
  start := .initial [] .none
  transitions :=
    [.newScope none, .openPage (some ⟨"S"⟩) none, .route (some ⟨"S"⟩) 0, .startReading,
      .spawn ((Page.enable ⟨0, some ⟨"S"⟩⟩ ⟨0, none⟩).task fun _ => .nothing),
      .step 0, .step 0, .step 0, .step 0, .step 0, .step 0,
      answerTo 0 .empty, .receive, .read, .step 0,
      .step 0, .step 0, .step 0, .step 0, .step 0, .step 0,
      answerTo 1 .empty, .receive, .read, .step 0,
      .step 0, .step 0, .step 0, .step 0, .step 0, .step 0,
      answerTo 2 (.object [("frameTree", .object [("frame", .object [("id", .string "OLD"),
        ("loaderId", .string "L"), ("url", .string "about:blank")])])]),
      .inject (.object [("method", .string "Page.frameNavigated"),
        ("params", .object [("frame", .object [("id", .string "NEW"), ("loaderId", .string "L"),
          ("url", .string "about:blank")])]), ("sessionId", .string "S")]),
      .receive, .receive, .read, .read, .step 0, .step 0]

theorem burst_admissible : burst.Admissible := by
  refine admissible_of_admits ⟨trivial, trivial, trivial, trivial, ?_, trivial, trivial, trivial,
    trivial, trivial, trivial, trivial, trivial, trivial, trivial, trivial, trivial, trivial,
    trivial, trivial, trivial, trivial, trivial, trivial, trivial, trivial, trivial, trivial,
    trivial, trivial, trivial, trivial, trivial, trivial, trivial, trivial, trivial, trivial,
    trivial, trivial⟩
  exact (Page.enable_orderly _ _).bind fun _ => .done _

-- Three commands of seven acts, and the writing of the frame.
theorem burst_runs : burst.Runs 0 5 (Page.enable ⟨0, some ⟨"S"⟩⟩ ⟨0, none⟩).run 39
    (.done (.ok ())) where
  begins := ⟨_, rfl⟩
  le := by decide
  leads := .cons (.cons (.cons (.cons (.cons (.cons (.cons (.cons (.cons (.cons (.cons (.cons
    (.cons (.cons (.cons (.cons (.cons (.cons (.cons (.cons (.cons (.cons
      (.nil _))))))))))))))))))))))

theorem burst_enables : burst.Enables 0 5 39 ⟨0, some ⟨"S"⟩⟩ :=
  .enable (by decide) burst_runs

theorem enabled_frame_burst : burst.Admissible ∧ burst.Enables 0 5 39 ⟨0, some ⟨"S"⟩⟩ ∧
    ∃ d s root, burst.EnabledFrame 0 5 39 ⟨0, some ⟨"S"⟩⟩ d s root :=
  ⟨burst_admissible, burst_enables, enabled_frame burst_admissible burst_enables⟩

theorem burst_seeds : burst.Seeds 0 5 39 ⟨0, some ⟨"S"⟩⟩ 35 38 ⟨"OLD"⟩ where
  asked := ⟨2, 30, _, .node ⟨⟨"OLD"⟩, none, ⟨"L"⟩, none, "about:blank"⟩ [], by decide, by decide,
    rfl, ⟨_, rfl, rfl, by decide, rfl⟩, rfl, rfl⟩
  answered := by decide
  writes := rfl
  before := by decide
  there := by decide

/-- Only the reader and the task at its end write the frame. -/
theorem burst_not_overrides (l : Nat) (hl : l < 39) (hs : l ≠ 38) : ¬ burst.Overrides l 0 := by
  rintro ⟨frame, h⟩
  obtain ⟨t, ht, hset⟩ := setsFrame_iff.mpr (.inr h)
  have hnone : ∀ l < 39, l ≠ 36 → l ≠ 38 →
      burst.transitions[l]?.bind (burst.world l).frameSet? = none := by decide
  by_cases hevent : l = 36
  · subst hevent
    rcases h with h | ⟨task, h⟩
    · cases h
    · cases h.spec.1
  · have hframe := hnone l hl hevent hs
    rw [ht] at hframe
    cases hset.symm.trans hframe

/-- The news of the frame is the last that the browser says. -/
theorem burst_latest : burst.Latest 0 35 ⟨"OLD"⟩ 39 ⟨"NEW"⟩ := by
  refine .event (e := 36) (by decide) (by decide) ⟨_, ⟨_, rfl, rfl⟩, rfl⟩ ?_
  rintro e frame hlt hle ⟨event, ⟨t, ht, hdelivered⟩, -⟩
  obtain rfl | rfl : e = 37 ∨ e = 38 := by omega
  · cases ht
    cases hdelivered
  · cases ht
    cases hdelivered

/-- The task writes the frame that the page had before over the frame that it has now. -/
theorem burst_stale : burst.Admissible ∧ ¬ burst.FollowsLatest := by
  refine ⟨burst_admissible, fun h => ?_⟩
  have hframe := h 0 5 39 _ 35 38 ⟨"OLD"⟩ burst_enables burst_seeds
    (fun l _ hl hs => burst_not_overrides l hl hs) ⟨"NEW"⟩ burst_latest
  exact absurd hframe (by decide)

end Run

end PagePilot
