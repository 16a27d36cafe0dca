import PagePilot.Proofs.Attachment
import PagePilot.Proofs.Barrier.Turn
import PagePilot.Proofs.Wire.MainFrame
/-!
# PagePilot.Proofs.Navigation.Tracking

How a page keeps track of its main frame. The events that reach a page are its feed
(`Staggered.fed`). What is current is the frame of the last main navigation in the feed, or
what was current before if there is none, as long as nobody else writes it
(`Staggered.currentFrame_eq`). A page follows an event before it calls anybody, so in every turn
of its delivery the new frame is read. A wait for a milestone is for the frame that was
current when it was armed, whatever becomes of the page later.

`Staggered.TracksFrame` puts this together, and `Staggered.frame_tracked` proves it of all
pages of all staggered runs.
-/

namespace PagePilot

open Wire

/-! ### What one step does to the current frame -/

namespace World

variable {w : World} {page : PageKey}

/-- Where a navigation would load into is the current frame, if one is known. -/
theorem frameOf_eq : w.frameOf page = (w.currentFrame page).getD .unknown := by
  unfold frameOf currentFrame PageState.navigatedFrame
  cases w.pages[page]? <;> rfl

/-- An event writes the current frame of the page that it reaches. -/
theorem frameAfter_delivered (w : World) (page : PageKey) (delivered : Option (PageKey × Event)) :
    w.frameAfter (delivered.bind fun d => d.2.mainFrame?.map (d.1, ·)) page =
      ((delivered.bind fun d => if d.1 = page then some d.2 else none).bind Event.mainFrame?).or
        (w.currentFrame page) := by
  cases delivered with
  | none => rfl
  | some d =>
    obtain ⟨page', event⟩ := d
    cases hframe : event.mainFrame? with
    | none => by_cases hpage : page' = page <;> simp [frameAfter, hpage, hframe]
    | some frame => by_cases hpage : page' = page <;> simp [frameAfter, hpage, hframe]

theorem currentFrame_opening (h : page < w.pages.length) (page' : PageKey) (event : Event) :
    (w.opening page' event).currentFrame page =
      w.frameAfter (event.mainFrame?.map (page', ·)) page := by
  have hprune : (w.opening page' event).currentFrame page =
      (w.follow page' event).currentFrame page := currentFrame_modifyPage fun _ => rfl
  rw [hprune, follow]
  cases event.mainFrame? with
  | none => rfl
  | some frame => exact currentFrame_setFrame h frame

theorem giveTurn_pages (page : PageKey) (event : Event) (reg : Registration Handler) :
    (w.giveTurn page event reg).pages = w.pages := by
  unfold giveTurn
  split
  · rfl
  · exact handle_pages ..

end World

namespace Underway

variable {u : Underway} {page : PageKey} {event : Event}

/-- Turns leave the pages as they are. -/
theorem turn_pages (u : Underway) (n : Nat) : (u.apply (.turn n)).world.pages = u.world.pages := by
  rcases u.apply_turn_cases n with ⟨hsame, -⟩ | ⟨page, event, reg, rest, hround⟩
  · rw [hsame]
  · rw [apply_turn hround]
    exact World.giveTurn_pages ..

theorem turns_pages (u : Underway) (n count : Nat) :
    (u.run (List.replicate count (.turn n))).world.pages = u.world.pages := by
  induction count generalizing u with
  | zero => rfl
  | succ count ih => exact (ih (u.apply (.turn n))).trans (turn_pages u n)

/-- In every turn of a delivery the page has followed the event already. -/
theorem currentFrame_turns (h : page < u.world.pages.length) {frame : FrameId}
    (hframe : event.mainFrame? = some frame) (n count : Nat) :
    (u.run (.start page event :: List.replicate count (.turn n))).world.currentFrame page =
      some frame := by
  have hopening := World.currentFrame_opening h page event
  rw [hframe] at hopening
  have hpages := turns_pages (u.apply (.start page event)) n count
  unfold World.currentFrame at hopening ⊢
  show ((u.apply (.start page event)).run _).world.pages[page]?.bind _ = _
  rw [hpages]
  exact hopening.trans (if_pos rfl)

end Underway

/-! ### The feed of a page -/

namespace Staggered

variable (r : Staggered)

/-- The event that reaches a page at a position. -/
def fed? (page : PageKey) (k : Nat) : Option Event :=
  match r.beats[k]? with
  | some (.start page' event) => if page' = page then some event else none
  | some (.whole t) => ((r.world k).delivered? t).bind fun d => if d.1 = page then some d.2 else none
  | _ => none

/-- The events that reach a page from position `i` on, before position `j`. -/
def fed (page : PageKey) (i j : Nat) : List Event :=
  (List.range' i (j - i)).filterMap (r.fed? page)

/-- The current frame of a page is written by something else than an event: by a task, or from
outside. -/
def Overrides (k : Nat) (page : PageKey) : Prop :=
  ∃ frame, r.beats[k]? = some (.whole (.setFrame page frame)) ∨
    ∃ task, r.beats[k]? = some (.whole (.step task)) ∧
      (r.world k).deed? (.step task) = some (task, ⟨.setFrame page frame, ()⟩)

variable {r} {page : PageKey} {event : Event} {frame : FrameId} {i j k m s d : Nat}

theorem fed?_eq_some : r.fed? page k = some event ↔ r.Dispatches k page event := by
  unfold fed?
  constructor
  · intro h
    split at h
    next page' event' hbeat =>
      split at h
      next hpage =>
        cases h
        exact .start (hpage ▸ hbeat)
      next => cases h
    next t hbeat =>
      obtain ⟨⟨page', event'⟩, hdelivered, hpage⟩ := Option.bind_eq_some_iff.mp h
      split at hpage
      next heq =>
        cases hpage
        obtain rfl : page' = page := heq
        exact .atOnce hbeat hdelivered
      next => cases hpage
    next => cases h
  · intro h
    cases h with
    | start hbeat => simp [hbeat]
    | atOnce hbeat hdelivered => simp [hbeat, hdelivered]

theorem fed_succ (hij : i ≤ j) :
    r.fed page i (j + 1) = r.fed page i j ++ (r.fed? page j).toList := by
  unfold fed
  rw [Nat.succ_sub hij, List.range'_concat, List.filterMap_append]
  simp only [Nat.one_mul, Nat.add_sub_cancel' hij, List.filterMap_cons, List.filterMap_nil]
  cases r.fed? page j <;> rfl

/-- The first event of a feed, and the others. -/
theorem fed_cons (h : r.Dispatches s page event) (hsj : s < j) :
    r.fed page s j = event :: r.fed page (s + 1) j := by
  unfold fed
  rw [show j - s = (j - (s + 1)) + 1 by omega, List.range'_succ,
    List.filterMap_cons_some (fed?_eq_some.mpr h)]

theorem not_overrides_of_dispatches (h : r.Dispatches k page event) (page' : PageKey) :
    ¬ r.Overrides k page' := by
  rintro ⟨frame, hset | ⟨task, hstep, -⟩⟩
  · cases h with
    | start hbeat => cases hbeat.symm.trans hset
    | atOnce hbeat hdelivered =>
      cases hbeat.symm.trans hset
      cases hdelivered
  · cases h with
    | start hbeat => cases hbeat.symm.trans hstep
    | atOnce hbeat hdelivered =>
      cases hbeat.symm.trans hstep
      cases hdelivered

/-- A transition that is none of the others' writings writes what its event says. -/
theorem frameAfter_of_whole {t : Transition} (hbeat : r.beats[k]? = some (.whole t))
    (hnot : ¬ r.Overrides k page) :
    (r.world k).frameAfter ((r.world k).frameSet? t) page =
      ((r.fed? page k).bind Event.mainFrame?).or ((r.world k).currentFrame page) := by
  have hfed : r.fed? page k =
      ((r.world k).delivered? t).bind fun d => if d.1 = page then some d.2 else none := by
    simp [fed?, hbeat]
  rw [hfed]
  cases t with
  | setFrame page' frame =>
    have hpage : page' ≠ page := by
      rintro rfl
      exact hnot ⟨frame, .inl hbeat⟩
    simp [World.frameAfter, World.frameSet?, World.delivered?, hpage]
  | step task =>
    have hset : ∀ frame, (r.world k).frameSet? (.step task) ≠ some (page, frame) := by
      intro frame h
      obtain ⟨task', hd⟩ := Run.frameSet?_of_step.mp h
      obtain ⟨heq, -⟩ := World.deed?_eq_some hd
      cases heq
      exact hnot ⟨frame, .inr ⟨task, hbeat, hd⟩⟩
    unfold World.frameAfter
    split
    next page' frame h =>
      have hpage : page' ≠ page := by
        rintro rfl
        exact hset frame h
      simp [World.delivered?, hpage]
    next => rfl
  | _ => simpa only [World.frameSet?] using World.frameAfter_delivered (r.world k) page _

/-- One beat writes the current frame of a page if it feeds the page a main navigation, as long
as nobody else writes it. -/
theorem currentFrame_succ (hpage : page < (r.world k).pages.length) (hnot : ¬ r.Overrides k page) :
    (r.world (k + 1)).currentFrame page =
      ((r.fed? page k).bind Event.mainFrame?).or ((r.world k).currentFrame page) := by
  cases hbeat : r.beats[k]? with
  | none =>
    rw [show r.world (k + 1) = r.world k from congrArg Underway.world (state_succ_of_none hbeat)]
    simp [fed?, hbeat]
  | some b =>
    have hstate := congrArg Underway.world (state_succ hbeat)
    cases b with
    | whole t =>
      rw [world_succ hbeat, World.apply_currentFrame hpage]
      exact frameAfter_of_whole hbeat hnot
    | start page' event =>
      have hopening := World.currentFrame_opening hpage page' event
      rw [show r.world (k + 1) = (r.world k).opening page' event from hstate, hopening]
      have hfed := World.frameAfter_delivered (r.world k) page (some (page', event))
      simpa [fed?, hbeat] using hfed
    | turn n =>
      have hpages : (r.world (k + 1)).pages = (r.world k).pages :=
        (congrArg World.pages hstate).trans (Underway.turn_pages _ n)
      simp [World.currentFrame, hpages, fed?, hbeat]

theorem pages_mono (hr : r.Admissible) (hij : i ≤ j) (h : page < (r.world i).pages.length) :
    page < (r.world j).pages.length :=
  World.isSome_listeners.mp (page_mono hr hij (World.isSome_listeners.mpr h))

/-- The current frame is that of the last main navigation, or what it was before. -/
theorem currentFrame_eq (hr : r.Admissible) (hij : i ≤ j)
    (hpage : page < (r.world i).pages.length)
    (hnot : ∀ l, i ≤ l → l < j → ¬ r.Overrides l page) :
    (r.world j).currentFrame page =
      ((r.fed page i j).filterMap Event.mainFrame?).getLast?.or
        ((r.world i).currentFrame page) := by
  induction hij with
  | refl => simp [fed]
  | @step j hij ih =>
    have hsucc := currentFrame_succ (pages_mono hr hij hpage) (hnot j hij (Nat.lt_succ_self j))
    have hbefore := ih fun l hil hlj => hnot l hil (Nat.lt_succ_of_lt hlj)
    rw [hsucc, hbefore, fed_succ hij, List.filterMap_append, List.getLast?_append]
    cases r.fed? page j with
    | none => simp
    | some event => cases hframe : event.mainFrame? <;> simp [hframe]

/-- At the turn of a listener the page has followed the event, and what it has followed since. -/
theorem Turn.currentFrame (hr : r.Admissible) {reg : Registration Handler}
    (h : r.Turn s d page event reg) (hsd : s < d)
    (hnot : ∀ l, s < l → l < d → ¬ r.Overrides l page) :
    (r.world d).currentFrame page =
      ((r.fed page (s + 1) d).filterMap Event.mainFrame?).getLast?.or
        (event.mainFrame?.or ((r.world s).currentFrame page)) := by
  have hpage : page < (r.world s).pages.length := by
    obtain ⟨l, hl, -⟩ := Board.mem_liveAt.mp h.live
    exact World.isSome_listeners.mp (Option.isSome_iff_exists.mpr ⟨l, hl⟩)
  have heq := currentFrame_eq hr (Nat.le_of_lt hsd) hpage (by
    intro l hsl hld
    rcases Nat.eq_or_lt_of_le hsl with rfl | hlt
    · exact not_overrides_of_dispatches h.dispatches page
    · exact hnot l hlt hld)
  rw [heq, fed_cons h.dispatches hsd]
  cases hframe : event.mainFrame? with
  | none => simp [hframe]
  | some frame =>
    rw [List.filterMap_cons_some hframe, List.getLast?_cons]
    cases ((r.fed page (s + 1) d).filterMap Event.mainFrame?).getLast? <;> simp

/-! ### Waits for milestones -/

variable (r) in
/-- A wait for a milestone is armed at a position, by whoever drives the machine or by a task. -/
structure ArmsMilestone (m : Nat) (key : BarrierKey) (page : PageKey) (ctx : Context)
    (milestone : String) : Prop where
  arms : (r.beats[m]? = some (.whole (.armMilestone page ctx milestone)) ∧
      key = (r.world m).barriers.length) ∨
    ∃ task, r.beats[m]? = some (.whole (.step task)) ∧
      (r.world m).deed? (.step task) = some (task, ⟨.arm page ctx milestone, key⟩)
  there : page < (r.world m).pages.length

variable {key : BarrierKey} {ctx : Context} {milestone : String}

/-- It waits for the milestone of the frame that is current then. -/
theorem ArmsMilestone.arms_frame (h : r.ArmsMilestone m key page ctx milestone) :
    r.Arms m key ⟨page, ctx,
      Event.isMilestone (((r.world m).currentFrame page).getD .unknown) milestone⟩ := by
  have hpage := World.isSome_listeners.mpr h.there
  rw [← World.frameOf_eq]
  rcases h.arms with ⟨hbeat, rfl⟩ | ⟨task, hbeat, hd⟩
  · exact ⟨_, hbeat, rfl, hpage⟩
  · exact ⟨_, hbeat, by simp [World.arming?, hd], hpage⟩

/-! ### All together -/

variable (r) in
/-- What holds of the current frame of a page. -/
structure TracksFrame (page : PageKey) : Prop where
  /-- A page is opened with any frame as the current one, or with none. -/
  opened : ∀ k session frame, r.beats[k]? = some (.whole (.openPage session frame)) →
    (r.world k).pages.length = page →
      page < (r.world (k + 1)).pages.length ∧ (r.world (k + 1)).currentFrame page = frame
  /-- Whoever writes the current frame from outside seeds it anew. -/
  seeded : ∀ k frame, r.beats[k]? = some (.whole (.setFrame page frame)) →
    page < (r.world k).pages.length → (r.world (k + 1)).currentFrame page = some frame
  /-- While a page is fed some notices, and nobody else writes its current frame, that is the
  frame of the last main navigation among them, or what it was before if there is none. -/
  current : ∀ i j (notices : List (String × Json)), i ≤ j → page < (r.world i).pages.length →
    r.fed page i j = notices.map (fun n => Event.decode n.1 n.2) →
    (∀ l, i ≤ l → l < j → ¬ r.Overrides l page) →
      (r.world j).currentFrame page =
        (notices.filterMap fun n => (Event.decode n.1 n.2).mainFrame?).getLast?.or
          ((r.world i).currentFrame page)
  /-- A notice is a main navigation when it has the method of navigations, and parameters that
  read as the navigation of a frame to which no parent, or `null`, was given. -/
  main : ∀ method params frame, (Event.decode method params).mainFrame? = some frame ↔
    method = "Page.frameNavigated" ∧ ∃ navigated, FrameNavigated.decode params = .ok navigated ∧
      navigated.frame.id = frame ∧ navigated.frame.parentId = none
  /-- What is read as no parent was left out, or `null`. -/
  parentless : ∀ params navigated, FrameNavigated.decode params = .ok navigated →
    (navigated.frame.parentId = none ↔
      (FrameNavigated.givenFrame? params).bind Frame.givenParent? = none)
  /-- A listener that has its turn in a round of a main navigation reads the new frame, unless
  the page was fed another one since the round began. -/
  heard : ∀ s d event frame reg, r.Turn s d page event reg → s < d →
    event.mainFrame? = some frame → (r.fed page (s + 1) d).filterMap Event.mainFrame? = [] →
    (∀ l, s < l → l < d → ¬ r.Overrides l page) → (r.world d).currentFrame page = some frame
  /-- When all turns are taken at one go, it is read in each of them. -/
  heardAtOnce : ∀ (u : Underway) event frame, page < u.world.pages.length →
    event.mainFrame? = some frame →
      u.world.deliver page event = (u.run (.start page event ::
        List.replicate (u.world.board.liveAt page).length (.turn u.rounds.length))).world ∧
      ∀ count, (u.run (.start page event ::
        List.replicate count (.turn u.rounds.length))).world.currentFrame page = some frame
  /-- A wait for a milestone is matched by that milestone of the frame that was current when the
  wait was armed, whatever was current later. -/
  waits : ∀ m key ctx milestone, r.ArmsMilestone m key page ctx milestone → ∀ k, m < k →
    (r.Matched k key ↔ ∃ s d event scope, m < s ∧ d < k ∧ r.Dispatches s page (.lifecycle event) ∧
      r.Turn s d page (.lifecycle event) ⟨scope, .barrier key
        (Event.isMilestone (((r.world m).currentFrame page).getD .unknown) milestone)⟩ ∧
      event.name = milestone ∧
      event.frameId = ((r.world m).currentFrame page).getD .unknown ∧ ¬ r.Freed d key ctx)

/-- In every staggered run a page keeps track of its main frame. -/
theorem frame_tracked (hr : r.Admissible) (page : PageKey) : r.TracksFrame page where
  opened k session frame hbeat hlength := by
    rw [world_succ hbeat]
    subst hlength
    simp [World.apply, World.openPage, World.currentFrame]
  seeded k frame hbeat hpage := by
    rw [world_succ hbeat, World.apply_currentFrame hpage]
    exact if_pos rfl
  current i j notices hij hpage hfed hnot := by
    rw [currentFrame_eq hr hij hpage hnot, hfed, List.filterMap_map]
    rfl
  main method params frame := by
    rw [Event.mainFrame?_decode]
    refine and_congr_right fun _ => exists_congr fun navigated => and_congr_right fun hdecode =>
      and_congr_right fun _ => ?_
    exact (FrameNavigated.parentId_eq_none_iff hdecode).symm
  parentless params navigated hdecode := FrameNavigated.parentId_eq_none_iff hdecode
  heard s d event frame reg hturn hsd hframe hquiet hnot := by
    rw [hturn.currentFrame hr hsd hnot, hquiet, hframe]
    rfl
  heardAtOnce u event frame hpage hframe :=
    ⟨(u.run_delivery page event).symm, u.currentFrame_turns hpage hframe _⟩
  waits m key ctx milestone harms k hmk := by
    rw [matched_iff hr harms.arms_frame hmk]
    constructor
    · rintro ⟨s, d, event, hms, hdk, hdispatches, ⟨scope, hturn⟩, hwanted, hunfreed⟩
      cases event with
      | lifecycle event =>
        obtain ⟨hname, hframe⟩ : event.name = milestone ∧ event.frameId = _ := by
          simpa [Event.isMilestone] using hwanted
        exact ⟨s, d, event, scope, hms, hdk, hdispatches, hturn, hname, hframe, hunfreed⟩
      | _ => cases hwanted
    · rintro ⟨s, d, event, scope, hms, hdk, hdispatches, hturn, hname, hframe, hunfreed⟩
      exact ⟨s, d, .lifecycle event, hms, hdk, hdispatches, ⟨scope, hturn⟩,
        by simp [Event.isMilestone, hname, hframe], hunfreed⟩

/-- A main navigation, one below the main frame, and the load of the frame of before. -/
def renavigation : List (String × Json) :=
  [("Page.frameNavigated", .object [("frame", .object
      [("id", .string "NEW"), ("parentId", .null), ("url", .string "http://b/")])]),
    ("Page.frameNavigated", .array [.array [.string "SUB", .string "NEW", .string "",
      .null, .string "http://c/"]]),
    ("Page.lifecycleEvent", .object [("frameId", .string "OLD"), ("name", .string "load")])]

/-- Two waits for a load, one of the frame that a page is opened with, and one of the frame that
it has been navigated to. The second one is armed while the navigation is being delivered. -/
def renavigated : Staggered where
  start := .initial [] .none
  beats :=
    [.whole (.newScope none), .whole (.openPage (some ⟨"S"⟩) (some ⟨"OLD"⟩)),
      .whole (.armMilestone 0 ⟨0, none⟩ "load"), .whole (.listen 0 0 "log")] ++
    (renavigation.take 1).map (fun n => .start 0 (Event.decode n.1 n.2)) ++
    [.whole (.armMilestone 0 ⟨0, none⟩ "load"), .turn 0, .turn 0] ++
    (renavigation.drop 1).map (fun n => .whole (.deliver 0 (Event.decode n.1 n.2)))

theorem renavigated_admissible : renavigated.Admissible := by
  refine admissible_of_admits ⟨?_, ?_, ?_, ?_, nofun, ?_, nofun, nofun, ?_, ?_, trivial⟩
  all_goals
    rintro t ht
    cases ht
  · trivial
  · trivial
  · exact ⟨by decide, by decide, nofun⟩
  · trivial
  · exact ⟨by decide, by decide, by decide⟩
  · trivial
  · trivial

theorem frame_tracked_renavigated : renavigated.Admissible ∧ renavigated.TracksFrame 0 ∧
    renavigated.fed 0 2 10 = renavigation.map (fun n => Event.decode n.1 n.2) ∧
      (renavigated.world 2).currentFrame 0 = some ⟨"OLD"⟩ ∧
        (renavigated.world 10).currentFrame 0 = some ⟨"NEW"⟩ ∧
          (renavigated.world 10).barriers.map (·.matched) = [true, false] :=
  ⟨renavigated_admissible, frame_tracked renavigated_admissible 0, rfl, rfl, rfl, rfl⟩

end Staggered

end PagePilot
