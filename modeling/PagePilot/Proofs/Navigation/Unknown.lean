import PagePilot.Proofs.Barrier.Outcome
import PagePilot.Proofs.Navigation.Tracking
/-!
# PagePilot.Proofs.Navigation.Unknown

Waits for a milestone that are armed while no frame of the page is known. The empty id stands for
the frame then, and ids are only compared for equality. So the one thing that matches such a wait
is a milestone which the browser reports with an empty id; none other does, whatever the page is
navigated to later. As long as the browser reports no milestone in this way, the wait goes on until
its context ends (`Staggered.unknown_awaited`).
-/

namespace PagePilot

open Wire

/-! ### Empty ids on the wire -/

namespace Wire

/-- What stands for the frame of a milestone on the wire. -/
def LifecycleEvent.givenFrame? : Json → Option Json
  | .object members => Json.lookup "frameId" members
  | .array items => items[0]?
  | _ => none

theorem FrameId.decode_eq_ok {j : Json} {frame : FrameId} :
    FrameId.decode j = .ok frame ↔ j = frame.toJson := by
  obtain ⟨text⟩ := frame
  cases j <;> simp [FrameId.decode, FrameId.toJson, Decoder.text, Except.map]

/-- The frame of a milestone is the text that the browser gave, in an object as in an array. -/
theorem LifecycleEvent.givenFrame?_of_decode {params : Json} {e : LifecycleEvent}
    (h : LifecycleEvent.decode params = .ok e) : givenFrame? params = some e.frameId.toJson := by
  cases params with
  | object members =>
    obtain ⟨⟨frameId, rest⟩, ⟨hframe, -⟩, rfl⟩ := record.readFrom_of_decode ⟨by decide, by decide⟩ h
    obtain ⟨j, hj, hread⟩ := Field.read_required.mp hframe
    rw [FrameId.decode_eq_ok.mp hread] at hj
    exact hj
  | array items =>
    obtain ⟨⟨frameId, rest⟩, rfl, hitems⟩ := record.decode_array_eq_ok.mp h
    match items with
    | [] => cases hitems
    | j :: items =>
      obtain ⟨hframe, -⟩ := Values.ofItems_cons_eq_ok.mp hitems
      exact congrArg some (FrameId.decode_eq_ok.mp hframe)
  | null | bool | int | double | string => cases h

/-- A notice that is read as a milestone has the method of milestones, and gives the frame. -/
theorem Event.given_of_decode {method : String} {params : Json} {e : LifecycleEvent}
    (h : decode method params = .lifecycle e) :
    method = lifecycleMethod ∧ LifecycleEvent.givenFrame? params = some e.frameId.toJson := by
  obtain ⟨hmethod, hpayload⟩ := (decode_eq_iff rfl).mp h
  cases hpayload with
  | lifecycle hdecode => exact ⟨hmethod.symm, LifecycleEvent.givenFrame?_of_decode hdecode⟩

end Wire

/-! ### Pages without a known frame -/

namespace Staggered

/-- No milestone is reported with an empty frame id. -/
def NamesFrames (notices : List (String × Json)) : Prop :=
  ∀ n ∈ notices, n.1 = "Page.lifecycleEvent" →
    LifecycleEvent.givenFrame? n.2 ≠ some (.string "")

/-- The events that stand for some notices. -/
def eventsOf (notices : List (String × Json)) : List Event :=
  notices.map fun n => Event.decode n.1 n.2

variable {r : Staggered} {m k s i j : Nat} {key : BarrierKey} {page : PageKey} {ctx : Context}
  {milestone : String} {event : Event} {notices : List (String × Json)}

/-- What reaches a page between two positions is in its feed. -/
theorem Dispatches.mem_fed (h : r.Dispatches s page event) (his : i ≤ s) (hsj : s < j) :
    event ∈ r.fed page i j := by
  have hs : s ∈ List.range' i (j - i) := List.mem_range'_1.mpr ⟨his, by omega⟩
  exact List.mem_filterMap.mpr ⟨s, hs, fed?_eq_some.mpr h⟩

/-- Where all milestones name their frames, there is none of the unknown frame. -/
theorem NamesFrames.frameId_ne (h : NamesFrames notices) {e : LifecycleEvent}
    (he : .lifecycle e ∈ eventsOf notices) : e.frameId ≠ .unknown := by
  intro hunknown
  obtain ⟨n, hn, hdecode⟩ := List.mem_map.mp he
  obtain ⟨hmethod, hgiven⟩ := Event.given_of_decode hdecode
  rw [hunknown] at hgiven
  exact h n hn hmethod hgiven

/-- The wait is for the milestone of the frame with the empty id. -/
theorem ArmsMilestone.arms_unknown (h : r.ArmsMilestone m key page ctx milestone)
    (hunknown : (r.world m).frameOf page = .unknown) :
    r.Arms m key ⟨page, ctx, Event.isMilestone .unknown milestone⟩ := by
  have harms := h.arms_frame
  rwa [← World.frameOf_eq, hunknown] at harms

/-- What matches the wait is the milestone of the frame with the empty id. -/
theorem ArmsMilestone.matched_unknown (hr : r.Admissible)
    (h : r.ArmsMilestone m key page ctx milestone)
    (hunknown : (r.world m).frameOf page = .unknown) (hmk : m < k) :
    r.Matched k key ↔ ∃ s d e scope, m < s ∧ d < k ∧ r.Dispatches s page (.lifecycle e) ∧
      r.Turn s d page (.lifecycle e)
        ⟨scope, .barrier key (Event.isMilestone .unknown milestone)⟩ ∧
      e.name = milestone ∧ e.frameId = .unknown ∧ ¬ r.Freed d key ctx := by
  rw [matched_iff hr (h.arms_unknown hunknown) hmk]
  constructor
  · rintro ⟨s, d, event, hms, hdk, hdispatches, ⟨scope, hturn⟩, hwanted, hunfreed⟩
    obtain ⟨e, rfl, hname, hframe⟩ := Event.isMilestone_eq_true.mp hwanted
    exact ⟨s, d, e, scope, hms, hdk, hdispatches, hturn, hname, hframe, hunfreed⟩
  · rintro ⟨s, d, e, scope, hms, hdk, hdispatches, hturn, hname, hframe, hunfreed⟩
    exact ⟨s, d, .lifecycle e, hms, hdk, hdispatches, ⟨scope, hturn⟩,
      Event.isMilestone_eq_true.mpr ⟨e, rfl, hname, hframe⟩, hunfreed⟩

/-- Notices in which all milestones name their frames do not match it. -/
theorem ArmsMilestone.not_matched_unknown (hr : r.Admissible)
    (h : r.ArmsMilestone m key page ctx milestone)
    (hunknown : (r.world m).frameOf page = .unknown) (hmk : m < k)
    (hfed : r.fed page (m + 1) k = eventsOf notices) (hnames : NamesFrames notices) :
    ¬ r.Matched k key := by
  intro hmatched
  obtain ⟨s, d, e, scope, hms, hdk, hdispatches, hturn, -, hframe, -⟩ :=
    (h.matched_unknown hr hunknown hmk).mp hmatched
  have hmem : Event.lifecycle e ∈ r.fed page (m + 1) k :=
    hdispatches.mem_fed hms (Nat.lt_of_le_of_lt hturn.le hdk)
  exact hnames.frameId_ne (hfed ▸ hmem) hframe

/-- Who waits for a barrier that is not matched learns of the end of its context. -/
theorem perform_awaitMatch_of_not_matched (hr : r.Admissible) {a : Arming} (ha : r.Arms m key a)
    (hmk : m < k) (hnot : ¬ r.Matched k key) (task : TaskId) :
    (r.world k).perform task (.awaitMatch key) =
      ((r.world k).toldEndOf a.ctx).map fun e => (.error e, r.world k) := by
  obtain ⟨scope, hplace⟩ := ha.place hr hmk
  obtain ⟨x, hx, -, hctx⟩ := World.barrier_of_place? hplace
  have hmatched : x.matched = false :=
    Bool.eq_false_iff.mpr fun h => hnot ((matched_iff_of_barrier hx).mpr h)
  have houtcome : (r.world k).barrierOutcome key = ((r.world k).toldEndOf a.ctx).map .error := by
    unfold World.barrierOutcome
    simp [hx, hmatched, hctx]
  show ((r.world k).barrierOutcome key).map (·, r.world k) = _
  rw [houtcome, Option.map_map]
  rfl

/-! ### All together -/

variable (r) in
/-- What comes of a wait for a milestone that is armed at `m` while no frame is known. -/
structure AwaitsUnknown (m : Nat) (key : BarrierKey) (page : PageKey) (ctx : Context)
    (milestone : String) : Prop where
  /-- It is matched when that milestone is reported with an empty frame id, and its listener has
  its turn before it is freed. -/
  matched : ∀ k, m < k → (r.Matched k key ↔ ∃ s d e scope, m < s ∧ d < k ∧
    r.Dispatches s page (.lifecycle e) ∧
    r.Turn s d page (.lifecycle e) ⟨scope, .barrier key (Event.isMilestone .unknown milestone)⟩ ∧
    e.name = milestone ∧ e.frameId = .unknown ∧ ¬ r.Freed d key ctx)
  /-- No other notices match it, main navigations and the milestones of all other frames among
  them. -/
  unmatched : ∀ k notices, m < k → r.fed page (m + 1) k = eventsOf notices → NamesFrames notices →
    ¬ r.Matched k key
  /-- All that one learns then by waiting is the error of the context, when that has ended. -/
  ends : ∀ k notices task, m < k → r.fed page (m + 1) k = eventsOf notices → NamesFrames notices →
    (r.world k).perform task (.awaitMatch key) =
      ((r.world k).toldEndOf ctx).map fun e => (.error e, r.world k)

/-- In every staggered run a wait that is armed while no frame is known is for milestones that are
reported with an empty id. -/
theorem unknown_awaited (hr : r.Admissible) (harms : r.ArmsMilestone m key page ctx milestone)
    (hunknown : (r.world m).frameOf page = .unknown) :
    r.AwaitsUnknown m key page ctx milestone where
  matched _ hmk := harms.matched_unknown hr hunknown hmk
  unmatched _ _ hmk hfed hnames := harms.not_matched_unknown hr hunknown hmk hfed hnames
  ends _ _ task hmk hfed hnames := by
    have hnot := harms.not_matched_unknown hr hunknown hmk hfed hnames
    exact perform_awaitMatch_of_not_matched hr (harms.arms_unknown hunknown) hmk hnot task

/-- A wait for a load is armed on a page whose frame is not known. Then the page gets some notices,
and the deadline of the wait comes. -/
def unlocated (notices : List (String × Json)) : Staggered where
  start := .initial [] .none
  beats :=
    .whole (.newScope none) :: .whole (.openPage (some ⟨"S"⟩) none) ::
      .whole (.armMilestone 0 ⟨0, some 5⟩ "load") ::
        ((eventsOf notices).map (fun event => .whole (.deliver 0 event)) ++
          [.whole (.tick 5), .whole .serve])

theorem unlocated_admissible (notices : List (String × Json)) :
    (unlocated notices).Admissible := by
  refine ⟨⟨_, _, rfl⟩, ?_⟩
  rintro (_ | _ | _ | k) t ht
  · cases ht
    trivial
  · cases ht
    trivial
  · cases ht
    exact ⟨Nat.zero_lt_one, Nat.zero_lt_succ _, nofun⟩
  · -- What comes after the arming can be done in any world.
    have hmem : Beat.whole t ∈ _ ++ _ := List.mem_of_getElem? ht
    rcases List.mem_append.mp hmem with hdeliver | hend
    · obtain ⟨event, -, heq⟩ := List.mem_map.mp hdeliver
      cases heq
      trivial
    · simp only [List.mem_cons, Beat.whole.injEq, List.not_mem_nil, or_false] at hend
      rcases hend with rfl | rfl <;> trivial

theorem unlocated_arms (notices : List (String × Json)) :
    (unlocated notices).ArmsMilestone 2 0 0 ⟨0, some 5⟩ "load" where
  arms := .inl ⟨rfl, rfl⟩
  there := Nat.zero_lt_one

/-- The page is navigated, and the frame that it has then is loaded. -/
def located : List (String × Json) :=
  [("Page.frameNavigated", .object [("frame", .object
      [("id", .string "NEW"), ("url", .string "http://b/")])]),
    ("Page.lifecycleEvent", .object [("frameId", .string "NEW"), ("name", .string "load")])]

/-- A load is reported with an empty frame id. -/
def blankLoad : List (String × Json) :=
  [("Page.lifecycleEvent", .object [("frameId", .string ""), ("name", .string "load")])]

theorem located_namesFrames : NamesFrames located := by
  simp [NamesFrames, located, LifecycleEvent.givenFrame?, Json.lookup]

theorem unknown_awaited_located : (unlocated located).Admissible ∧
    (unlocated located).ArmsMilestone 2 0 0 ⟨0, some 5⟩ "load" ∧
      ((unlocated located).world 2).frameOf 0 = .unknown ∧
        (unlocated located).AwaitsUnknown 2 0 0 ⟨0, some 5⟩ "load" ∧
          (unlocated located).fed 0 3 7 = eventsOf located ∧ NamesFrames located ∧
            ((unlocated located).world 7).currentFrame 0 = some ⟨"NEW"⟩ ∧
              ((unlocated located).world 7).barrierOutcome 0 = some (.error .deadlineExceeded) :=
  ⟨unlocated_admissible _, unlocated_arms _, rfl,
    unknown_awaited (unlocated_admissible _) (unlocated_arms _) rfl, rfl,
    located_namesFrames, rfl, rfl⟩

theorem blankLoad_matches : (unlocated blankLoad).Admissible ∧
    (unlocated blankLoad).ArmsMilestone 2 0 0 ⟨0, some 5⟩ "load" ∧
      ((unlocated blankLoad).world 2).currentFrame 0 = none ∧ (unlocated blankLoad).Matched 4 0 ∧
        ((unlocated blankLoad).world 4).barrierOutcome 0 = some (.ok ()) :=
  ⟨unlocated_admissible _, unlocated_arms _, rfl, ⟨_, rfl, rfl⟩, rfl⟩

end Staggered

end PagePilot
