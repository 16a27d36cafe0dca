import PagePilot.Proofs.Wire.Event
/-!
# PagePilot.Proofs.Wire.MainFrame

Which events make a frame the main one of a page, by what came on the wire: those with the
method of navigations, and with parameters that read as a navigation of a frame without a
parent (`Event.mainFrame?_decode`). A frame has no parent when its parent is left out or
`null`, in an object as in an array (`Frame.parentId_eq_none_iff`). So every other event, a
navigation below the main frame and one that does not read as such among them, makes no frame
the main one.
-/

namespace PagePilot

/-- The item of an array at a position, unless it is `null`. -/
def Json.givenAt? (position : Nat) (items : List Json) : Option Json :=
  match items[position]? with
  | none | some .null => none
  | some j => some j

namespace Wire

/-- What stands for the parent of a frame on the wire, unless it is `null`. -/
def Frame.givenParent? : Json → Option Json
  | .object members => Json.given? "parentId" members
  | .array items => Json.givenAt? 1 items
  | _ => none

/-- What stands for the frame of a navigation on the wire. -/
def FrameNavigated.givenFrame? : Json → Option Json
  | .object members => Json.lookup "frame" members
  | .array items => items[0]?
  | _ => none

/-! ### Frames -/

theorem Decoder.option_eq_none_iff {decode : Decoder α} {j : Json} {o : Option α}
    (h : decode.option j = .ok o) : o = none ↔ j = .null := by
  by_cases hj : j = .null
  · subst hj
    cases h
    simp
  · rw [option_of_ne hj] at h
    cases hread : decode j with
    | error e => rw [hread] at h; cases h
    | ok a =>
      rw [hread] at h
      cases h
      simp [hj]

/-- An option is read as none when nothing was given for it. -/
theorem Field.eq_none_of_read {name : String} {decode : Decoder α}
    {members : List (String × Json)} {o : Option α}
    (h : (omittable name decode).read members = .ok o) :
    o = none ↔ Json.given? name members = none := by
  have hread := read_optional.mp (read_omittable.mp h)
  cases hgiven : Json.given? name members with
  | none => simpa [hgiven] using hread
  | some j =>
    obtain ⟨v, -, rfl⟩ : ∃ v, decode j = .ok v ∧ o = some v := by simpa [hgiven] using hread
    simp

/-- A frame is without a parent when the browser gave none, by leaving it out or by `null`. -/
theorem Frame.parentId_eq_none_iff {j : Json} {frame : Frame} (h : Frame.decode j = .ok frame) :
    frame.parentId = none ↔ givenParent? j = none := by
  cases j with
  | object members =>
    obtain ⟨⟨id, parentId, vs⟩, ⟨-, hparent, -⟩, rfl⟩ :=
      record.readFrom_of_decode ⟨by decide, by decide⟩ h
    exact Field.eq_none_of_read hparent
  | array items =>
    obtain ⟨⟨id, parentId, vs⟩, rfl, hitems⟩ := record.decode_array_eq_ok.mp h
    show parentId = none ↔ Json.givenAt? 1 items = none
    match items with
    | [] => cases hitems
    | [j] =>
      -- An array that ends here has no address.
      obtain ⟨-, hrest⟩ := Values.ofItems_cons_eq_ok.mp hitems
      cases hrest
    | j :: parent :: items =>
      obtain ⟨-, hrest⟩ := Values.ofItems_cons_eq_ok.mp hitems
      obtain ⟨hparent, -⟩ := Values.ofItems_cons_eq_ok.mp hrest
      refine (Decoder.option_eq_none_iff hparent).trans ?_
      cases parent <;> simp [Json.givenAt?]
  | null | bool | int | double | string => cases h

/-- The frame of a navigation is what its member reads as. -/
theorem FrameNavigated.frame_of_decode {params : Json} {navigated : FrameNavigated}
    (h : FrameNavigated.decode params = .ok navigated) :
    ∃ j, givenFrame? params = some j ∧ Frame.decode j = .ok navigated.frame := by
  cases params with
  | object members =>
    obtain ⟨⟨frame, ⟨⟩⟩, ⟨hframe, -⟩, rfl⟩ := record.readFrom_of_decode ⟨by decide, by decide⟩ h
    exact Field.read_required.mp hframe
  | array items =>
    obtain ⟨⟨frame, ⟨⟩⟩, rfl, hitems⟩ := record.decode_array_eq_ok.mp h
    match items with
    | [] => cases hitems
    | j :: items =>
      obtain ⟨hframe, -⟩ := Values.ofItems_cons_eq_ok.mp hitems
      exact ⟨j, rfl, hframe⟩
  | null | bool | int | double | string => cases h

/-- So the frame of a navigation is without a parent when none was given for it. -/
theorem FrameNavigated.parentId_eq_none_iff {params : Json} {navigated : FrameNavigated}
    (h : FrameNavigated.decode params = .ok navigated) :
    navigated.frame.parentId = none ↔ (givenFrame? params).bind Frame.givenParent? = none := by
  obtain ⟨j, hj, hread⟩ := frame_of_decode h
  rw [hj]
  exact Frame.parentId_eq_none_iff hread

/-! ### Events -/

namespace Event

variable {method : String} {params : Json} {event : Event} {frame : FrameId} {name : String}

/-- What is read as an event with a type. -/
theorem decode_eq_iff (h : event.isTyped = true) :
    decode method params = event ↔ event.method = method ∧ event.Payload params := by
  rw [← typed?_eq_some]
  unfold decode
  cases typed? method params with
  | some e => simp
  | none =>
    simp only [Option.getD_none, reduceCtorEq, iff_false]
    rintro rfl
    cases h

/-- An event makes a frame the main one when it is a navigation of a frame to which the browser
gave no parent. -/
theorem mainFrame?_decode : (decode method params).mainFrame? = some frame ↔
    method = frameNavigatedMethod ∧ ∃ navigated, FrameNavigated.decode params = .ok navigated ∧
      navigated.frame.id = frame ∧
        (FrameNavigated.givenFrame? params).bind Frame.givenParent? = none := by
  constructor
  · intro h
    cases hevent : decode method params with
    | lifecycle | loadEventFired | domContentEventFired | other => simp [hevent, mainFrame?] at h
    | frameNavigated navigated =>
      simp only [hevent, mainFrame?, Frame.isMain, Option.isNone_iff_eq_none,
        Option.ite_none_right_eq_some, Option.some.injEq] at h
      obtain ⟨hparent, hframe⟩ := h
      obtain ⟨rfl, hpayload⟩ := (decode_eq_iff rfl).mp hevent
      cases hpayload with
      | frameNavigated hdecode =>
        exact ⟨rfl, navigated, hdecode, hframe,
          (FrameNavigated.parentId_eq_none_iff hdecode).mp hparent⟩
  · rintro ⟨rfl, navigated, hdecode, rfl, hnone⟩
    have hparent := (FrameNavigated.parentId_eq_none_iff hdecode).mpr hnone
    have hevent : decode frameNavigatedMethod params = .frameNavigated navigated :=
      (decode_eq_iff rfl).mpr ⟨rfl, .frameNavigated hdecode⟩
    simp [hevent, mainFrame?, Frame.isMain, hparent]

end Event

end Wire

end PagePilot
