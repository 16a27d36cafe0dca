import PagePilot.Proofs.Wire.FrameTree
import PagePilot.Proofs.Wire.Visit
import PagePilot.Wire.Command
import PagePilot.Wire.Event
import PagePilot.Wire.Message
import PagePilot.Wire.VersionInfo
/-!
# PagePilot.Proofs.Wire.ForwardCompatible

A browser may say more than the program knows of. Wherever a record is read from an object, a
member under a key that is none of the record's makes no difference, and neither does `null`
for an option that could be left out (`wire_forwardCompatible`). The reading comes to the same
value, or fails for the same reason.

Where a record is read inside another value is a `Position`. What is read around it depends on
no more than what the record is read as there, and on whether it is an object, an array or
which scalar (`Position.congr`). A message is tried as an answer and then as a notice, so a key
must be unknown to both, and the place of a refusal must mean nothing to a notice.
-/

namespace PagePilot.Wire

/-! ### Positions -/

/-- Where a value is read by `part` when one around it is read by `whole`: `plug` puts the inner
value into the outer one. Values that are taken as they are have no positions in them. -/
inductive Position {β : Type} (part : Decoder β) :
    {α : Type} → Decoder α → (Json → Json) → Prop
  | here : Position part part fun j => j
  /-- A member of an object that is read as a record. -/
  | member {α : Type} {r : Record α} {f : Field} {plug : Json → Json} {key : String}
      (before after : List (String × Json)) (hf : Field.ofKey? r.fields key = some f)
      (h : Position part f.decode plug) :
      Position part r.decode fun j => .object (before ++ (key, plug j) :: after)
  /-- An item of an array that is read as a record. -/
  | item {α : Type} {r : Record α} {f : Field} {plug : Json → Json} (before after : List Json)
      (hf : r.fields[before.length]? = some f) (h : Position part f.decode plug) :
      Position part r.decode fun j => .array (before ++ plug j :: after)
  /-- An element of a list. -/
  | element {α : Type} {d : Decoder α} {plug : Json → Json} (before after : List Json)
      (h : Position part d plug) :
      Position part d.list fun j => .array (before ++ plug j :: after)
  /-- The value of an option. -/
  | given {α : Type} {d : Decoder α} {plug : Json → Json} (h : Position part d plug) :
      Position part d.option plug
  /-- A tree is the record that `FrameTree.decode_eq` says. -/
  | tree {plug : Json → Json}
      (h : Position part (FrameTree.record FrameTree.decode).decode plug) :
      Position part FrameTree.decode plug
  /-- The refusal in a message, among the members of an object, -/
  | refusalMember {plug : Json → Json} (before after : List (String × Json))
      (h : Position part ErrorPayload.decode plug) :
      Position part Message.decode fun j => .object (before ++ ("error", plug j) :: after)
  /-- or as the third item of an array. -/
  | refusalItem {plug : Json → Json} (id result : Json) (after : List Json)
      (h : Position part ErrorPayload.decode plug) :
      Position part Message.decode fun j => .array (id :: result :: plug j :: after)

theorem Decoder.items_append_congr {d : Decoder α} {j j' : Json} (h : d j' = d j)
    (before after : List Json) :
    Decoder.items d (before ++ j' :: after) = Decoder.items d (before ++ j :: after) := by
  induction before with
  | nil => rw [List.nil_append, List.nil_append, Decoder.items, Decoder.items, h]
  | cons i before ih => rw [List.cons_append, List.cons_append, Decoder.items, Decoder.items, ih]

/-- A reader of texts looks at nothing but the shape of a value. -/
theorem SessionId.decode_congr {j j' : Json} (h : Shape.of j' = Shape.of j) :
    SessionId.decode j' = SessionId.decode j := by
  cases j <;> cases j' <;> cases h <;> rfl

theorem Shape.of_eq_null {j : Json} : Shape.of j = .null ↔ j = .null := by
  cases j <;> simp [Shape.of]

theorem Decoder.option_congr {d : Decoder α} {j j' : Json} (hshape : Shape.of j' = Shape.of j)
    (h : d j' = d j) : d.option j' = d.option j := by
  have hnull : j' = .null ↔ j = .null := by
    rw [← Shape.of_eq_null, ← Shape.of_eq_null, hshape]
  by_cases hj : j = .null
  · rw [hj, hnull.mpr hj]
  · rw [option_of_ne hj, option_of_ne fun hj' => hj (hnull.mp hj'), h]

theorem Message.decode_congr {j j' : Json} (hr : Response.decode j' = Response.decode j)
    (he : EventMessage.decode j' = EventMessage.decode j) :
    Message.decode j' = Message.decode j := by
  unfold Message.decode
  rw [hr, he]

/-- Two values of the same shape that are read as the same, or refused for the same reason, are
worth the same in every position. -/
theorem Position.congr {part : Decoder β} {whole : Decoder α} {plug : Json → Json}
    (hposition : Position part whole plug) {j j' : Json} (hshape : Shape.of j' = Shape.of j)
    (h : part j' = part j) :
    Shape.of (plug j') = Shape.of (plug j) ∧ whole (plug j') = whole (plug j) := by
  induction hposition with
  | here => exact ⟨hshape, h⟩
  | member before after hf _ ih => exact ⟨rfl, Record.decode_member _ hf ih.2⟩
  | item before after hf _ ih => exact ⟨rfl, Record.decode_item _ before hf ih.2⟩
  | element before after _ ih => exact ⟨rfl, Decoder.items_append_congr ih.2 before after⟩
  | given _ ih => exact ⟨ih.1, Decoder.option_congr ih.1 ih.2⟩
  | tree _ ih =>
    rw [FrameTree.decode_eq, FrameTree.decode_eq]
    exact ih
  | refusalMember before after _ ih =>
    -- An answer reads the refusal; a notice has no such member.
    have hunknown : ∀ f ∈ EventMessage.record.fields, f.knows "error" = false := by decide
    refine ⟨rfl, Message.decode_congr ?_ ?_⟩
    · exact Response.record.decode_member rfl (Decoder.option_congr ih.1 ih.2)
    · exact (EventMessage.record.decode_unknown hunknown).trans
        (EventMessage.record.decode_unknown hunknown).symm
  | refusalItem id result after _ ih =>
    -- An answer reads the refusal; a notice wants a session there.
    refine ⟨rfl, Message.decode_congr ?_ ?_⟩
    · exact Response.record.decode_item [id, result] rfl
        (Decoder.option_congr ih.1 ih.2)
    · exact EventMessage.record.decode_item [id, result] rfl
        (Decoder.option_congr ih.1 (SessionId.decode_congr ih.1))

/-! ### Records in any position -/

/-- The fields that are options. -/
inductive Field.IsOption : Field → Prop
  | optional {α : Type} (name : String) (decode : Decoder α) : IsOption (.optional name decode)
  | omittable {α : Type} (name : String) (decode : Decoder α) : IsOption (.omittable name decode)

theorem Field.IsOption.nullAsAbsent {f : Field} (h : f.IsOption) : f.NullAsAbsent := by
  cases h with
  | optional name decode => exact ⟨none, rfl, rfl⟩
  | omittable name decode => exact ⟨none, rfl, rfl⟩

/-- What a browser may add to an object, or leave out of it, that is read by `part` as a record
with the given fields, at any position in any value. -/
structure ForwardCompatible (part : Decoder β) (fields : List Field) : Prop where
  /-- A member under a key that is none of the record's can come or go. -/
  unknown : ∀ {α : Type} {whole : Decoder α} {plug : Json → Json}, Position part whole plug →
    ∀ before after key value, (∀ f ∈ fields, f.knows key = false) →
      whole (plug (.object (before ++ (key, value) :: after))) =
        whole (plug (.object (before ++ after)))
  /-- `null` for an option can come or go. -/
  null : ∀ {α : Type} {whole : Decoder α} {plug : Json → Json}, Position part whole plug →
    ∀ f ∈ fields, f.IsOption → ∀ before after, (∀ m ∈ before ++ after, f.knows m.1 = false) →
      whole (plug (.object (before ++ (f.name, .null) :: after))) =
        whole (plug (.object (before ++ after)))

/-- It is enough to look at the record itself. -/
theorem ForwardCompatible.of_object {part : Decoder β} {fields : List Field}
    (hunknown : ∀ before after key value, (∀ f ∈ fields, f.knows key = false) →
      part (.object (before ++ (key, value) :: after)) = part (.object (before ++ after)))
    (hnull : ∀ f ∈ fields, f.IsOption → ∀ before after,
      (∀ m ∈ before ++ after, f.knows m.1 = false) →
        part (.object (before ++ (f.name, .null) :: after)) = part (.object (before ++ after))) :
    ForwardCompatible part fields where
  unknown hposition before after key value h :=
    (hposition.congr (by rfl) (hunknown before after key value h)).2
  null hposition f hf hoption before after h :=
    (hposition.congr (by rfl) (hnull f hf hoption before after h)).2

/-- No name of a field is a key of an earlier one. -/
def Field.Separate (fs : List Field) : Prop :=
  fs.Pairwise fun g f => g.knows f.name = false

theorem Field.Separate.ofKey? {fs : List Field} (h : Field.Separate fs) {f : Field}
    (hf : f ∈ fs) : Field.ofKey? fs f.name = some f := by
  have hself : f.knows f.name = true := by simp [knows]
  induction fs with
  | nil => cases hf
  | cons g fs ih =>
    obtain ⟨hg, hfs⟩ := List.pairwise_cons.mp h
    rcases List.mem_cons.mp hf with rfl | hf
    · simp [Field.ofKey?, hself]
    · have hrest := ih hfs hf
      simpa [Field.ofKey?, hg f hf] using hrest

theorem Record.forwardCompatible (r : Record α) (h : Field.Separate r.fields) :
    ForwardCompatible r.decode r.fields :=
  .of_object (fun _ _ _ _ hkey => r.decode_unknown hkey)
    fun _ hf hoption _ _ hothers => r.decode_null (h.ofKey? hf) hoption.nullAsAbsent hothers

instance (fs : List Field) : Decidable (Field.Separate fs) :=
  inferInstanceAs (Decidable (fs.Pairwise _))

theorem FrameTree.forwardCompatible :
    ForwardCompatible FrameTree.decode (FrameTree.record FrameTree.decode).fields := by
  have hrecord := (FrameTree.record FrameTree.decode).forwardCompatible (by decide)
  have hdecode : (FrameTree.record FrameTree.decode).decode = FrameTree.decode :=
    (funext FrameTree.decode_eq).symm
  rwa [hdecode] at hrecord

/-- A message is an answer or a notice, and reads the keys of both. -/
theorem Message.forwardCompatible :
    ForwardCompatible Message.decode (Response.record.fields ++ EventMessage.record.fields) := by
  refine .of_object (fun before after key value h => ?_) fun f hf hoption before after h => ?_
  · exact decode_congr
      (Response.record.decode_unknown fun f hf => h f (List.mem_append_left _ hf))
      (EventMessage.record.decode_unknown fun f hf => h f (List.mem_append_right _ hf))
  · have hanswer : ∀ f ∈ Response.record.fields, ∀ g ∈ EventMessage.record.fields,
        g.knows f.name = false ∧ f.knows g.name = false := by decide
    rcases List.mem_append.mp hf with hf | hf
    · exact decode_congr
        (Response.record.decode_null (Field.Separate.ofKey? (by decide) hf) hoption.nullAsAbsent h)
        (EventMessage.record.decode_unknown fun g hg => (hanswer f hf g hg).1)
    · exact decode_congr (Response.record.decode_unknown fun g hg => (hanswer g hg f hf).2)
        (EventMessage.record.decode_null (Field.Separate.ofKey? (by decide) hf)
          hoption.nullAsAbsent h)

/-! ### All records -/

/-- Every record that is read may have more members than the program knows of, and `null` for
options that it could leave out. -/
structure ForwardCompatibility : Prop where
  frame : ForwardCompatible Frame.decode Frame.record.fields
  frameTree : ForwardCompatible FrameTree.decode (FrameTree.record FrameTree.decode).fields
  navigationEntry : ForwardCompatible NavigationEntry.decode NavigationEntry.record.fields
  viewport : ForwardCompatible Viewport.decode Viewport.record.fields
  remoteObject : ForwardCompatible RemoteObject.decode RemoteObject.record.fields
  exceptionDetails : ForwardCompatible ExceptionDetails.decode ExceptionDetails.record.fields
  targetInfo : ForwardCompatible TargetInfo.decode TargetInfo.record.fields
  lifecycleEvent : ForwardCompatible LifecycleEvent.decode LifecycleEvent.record.fields
  frameNavigated : ForwardCompatible FrameNavigated.decode FrameNavigated.record.fields
  timestamped : ForwardCompatible Timestamped.decode Timestamped.record.fields
  nothing : ForwardCompatible Nothing.decode Nothing.record.fields
  navigateReply : ForwardCompatible NavigateReply.decode NavigateReply.record.fields
  navigationHistory : ForwardCompatible NavigationHistory.decode NavigationHistory.record.fields
  frameTreeReply : ForwardCompatible frameTreeReply [.required "frameTree" FrameTree.decode]
  screenshotReply : ForwardCompatible screenshotReply [.required "data" Decoder.text]
  attachReply : ForwardCompatible attachReply [.required "sessionId" SessionId.decode]
  targetsReply : ForwardCompatible targetsReply
    [.required "targetInfos" (Decoder.list TargetInfo.decode)]
  evaluateReply : ForwardCompatible EvaluateReply.decode EvaluateReply.record.fields
  versionInfo : ForwardCompatible VersionInfo.decode VersionInfo.record.fields
  request : ForwardCompatible Request.decode Request.record.fields
  response : ForwardCompatible Response.decode Response.record.fields
  errorPayload : ForwardCompatible ErrorPayload.decode ErrorPayload.record.fields
  eventMessage : ForwardCompatible EventMessage.decode EventMessage.record.fields
  /-- For a message a key counts when it is one of an answer or of a notice. -/
  message : ForwardCompatible Message.decode
    (Response.record.fields ++ EventMessage.record.fields)

theorem wire_forwardCompatible : ForwardCompatibility where
  frame := Frame.record.forwardCompatible (by decide)
  frameTree := FrameTree.forwardCompatible
  navigationEntry := NavigationEntry.record.forwardCompatible (by decide)
  viewport := Viewport.record.forwardCompatible (by decide)
  remoteObject := RemoteObject.record.forwardCompatible (by decide)
  exceptionDetails := ExceptionDetails.record.forwardCompatible (by decide)
  targetInfo := TargetInfo.record.forwardCompatible (by decide)
  lifecycleEvent := LifecycleEvent.record.forwardCompatible (by decide)
  frameNavigated := FrameNavigated.record.forwardCompatible (by decide)
  timestamped := Timestamped.record.forwardCompatible (by decide)
  nothing := Nothing.record.forwardCompatible (by decide)
  navigateReply := NavigateReply.record.forwardCompatible (by decide)
  navigationHistory := NavigationHistory.record.forwardCompatible (by decide)
  frameTreeReply := Record.forwardCompatible _ (by decide)
  screenshotReply := Record.forwardCompatible _ (by decide)
  attachReply := Record.forwardCompatible _ (by decide)
  targetsReply := Record.forwardCompatible _ (by decide)
  evaluateReply := EvaluateReply.record.forwardCompatible (by decide)
  versionInfo := VersionInfo.record.forwardCompatible (by decide)
  request := Request.record.forwardCompatible (by decide)
  response := Response.record.forwardCompatible (by decide)
  errorPayload := ErrorPayload.record.forwardCompatible (by decide)
  eventMessage := EventMessage.record.forwardCompatible (by decide)
  message := Message.forwardCompatible

/-- Such a position is an entry of a listing. -/
example : Position TargetInfo.decode targetsReply
    fun j => .object [("targetInfos", .array [j])] :=
  .member [] [] rfl (.element [] [] .here)

end PagePilot.Wire
