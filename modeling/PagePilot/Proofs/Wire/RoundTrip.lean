import PagePilot.Proofs.Wire.Attained
import PagePilot.Proofs.Wire.FrameTree
import PagePilot.Wire.Command
/-!
# PagePilot.Proofs.Wire.RoundTrip

What the program writes it can read. Whatever JSON value a value of a wire type was read from,
in an object or an array, with other keys, with defaults and `null`, its wire form is read as
the same value (`wire_roundTrips`). The two forms need not agree: the wire form is always an
object, leaves out options that are none, and has doubles in place of integers where the field
is a double.

Each record goes through its fields: what it was made of (`Record.attained`) is found again in
the members of its wire form. A tree goes by recursion over the trees below it, and a message
by what makes an answer out of a value, its id, which no notice has.
-/

namespace PagePilot.Wire

/-! ### Ids and words -/

theorem FrameId.restores : Restores FrameId.decode FrameId.toJson := fun _ _ _ => rfl

theorem LoaderId.restores : Restores LoaderId.decode LoaderId.toJson := fun _ _ _ => rfl

theorem TargetId.restores : Restores TargetId.decode TargetId.toJson := fun _ _ _ => rfl

theorem SessionId.restores : Restores SessionId.decode SessionId.toJson := fun _ _ _ => rfl

theorem TransitionType.restores : Restores TransitionType.decode TransitionType.toJson := by
  rintro - (_ | _) -
  all_goals rfl

theorem ScreenshotFormat.restores :
    Restores ScreenshotFormat.decode ScreenshotFormat.toJson := by
  rintro - (_ | _) -
  all_goals rfl

/-! ### Frames -/

theorem Frame.restores : Restores Frame.decode Frame.toJson := by
  refine record.restores ⟨by decide, by decide⟩ ?_
  rintro ⟨id, (parentId : Option FrameId), loaderId, (name : Option String), url, -⟩
    ⟨hid, hparent, hloader, hname, hurl, -⟩
  exact ⟨_, rfl, Field.read_required_of_restores FrameId.restores hid (by simp [record]),
    Field.read_omittable_of_restores (FrameId.restores.given nofun) hparent (by simp [record]),
    Field.read_defaulted_of_restores LoaderId.restores rfl hloader (by simp [record]),
    Field.read_omittable_of_restores (Decoder.restores_text.given nofun) hname (by simp [record]),
    Field.read_required_of_restores Decoder.restores_text hurl (by simp [record]), trivial⟩

namespace FrameTree

/-- The wire form of a tree is read when those of the trees below are. A leaf has no member for
them, which stands for none. -/
theorem decode_toJson {frame : Frame} {children : List FrameTree}
    (hframe : Frame.decode frame.toJson = .ok frame)
    (hchildren : Decoder.items decode (toJsonList children) = .ok children) :
    decode (toJson (.node frame children)) = .ok (.node frame children) := by
  have happart : Field.Apart (record decode).fields := ⟨by decide, by decide⟩
  rw [decode_eq]
  cases children with
  | nil =>
    rw [toJson]
    refine ((record decode).decode_object happart (Json.nodup_sortMembers _)).mpr
      ⟨(frame, [], ()), ⟨Field.read_required.mpr ⟨_, by simp, hframe⟩, ?_, trivial⟩, rfl⟩
    exact Field.read_defaulted.mpr (by simp)
  | cons child children =>
    rw [toJson]
    refine ((record decode).decode_object happart (Json.nodup_sortMembers _)).mpr
      ⟨(frame, child :: children, ()), ⟨Field.read_required.mpr ⟨_, by simp, hframe⟩, ?_, trivial⟩,
        rfl⟩
    refine Field.read_defaulted.mpr ?_
    simp only [Json.lookup_sortMembers]
    exact hchildren

mutual
theorem decode_toJson_of_decode : (tree : FrameTree) → (j : Json) → decode j = .ok tree →
    decode tree.toJson = .ok tree
  | .node frame children, j, h => by
    rw [decode_eq] at h
    obtain ⟨⟨frame', (children' : List FrameTree), ⟨⟩⟩, ⟨hframe, hchildren, -⟩, hmake⟩ :=
      (record decode).attained h
    cases hmake
    refine decode_toJson ?_ ?_
    · obtain ⟨i, hi⟩ := hframe.required
      exact Frame.restores i frame hi
    · rcases hchildren with ⟨j, hj⟩ | hnone | hnone
      · obtain ⟨items, rfl, hitems⟩ := Decoder.list_eq_ok hj
        exact items_toJsonList children items hitems
      · cases hnone
        rfl
      · cases hnone
        rfl

theorem items_toJsonList : (trees : List FrameTree) → (items : List Json) →
    Decoder.items decode items = .ok trees → Decoder.items decode (toJsonList trees) = .ok trees
  | [], _, _ => rfl
  | tree :: trees, items, h => by
    obtain ⟨j, rest, rfl, hj, hrest⟩ := Decoder.items_eq_ok_cons h
    rw [toJsonList, Decoder.items, decode_toJson_of_decode tree j hj,
      items_toJsonList trees rest hrest]
    rfl
end

theorem restores : Restores decode toJson := fun j tree h => decode_toJson_of_decode tree j h

end FrameTree

theorem FrameNavigated.restores : Restores FrameNavigated.decode FrameNavigated.toJson := by
  refine record.restores ⟨by decide, by decide⟩ ?_
  rintro ⟨frame, -⟩ ⟨hframe, -⟩
  exact ⟨_, rfl, Field.read_required_of_restores Frame.restores hframe (by simp [record]),
    trivial⟩

/-! ### The session history -/

theorem NavigationEntry.restores : Restores NavigationEntry.decode NavigationEntry.toJson := by
  refine record.restores ⟨by decide, by decide⟩ ?_
  rintro ⟨id, url, typedUrl, title, transition, -⟩ ⟨hid, hurl, htyped, htitle, htransition, -⟩
  exact ⟨_, rfl, Field.read_required_of_restores Decoder.restores_signedWord hid (by simp [record]),
    Field.read_required_of_restores Decoder.restores_text hurl (by simp [record]),
    Field.read_defaulted_of_restores Decoder.restores_text rfl htyped (by simp [record]),
    Field.read_defaulted_of_restores Decoder.restores_text rfl htitle (by simp [record]),
    Field.read_defaulted_of_restores TransitionType.restores rfl htransition (by simp [record]),
    trivial⟩

/-! ### Regions and times -/

theorem Viewport.restores : Restores Viewport.decode Viewport.toJson := by
  refine record.restores ⟨by decide, by decide⟩ ?_
  rintro ⟨x, y, width, height, scale, -⟩ ⟨hx, hy, hwidth, hheight, hscale, -⟩
  exact ⟨_, rfl, Field.read_required_of_restores Decoder.restores_float hx (by simp [record]),
    Field.read_required_of_restores Decoder.restores_float hy (by simp [record]),
    Field.read_required_of_restores Decoder.restores_float hwidth (by simp [record]),
    Field.read_required_of_restores Decoder.restores_float hheight (by simp [record]),
    Field.read_required_of_restores Decoder.restores_float hscale (by simp [record]), trivial⟩

theorem LifecycleEvent.restores : Restores LifecycleEvent.decode LifecycleEvent.toJson := by
  refine record.restores ⟨by decide, by decide⟩ ?_
  rintro ⟨frameId, loaderId, name, timestamp, -⟩ ⟨hframe, hloader, hname, htime, -⟩
  exact ⟨_, rfl, Field.read_required_of_restores FrameId.restores hframe (by simp [record]),
    Field.read_defaulted_of_restores LoaderId.restores rfl hloader (by simp [record]),
    Field.read_required_of_restores Decoder.restores_text hname (by simp [record]),
    Field.read_defaulted_of_restores Decoder.restores_float rfl htime (by simp [record]), trivial⟩

theorem Timestamped.restores : Restores Timestamped.decode Timestamped.toJson := by
  refine record.restores ⟨by decide, by decide⟩ ?_
  rintro ⟨timestamp, -⟩ ⟨htime, -⟩
  exact ⟨_, rfl, Field.read_defaulted_of_restores Decoder.restores_float rfl htime
    (by simp [record]), trivial⟩

theorem Nothing.restores : Restores Nothing.decode fun _ => .empty := fun _ _ _ => rfl

/-! ### Evaluations -/

theorem RemoteObject.restores : Restores RemoteObject.decode RemoteObject.toJson := by
  refine record.restores ⟨by decide, by decide⟩ ?_
  rintro ⟨kind, (subtype : Option String), (value : Option Json), (description : Option String), -⟩
    ⟨hkind, hsubtype, hvalue, hdescription, -⟩
  exact ⟨_, rfl, Field.read_required_of_restores Decoder.restores_text hkind (by simp [record]),
    Field.read_omittable_of_restores (Decoder.restores_text.given nofun) hsubtype
      (by simp [record]),
    Field.read_omittable_of_restores Decoder.restoresGiven_json hvalue (by simp [record]),
    Field.read_omittable_of_restores (Decoder.restores_text.given nofun) hdescription
      (by simp [record]), trivial⟩

theorem ExceptionDetails.restores :
    Restores ExceptionDetails.decode ExceptionDetails.toJson := by
  refine record.restores ⟨by decide, by decide⟩ ?_
  rintro ⟨text, line, column, (exception : Option RemoteObject), -⟩
    ⟨htext, hline, hcolumn, hexception, -⟩
  exact ⟨_, rfl, Field.read_required_of_restores Decoder.restores_text htext (by simp [record]),
    Field.read_defaulted_of_restores Decoder.restores_signedWord rfl hline (by simp [record]),
    Field.read_defaulted_of_restores Decoder.restores_signedWord rfl hcolumn (by simp [record]),
    Field.read_omittable_of_restores (RemoteObject.restores.given nofun) hexception
      (by simp [record]), trivial⟩

/-! ### Targets -/

namespace Slots

variable {f : Field} {fs : List Field} {key : String}

/-- Another key for a field makes no difference to a member that has not this key. -/
theorem put_orKey {k : String} (hne : k ≠ key) (value : Json) (slots : Slots (f :: fs)) :
    put k value (f.orKey key :: fs) slots = put k value (f :: fs) slots := by
  obtain ⟨slot, slots⟩ := slots
  have hknows : (f.orKey key).knows k = f.knows k := by
    show (decide (k = f.name) || (key :: f.aliases).contains k) = f.knows k
    simp [Field.knows, hne]
  simp only [put, hknows]
  cases slot <;> rfl

theorem putAll_orKey {members : List (String × Json)} (hnone : Json.lookup key members = none)
    (slots : Slots (f :: fs)) :
    putAll (f.orKey key :: fs) members slots = putAll (f :: fs) members slots := by
  have hkeys := Json.lookup_eq_none.mp hnone
  clear hnone
  induction members generalizing slots with
  | nil => rfl
  | cons m rest ih =>
    obtain ⟨k, value⟩ := m
    have hput := put_orKey (hkeys (k, value) (List.mem_cons_self ..)) value slots
    have hrest := fun slots => ih slots fun m hm => hkeys m (List.mem_cons_of_mem _ hm)
    show (put k value (f.orKey key :: fs) slots).bind _ = (put k value (f :: fs) slots).bind _
    rw [← hput]
    exact congrArg _ (funext hrest)

theorem values_orKey (slots : Slots (f :: fs)) :
    values (f.orKey key :: fs) slots = values (f :: fs) slots := by
  obtain ⟨Value, name, aliases, decode, absent, cutOff⟩ := f
  obtain ⟨slot, slots⟩ := slots
  cases slot <;> cases absent <;> rfl

end Slots

namespace TargetInfo

/-- The fields of a description without the other key of its id. -/
def plainRecord : Record TargetInfo :=
  { name := "TargetInfo"
    fields :=
      [.required "id" TargetId.decode, .required "type" Decoder.text,
        .defaulted "title" Decoder.text "", .defaulted "url" Decoder.text "",
        .omittable "webSocketDebuggerUrl" Decoder.text]
    make := record.make }

theorem decode_of_plain {members : List (String × Json)}
    (hnone : Json.lookup "targetId" members = none) {target : TargetInfo}
    (h : plainRecord.decode (.object members) = .ok target) :
    decode (.object members) = .ok target := by
  obtain ⟨vs, ⟨slots, hput, hvalues⟩, rfl⟩ := plainRecord.decode_object_eq_ok.mp h
  exact record.decode_object_eq_ok.mpr
    ⟨vs, ⟨slots, (Slots.putAll_orKey hnone (Slots.empty plainRecord.fields)).trans hput,
      (Slots.values_orKey slots).trans hvalues⟩, rfl⟩

theorem restores : Restores decode toJson := by
  intro j target h
  obtain ⟨⟨id, kind, title, url, (socketUrl : Option String), ⟨⟩⟩,
    ⟨hid, hkind, htitle, hurl, hsocket, -⟩, rfl⟩ := record.attained h
  refine decode_of_plain (by simp) ((plainRecord.decode_object ⟨by decide, by decide⟩
    (Json.nodup_sortMembers _)).mpr ⟨(id, kind, title, url, socketUrl, ()), ?_, rfl⟩)
  exact ⟨Field.read_required_of_restores TargetId.restores hid (by simp [record]),
    Field.read_required_of_restores Decoder.restores_text hkind (by simp [record]),
    Field.read_defaulted_of_restores Decoder.restores_text rfl htitle (by simp [record]),
    Field.read_defaulted_of_restores Decoder.restores_text rfl hurl (by simp [record]),
    Field.read_omittable_of_restores (Decoder.restores_text.given nofun) hsocket
      (by simp [record]), trivial⟩

end TargetInfo

/-! ### Messages -/

theorem Request.restores : Restores Request.decode Request.toJson := by
  refine record.restores ⟨by decide, by decide⟩ ?_
  rintro ⟨id, method, (params : Json), (sessionId : Option SessionId), -⟩
    ⟨hid, hmethod, hparams, hsession, -⟩
  exact ⟨_, rfl, Field.read_required_of_restores Decoder.restores_unsignedWord hid
      (by simp [record]),
    Field.read_required_of_restores Decoder.restores_text hmethod (by simp [record]),
    Field.read_required_of_restores Decoder.restores_json hparams (by simp [record]),
    Field.read_optional_of_restores (SessionId.restores.given nofun) hsession (by simp [record]),
    trivial⟩

theorem ErrorPayload.restores : Restores ErrorPayload.decode ErrorPayload.toJson := by
  refine record.restores ⟨by decide, by decide⟩ ?_
  rintro ⟨code, message, (data : Option String), -⟩ ⟨hcode, hmessage, hdata, -⟩
  exact ⟨_, rfl, Field.read_required_of_restores Decoder.restores_signedWord hcode
      (by simp [record]),
    Field.read_required_of_restores Decoder.restores_text hmessage (by simp [record]),
    Field.read_optional_of_restores (Decoder.restores_text.given nofun) hdata (by simp [record]),
    trivial⟩

theorem Response.restores : Restores Response.decode Response.toJson := by
  refine record.restores ⟨by decide, by decide⟩ ?_
  rintro ⟨id, (result : Option Json), (error : Option ErrorPayload), -⟩
    ⟨hid, hresult, herror, -⟩
  exact ⟨_, rfl, Field.read_required_of_restores Decoder.restores_unsignedWord hid
      (by simp [record]),
    Field.read_optional_of_restores Decoder.restoresGiven_json hresult (by simp [record]),
    Field.read_optional_of_restores (ErrorPayload.restores.given nofun) herror (by simp [record]),
    trivial⟩

theorem EventMessage.restores : Restores EventMessage.decode EventMessage.toJson := by
  refine record.restores ⟨by decide, by decide⟩ ?_
  rintro ⟨method, (params : Json), (sessionId : Option SessionId), -⟩ ⟨hmethod, hparams, hsession, -⟩
  exact ⟨_, rfl, Field.read_required_of_restores Decoder.restores_text hmethod (by simp [record]),
    Field.read_defaulted_of_restores Decoder.restores_json rfl hparams (by simp [record]),
    Field.read_omittable_of_restores (SessionId.restores.given nofun) hsession (by simp [record]),
    trivial⟩

/-- A notice has no id, so its wire form is no answer. -/
theorem EventMessage.decode_response_toJson (e : EventMessage) (r : Response) :
    Response.decode e.toJson ≠ .ok r := by
  intro h
  obtain ⟨⟨id, result, error, -⟩, ⟨hid, -⟩, -⟩ :=
    Response.record.readFrom_of_decode ⟨by decide, by decide⟩ h
  obtain ⟨j, hj, -⟩ := Field.read_required.mp hid
  simp at hj

theorem Message.restores : Restores Message.decode Message.toJson := by
  intro j message h
  cases message with
  | response r =>
    exact decode_response.mpr (Response.restores j r (decode_response.mp h))
  | event e =>
    obtain ⟨-, he⟩ := decode_event.mp h
    exact decode_event.mpr ⟨e.decode_response_toJson, EventMessage.restores j e he⟩

/-! ### All types -/

/-- Every type that is both written and read restores its values. -/
structure RoundTrips : Prop where
  frameId : Restores FrameId.decode FrameId.toJson
  loaderId : Restores LoaderId.decode LoaderId.toJson
  targetId : Restores TargetId.decode TargetId.toJson
  sessionId : Restores SessionId.decode SessionId.toJson
  frame : Restores Frame.decode Frame.toJson
  frameTree : Restores FrameTree.decode FrameTree.toJson
  navigationEntry : Restores NavigationEntry.decode NavigationEntry.toJson
  transitionType : Restores TransitionType.decode TransitionType.toJson
  screenshotFormat : Restores ScreenshotFormat.decode ScreenshotFormat.toJson
  viewport : Restores Viewport.decode Viewport.toJson
  remoteObject : Restores RemoteObject.decode RemoteObject.toJson
  exceptionDetails : Restores ExceptionDetails.decode ExceptionDetails.toJson
  targetInfo : Restores TargetInfo.decode TargetInfo.toJson
  lifecycleEvent : Restores LifecycleEvent.decode LifecycleEvent.toJson
  frameNavigated : Restores FrameNavigated.decode FrameNavigated.toJson
  timestamped : Restores Timestamped.decode Timestamped.toJson
  /-- The acknowledgment that says nothing is written as the empty object. -/
  nothing : Restores Nothing.decode fun _ => .empty
  request : Restores Request.decode Request.toJson
  response : Restores Response.decode Response.toJson
  errorPayload : Restores ErrorPayload.decode ErrorPayload.toJson
  eventMessage : Restores EventMessage.decode EventMessage.toJson
  /-- A message is restored with its variant. -/
  message : Restores Message.decode Message.toJson
  /-- So no notice comes back as an answer, -/
  event : ∀ j e, Message.decode j = .ok (.event e) →
    ∀ r, Message.decode e.toJson ≠ .ok (.response r)
  /-- and no answer as a notice. -/
  answer : ∀ j r, Message.decode j = .ok (.response r) →
    ∀ e, Message.decode r.toJson ≠ .ok (.event e)

/-- What is written is read back as what it was, for all types. -/
theorem wire_roundTrips : RoundTrips where
  frameId := FrameId.restores
  loaderId := LoaderId.restores
  targetId := TargetId.restores
  sessionId := SessionId.restores
  frame := Frame.restores
  frameTree := FrameTree.restores
  navigationEntry := NavigationEntry.restores
  transitionType := TransitionType.restores
  screenshotFormat := ScreenshotFormat.restores
  viewport := Viewport.restores
  remoteObject := RemoteObject.restores
  exceptionDetails := ExceptionDetails.restores
  targetInfo := TargetInfo.restores
  lifecycleEvent := LifecycleEvent.restores
  frameNavigated := FrameNavigated.restores
  timestamped := Timestamped.restores
  nothing := Nothing.restores
  request := Request.restores
  response := Response.restores
  errorPayload := ErrorPayload.restores
  eventMessage := EventMessage.restores
  message := Message.restores
  event := by
    intro j e h r hr
    cases (Message.restores j (.event e) h).symm.trans hr
  answer := by
    intro j r h e he
    cases (Message.restores j (.response r) h).symm.trans he

end PagePilot.Wire
