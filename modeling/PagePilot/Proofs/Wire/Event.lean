import PagePilot.Proofs.Wire.Message
import PagePilot.Wire.Event
/-!
# PagePilot.Proofs.Wire.Event

How events are read. A notice names its method, and may leave out its parameters and its
session (`EventMessage.decode_object`); it is an event unless it reads as an answer
(`Message.decode_event`). The event that a method and parameters stand for keeps them
(`Event.decode_faithful`): it has a type when the parameters read as the payload that the
method asks for, and is carried through otherwise.
-/

namespace PagePilot.Wire

/-! ### Notices -/

namespace Field

variable {members : List (String × Json)} {name : String} {decode : Decoder α}

theorem read_defaulted {value a : α} : (defaulted name decode value).read members = .ok a ↔
    match Json.lookup name members with
    | some j => decode j = .ok a
    | none => a = value := by
  unfold read
  show (match Json.lookup name members with
    | some j => decode j
    | none => (.ok value : Except DecodeError α)) = .ok a ↔ _
  cases Json.lookup name members with
  | none => simp [@eq_comm _ a]
  | some j => rfl

/-- On an object it makes no difference whether an option may be left out of an array too. -/
theorem read_omittable {o : Option α} : (omittable name decode).read members = .ok o ↔
    (optional name decode).read members = .ok o := Iff.rfl

end Field

theorem SessionId.decode_eq_ok {j : Json} {session : SessionId} :
    SessionId.decode j = .ok session ↔ j = session.toJson := by
  obtain ⟨text⟩ := session
  cases j <;> simp [SessionId.decode, SessionId.toJson, Decoder.text, Except.map]

theorem SessionId.read_omittable {members : List (String × Json)} {session : Option SessionId} :
    (Field.omittable "sessionId" SessionId.decode).read members = .ok session ↔
      Json.given? "sessionId" members = session.map SessionId.toJson := by
  refine (Field.read_omittable.trans Field.read_optional).trans ?_
  cases Json.given? "sessionId" members <;> cases session <;> simp [SessionId.decode_eq_ok]

namespace EventMessage

variable {e : EventMessage}

/-- A notice in an object has a text as its method, any parameters, and a text as its session.
Without parameters they are `null`; a session that is `null` is none. -/
theorem decode_object {members : List (String × Json)} (hkeys : (members.map Prod.fst).Nodup) :
    decode (.object members) = .ok e ↔
      Json.lookup "method" members = some (.string e.method) ∧
        e.params = (Json.lookup "params" members).getD .null ∧
          Json.given? "sessionId" members = e.sessionId.map SessionId.toJson := by
  have happart : Field.Apart record.fields := ⟨by decide, by decide⟩
  have hmethod : ∀ method : String, (Field.required "method" Decoder.text).read members =
      .ok method ↔ Json.lookup "method" members = some (.string method) := by
    intro method
    rw [Field.read_required]
    constructor
    · rintro ⟨j, hj, hread⟩
      cases j <;> cases hread
      exact hj
    · exact fun h => ⟨_, h, rfl⟩
  have hparams : ∀ params : Json, (Field.defaulted "params" Decoder.json .null).read members =
      .ok params ↔ params = (Json.lookup "params" members).getD .null := by
    intro params
    rw [Field.read_defaulted]
    cases Json.lookup "params" members <;> simp [Decoder.json, @eq_comm _ params]
  refine (record.decode_object happart hkeys).trans ?_
  constructor
  · rintro ⟨⟨method, params, sessionId, -⟩, ⟨hm, hp, hs, -⟩, rfl⟩
    exact ⟨(hmethod method).mp hm, (hparams params).mp hp, SessionId.read_omittable.mp hs⟩
  · rintro ⟨hm, hp, hs⟩
    exact ⟨(e.method, e.params, e.sessionId, ()), ⟨(hmethod _).mpr hm, (hparams _).mpr hp,
      SessionId.read_omittable.mpr hs, trivial⟩, rfl⟩

end EventMessage

/-- A notice is an event unless it reads as an answer. -/
theorem Message.decode_event {j : Json} {e : EventMessage} :
    Message.decode j = .ok (.event e) ↔
      (∀ r, Response.decode j ≠ .ok r) ∧ EventMessage.decode j = .ok e := by
  unfold Message.decode
  cases Response.decode j with
  | ok r => simp
  | error cause => cases EventMessage.decode j <;> simp

/-! ### Events -/

namespace Event

/-- Whether an event has a type of its own. -/
def isTyped : Event → Bool
  | .other .. => false
  | _ => true

/-- Parameters read as the payload of an event with a type. -/
inductive Payload (params : Json) : Event → Prop
  | lifecycle {e : LifecycleEvent} (h : LifecycleEvent.decode params = .ok e) :
      Payload params (.lifecycle e)
  | frameNavigated {e : FrameNavigated} (h : FrameNavigated.decode params = .ok e) :
      Payload params (.frameNavigated e)
  | loadEventFired {e : Timestamped} (h : Timestamped.decode params = .ok e) :
      Payload params (.loadEventFired e)
  | domContentEventFired {e : Timestamped} (h : Timestamped.decode params = .ok e) :
      Payload params (.domContentEventFired e)

variable {method : String} {params : Json} {event : Event}

theorem typed?_eq_some :
    typed? method params = some event ↔ event.method = method ∧ event.Payload params := by
  have hread : ∀ {α : Type} (result : Except DecodeError α) (make : α → Event),
      result.toOption.map make = some event ↔ ∃ a, result = .ok a ∧ make a = event := by
    intro α result make
    cases result <;> simp [Except.toOption]
  unfold typed?
  constructor
  · intro h
    split at h
    next hmethod =>
      obtain ⟨e, he, rfl⟩ := (hread _ _).mp h
      exact ⟨hmethod.symm, .lifecycle he⟩
    next =>
    split at h
    next hmethod =>
      obtain ⟨e, he, rfl⟩ := (hread _ _).mp h
      exact ⟨hmethod.symm, .frameNavigated he⟩
    next =>
    split at h
    next hmethod =>
      obtain ⟨e, he, rfl⟩ := (hread _ _).mp h
      exact ⟨hmethod.symm, .loadEventFired he⟩
    next =>
    split at h
    next hmethod =>
      obtain ⟨e, he, rfl⟩ := (hread _ _).mp h
      exact ⟨hmethod.symm, .domContentEventFired he⟩
    next => cases h
  · rintro ⟨rfl, hpayload⟩
    cases hpayload with
    | lifecycle h | frameNavigated h | loadEventFired h | domContentEventFired h =>
      simp [Event.method, h, Except.toOption, lifecycleMethod, frameNavigatedMethod,
        loadEventFiredMethod, domContentEventFiredMethod]

/-- What an event says of the method and the parameters that it was read from. -/
structure Faithful (event : Event) (method : String) (params : Json) : Prop where
  /-- It keeps the method. -/
  kept : event.method = method
  /-- It has a type when the parameters read as a payload for that method. -/
  typed : event.isTyped = true ↔ ∃ e : Event, e.method = method ∧ e.Payload params
  /-- With a type, it is what the parameters read as. -/
  payload : event.isTyped = true → event.Payload params
  /-- Without one, it has the method and the parameters as they came. -/
  other : event.isTyped = false → event = .other method params

/-- The milestones of a frame are reported by the events that name both. -/
theorem isMilestone_eq_true {frame : FrameId} {name : String} : event.isMilestone frame name = true ↔
    ∃ e : LifecycleEvent, event = .lifecycle e ∧ e.name = name ∧ e.frameId = frame := by
  unfold isMilestone
  cases event with
  | lifecycle e => simp
  | _ => simp

theorem Payload.isTyped (h : event.Payload params) : event.isTyped = true := by
  cases h <;> rfl

/-- Every method with every parameters is read as an event, and nothing of them is lost. -/
theorem decode_faithful (method : String) (params : Json) :
    (decode method params).Faithful method params := by
  unfold decode
  cases h : typed? method params with
  | some event =>
    obtain ⟨hmethod, hpayload⟩ := typed?_eq_some.mp h
    have htyped := hpayload.isTyped
    exact ⟨hmethod, iff_of_true htyped ⟨event, hmethod, hpayload⟩, fun _ => hpayload,
      fun hother => nomatch htyped.symm.trans hother⟩
  | none =>
    have hnone : ¬ ∃ e : Event, e.method = method ∧ e.Payload params := by
      rintro ⟨e, he⟩
      cases h.symm.trans (typed?_eq_some.mpr he)
    exact ⟨rfl, iff_of_false Bool.false_ne_true hnone, nofun, fun _ => rfl⟩

end Event

end PagePilot.Wire
