import PagePilot.Wire.Frame
/-!
# PagePilot.Wire.Event

Events that the browser pushes. The four that navigation reacts to are typed;
every other one, and one of the four whose parameters do not read as its
payload, is carried through as it came, so that listeners see all events.
-/

namespace PagePilot.Wire

/-- A frame reached a milestone of loading. -/
structure LifecycleEvent where
  frameId : FrameId
  loaderId : LoaderId
  name : String
  timestamp : Double
deriving Repr, DecidableEq

/-- The wire form of a milestone. -/
def LifecycleEvent.toJson (e : LifecycleEvent) : Json :=
  .ofMembers
    [("frameId", e.frameId.toJson), ("loaderId", e.loaderId.toJson), ("name", .string e.name),
      ("timestamp", .double e.timestamp)]

/-- The fields of a milestone. -/
def LifecycleEvent.record : Record LifecycleEvent :=
  { name := "LifecycleEvent"
    fields :=
      [.required "frameId" FrameId.decode, .defaulted "loaderId" LoaderId.decode ⟨""⟩,
        .required "name" Decoder.text, .defaulted "timestamp" Decoder.float (.zero false)]
    make := fun (frameId, loaderId, name, timestamp, _) =>
      { frameId, loaderId, name, timestamp } }

/-- Reads a milestone. -/
def LifecycleEvent.decode : Decoder LifecycleEvent :=
  LifecycleEvent.record.decode

/-- A frame was navigated. -/
structure FrameNavigated where
  frame : Frame
deriving Repr, DecidableEq

/-- The wire form of a navigation. -/
def FrameNavigated.toJson (e : FrameNavigated) : Json :=
  .ofMembers [("frame", e.frame.toJson)]

/-- The fields of a navigation. -/
def FrameNavigated.record : Record FrameNavigated :=
  { name := "FrameNavigated"
    fields := [.required "frame" Frame.decode]
    make := fun (frame, _) => { frame } }

/-- Reads a navigation. -/
def FrameNavigated.decode : Decoder FrameNavigated :=
  FrameNavigated.record.decode

/-- The payload of an event that only says when it happened. -/
structure Timestamped where
  timestamp : Double
deriving Repr, DecidableEq

/-- The wire form of a time. -/
def Timestamped.toJson (e : Timestamped) : Json :=
  .ofMembers [("timestamp", .double e.timestamp)]

/-- The fields of a time. -/
def Timestamped.record : Record Timestamped :=
  { name := "Timestamped"
    fields := [.defaulted "timestamp" Decoder.float (.zero false)]
    make := fun (timestamp, _) => { timestamp } }

/-- Reads a time. -/
def Timestamped.decode : Decoder Timestamped :=
  Timestamped.record.decode

/-! ### Events -/

/-- An event from the browser. -/
inductive Event
  | lifecycle (event : LifecycleEvent)
  | frameNavigated (event : FrameNavigated)
  | loadEventFired (event : Timestamped)
  | domContentEventFired (event : Timestamped)
  | other (method : String) (params : Json)
deriving Repr

namespace Event

/-- The method of milestones. -/
def lifecycleMethod : String := "Page.lifecycleEvent"

/-- The method of navigations. -/
def frameNavigatedMethod : String := "Page.frameNavigated"

/-- The method of the load event. -/
def loadEventFiredMethod : String := "Page.loadEventFired"

/-- The method of the content event. -/
def domContentEventFiredMethod : String := "Page.domContentEventFired"

/-- The typed event of a method, if the method has one and the parameters read
as its payload. -/
def typed? (method : String) (params : Json) : Option Event :=
  if method = lifecycleMethod then
    (LifecycleEvent.decode params).toOption.map .lifecycle
  else if method = frameNavigatedMethod then
    (FrameNavigated.decode params).toOption.map .frameNavigated
  else if method = loadEventFiredMethod then
    (Timestamped.decode params).toOption.map .loadEventFired
  else if method = domContentEventFiredMethod then
    (Timestamped.decode params).toOption.map .domContentEventFired
  else none

/-- The event that a method and its parameters stand for. -/
def decode (method : String) (params : Json) : Event :=
  (typed? method params).getD (.other method params)

/-- The method of an event. -/
def method : Event → String
  | .lifecycle _ => lifecycleMethod
  | .frameNavigated _ => frameNavigatedMethod
  | .loadEventFired _ => loadEventFiredMethod
  | .domContentEventFired _ => domContentEventFiredMethod
  | .other method _ => method

/-- The payload of an event, in wire form. -/
def fields : Event → Json
  | .lifecycle e => e.toJson
  | .frameNavigated e => e.toJson
  | .loadEventFired e => e.toJson
  | .domContentEventFired e => e.toJson
  | .other _ params => params

/-- The name of the milestone that an event reports. -/
def milestone? : Event → Option String
  | .lifecycle e => some e.name
  | _ => none

/-- The frame that an event makes the main one. -/
def mainFrame? : Event → Option FrameId
  | .frameNavigated e => if e.frame.isMain then some e.frame.id else none
  | _ => none

/-- Whether an event reports the milestone `name` of the frame `frame`. -/
def isMilestone (frame : FrameId) (name : String) : Event → Bool
  | .lifecycle e => e.name = name && e.frameId = frame
  | _ => false

end Event

end PagePilot.Wire
