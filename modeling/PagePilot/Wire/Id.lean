import PagePilot.Wire.Record
/-!
# PagePilot.Wire.Id

Identifiers that the browser hands out. They are opaque: nothing is done with
them but to compare them and to send them back.
-/

namespace PagePilot.Wire

/-- A frame of a page. The empty id stands for a frame that is not known; no
frame that the browser reports has it. -/
structure FrameId where
  text : String
deriving Repr, DecidableEq, Inhabited

/-- A loader: one for each load of a document. -/
structure LoaderId where
  text : String
deriving Repr, DecidableEq, Inhabited

/-- A target that can be attached to, such as a page. -/
structure TargetId where
  text : String
deriving Repr, DecidableEq, Inhabited

/-- A session: one attachment to a target. -/
structure SessionId where
  text : String
deriving Repr, DecidableEq, Inhabited

/-- The id of a frame that is not known. -/
def FrameId.unknown : FrameId :=
  ⟨""⟩

/-- Whether the id is the unknown one. -/
def FrameId.isEmpty (id : FrameId) : Bool :=
  id.text.isEmpty

/-- An id is written as its text. -/
def FrameId.toJson (id : FrameId) : Json := .string id.text

@[inherit_doc FrameId.toJson]
def LoaderId.toJson (id : LoaderId) : Json := .string id.text

@[inherit_doc FrameId.toJson]
def TargetId.toJson (id : TargetId) : Json := .string id.text

@[inherit_doc FrameId.toJson]
def SessionId.toJson (id : SessionId) : Json := .string id.text

/-- An id is read from a string. -/
def FrameId.decode : Decoder FrameId := fun j => (Decoder.text j).map FrameId.mk

@[inherit_doc FrameId.decode]
def LoaderId.decode : Decoder LoaderId := fun j => (Decoder.text j).map LoaderId.mk

@[inherit_doc FrameId.decode]
def TargetId.decode : Decoder TargetId := fun j => (Decoder.text j).map TargetId.mk

@[inherit_doc FrameId.decode]
def SessionId.decode : Decoder SessionId := fun j => (Decoder.text j).map SessionId.mk

end PagePilot.Wire
