import PagePilot.Wire.Id
/-!
# PagePilot.Wire.Frame

The frames of a page and the tree they form.
-/

namespace PagePilot.Wire

/-- A frame, as the browser describes it. -/
structure Frame where
  id : FrameId
  /-- There is none for the main frame. -/
  parentId : Option FrameId
  loaderId : LoaderId
  name : Option String
  url : String
deriving Repr, DecidableEq

/-- The main frame is the one without a parent. -/
def Frame.isMain (f : Frame) : Bool :=
  f.parentId.isNone

/-- The wire form of a frame. -/
def Frame.toJson (f : Frame) : Json :=
  .ofMembers <|
    [("id", f.id.toJson), ("loaderId", f.loaderId.toJson), ("url", .string f.url)]
      ++ Json.member? "name" .string f.name
      ++ Json.member? "parentId" FrameId.toJson f.parentId

/-- The fields of a frame. -/
def Frame.record : Record Frame :=
  { name := "Frame"
    fields :=
      [.required "id" FrameId.decode, .omittable "parentId" FrameId.decode,
        .defaulted "loaderId" LoaderId.decode ⟨""⟩, .omittable "name" Decoder.text,
        .required "url" Decoder.text]
    make := fun (id, parentId, loaderId, name, url, _) => { id, parentId, loaderId, name, url } }

/-- Reads a frame. -/
def Frame.decode : Decoder Frame :=
  Frame.record.decode

/-- A frame with the frames below it. -/
inductive FrameTree
  | node (frame : Frame) (children : List FrameTree)
deriving Repr

/-- The frame at the root. -/
def FrameTree.frame : FrameTree → Frame
  | .node frame _ => frame

mutual
/-- The wire form of a tree; a leaf has no member for its children. -/
def FrameTree.toJson : FrameTree → Json
  | .node frame [] => .ofMembers [("frame", frame.toJson)]
  | .node frame (child :: children) =>
      .ofMembers [("frame", frame.toJson),
        ("childFrames", .array (FrameTree.toJsonList (child :: children)))]

/-- The wire form of each tree of a list. -/
def FrameTree.toJsonList : List FrameTree → List Json
  | [] => []
  | t :: rest => FrameTree.toJson t :: FrameTree.toJsonList rest
end

/-- The fields of a tree, with a reader for the trees below. -/
def FrameTree.record (child : Decoder FrameTree) : Record FrameTree :=
  { name := "FrameTree"
    fields := [.required "frame" Frame.decode, .defaulted "childFrames" (Decoder.list child) []]
    make := fun (frame, children, _) => .node frame children }

/-- Reads a tree that is nested at most so deep. -/
def FrameTree.decodeWithin : Nat → Decoder FrameTree
  | 0 => (FrameTree.record fun j => .error (.invalidType (.of j) (.record "FrameTree"))).decode
  | depth + 1 => (FrameTree.record (FrameTree.decodeWithin depth)).decode

/-- Reads a tree. Trees below one another are values inside one another, so the
depth of the value bounds theirs. -/
def FrameTree.decode : Decoder FrameTree := fun j =>
  FrameTree.decodeWithin j.depth j

end PagePilot.Wire
