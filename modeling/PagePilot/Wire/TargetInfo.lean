import PagePilot.Wire.Id
/-!
# PagePilot.Wire.TargetInfo

The description of a target in a listing. The HTTP listing calls its id `id`,
the protocol's own listing `targetId`; both are read.
-/

namespace PagePilot.Wire

/-- A target, as a listing describes it. -/
structure TargetInfo where
  id : TargetId
  kind : String
  title : String
  url : String
  webSocketDebuggerUrl : Option String
deriving Repr, DecidableEq

/-- Whether the target is a page. -/
def TargetInfo.isPage (t : TargetInfo) : Bool :=
  t.kind = "page"

/-- The wire form of a description. -/
def TargetInfo.toJson (t : TargetInfo) : Json :=
  .ofMembers <|
    [("id", t.id.toJson), ("type", .string t.kind), ("title", .string t.title),
      ("url", .string t.url)]
      ++ Json.member? "webSocketDebuggerUrl" .string t.webSocketDebuggerUrl

/-- The fields of a description. -/
def TargetInfo.record : Record TargetInfo :=
  { name := "TargetInfo"
    fields :=
      [(Field.required "id" TargetId.decode).orKey "targetId", .required "type" Decoder.text,
        .defaulted "title" Decoder.text "", .defaulted "url" Decoder.text "",
        .omittable "webSocketDebuggerUrl" Decoder.text]
    make := fun (id, kind, title, url, webSocketDebuggerUrl, _) =>
      { id, kind, title, url, webSocketDebuggerUrl } }

/-- Reads a description. -/
def TargetInfo.decode : Decoder TargetInfo :=
  TargetInfo.record.decode

end PagePilot.Wire
