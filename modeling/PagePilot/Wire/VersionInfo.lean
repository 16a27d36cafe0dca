import PagePilot.Wire.Record
/-!
# PagePilot.Wire.VersionInfo

What a browser says of itself on its discovery page.
-/

namespace PagePilot.Wire

/-- The part of the version page that is used. -/
structure VersionInfo where
  browser : Option String
  protocolVersion : Option String
  webSocketDebuggerUrl : String
deriving Repr, DecidableEq

/-- The fields of the version page. -/
def VersionInfo.record : Record VersionInfo :=
  { name := "VersionInfo"
    fields :=
      [.omittable "Browser" Decoder.text, .omittable "Protocol-Version" Decoder.text,
        .required "webSocketDebuggerUrl" Decoder.text]
    make := fun (browser, protocolVersion, webSocketDebuggerUrl, _) =>
      { browser, protocolVersion, webSocketDebuggerUrl } }

/-- Reads the version page. -/
def VersionInfo.decode : Decoder VersionInfo :=
  VersionInfo.record.decode

end PagePilot.Wire
