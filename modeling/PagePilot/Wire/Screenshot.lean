import PagePilot.Wire.Record
/-!
# PagePilot.Wire.Screenshot

What a screenshot is asked for with: an image format and a region.
-/

namespace PagePilot.Wire

/-- The encoding of an image. -/
inductive ScreenshotFormat
  | png
  | jpeg
  | webp
deriving Repr, DecidableEq, Inhabited

/-- The wire name of a format. -/
def ScreenshotFormat.word : ScreenshotFormat → String
  | .png => "png"
  | .jpeg => "jpeg"
  | .webp => "webp"

/-- The format with a wire name. -/
def ScreenshotFormat.ofWord? : String → Option ScreenshotFormat
  | "png" => some .png
  | "jpeg" => some .jpeg
  | "webp" => some .webp
  | _ => none

/-- The wire form of a format. -/
def ScreenshotFormat.toJson (f : ScreenshotFormat) : Json :=
  .string f.word

/-- Reads a format. -/
def ScreenshotFormat.decode : Decoder ScreenshotFormat :=
  Decoder.variant ScreenshotFormat.ofWord? ["png", "jpeg", "webp"]

/-- A region of the page, in its own pixels. -/
structure Viewport where
  x : Double
  y : Double
  width : Double
  height : Double
  scale : Double
deriving Repr, DecidableEq

/-- The wire form of a region. -/
def Viewport.toJson (v : Viewport) : Json :=
  .ofMembers
    [("x", .double v.x), ("y", .double v.y), ("width", .double v.width),
      ("height", .double v.height), ("scale", .double v.scale)]

/-- The fields of a region. -/
def Viewport.record : Record Viewport :=
  { name := "Viewport"
    fields :=
      [.required "x" Decoder.float, .required "y" Decoder.float,
        .required "width" Decoder.float, .required "height" Decoder.float,
        .required "scale" Decoder.float]
    make := fun (x, y, width, height, scale, _) => { x, y, width, height, scale } }

/-- Reads a region. -/
def Viewport.decode : Decoder Viewport :=
  Viewport.record.decode

end PagePilot.Wire
