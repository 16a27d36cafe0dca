import PagePilot.Wire.Evaluation
import PagePilot.Wire.Frame
import PagePilot.Wire.Navigation
import PagePilot.Wire.Screenshot
import PagePilot.Wire.TargetInfo
/-!
# PagePilot.Wire.Command

Commands to the browser. A command is a method, parameters in wire form, and
the reader of its acknowledgment, so that a command cannot be taken for one
with another answer. An acknowledgment only says that the browser took the
command; what the command brings about is told by events.
-/

namespace PagePilot.Wire

/-- A command whose acknowledgment reads as an `α`. -/
structure Command (α : Type) where
  method : String
  params : Json
  returns : Decoder α

/-! ### Acknowledgments -/

/-- The acknowledgment that says nothing. -/
def Nothing.record : Record Unit :=
  { name := "Empty", fields := [], make := fun _ => () }

/-- Reads the acknowledgment that says nothing. -/
def Nothing.decode : Decoder Unit :=
  Nothing.record.decode

/-- What is said of a navigation that was taken. -/
structure NavigateReply where
  frameId : FrameId
  /-- There is none for a navigation within the document. -/
  loaderId : Option LoaderId
  /-- Why the load could not start, if it could not. -/
  errorText : Option String
deriving Repr, DecidableEq

/-- The fields of the answer to a navigation. -/
def NavigateReply.record : Record NavigateReply :=
  { name := "NavigateReturns"
    fields :=
      [.required "frameId" FrameId.decode, .omittable "loaderId" LoaderId.decode,
        .omittable "errorText" Decoder.text]
    make := fun (frameId, loaderId, errorText, _) => { frameId, loaderId, errorText } }

/-- Reads the answer to a navigation. -/
def NavigateReply.decode : Decoder NavigateReply :=
  NavigateReply.record.decode

/-- A whole answer with one field. -/
def onlyField (record : String) (f : Field) : Record f.Value :=
  { name := record, fields := [f], make := fun (value, _) => value }

/-- Reads the frame tree of a page. -/
def frameTreeReply : Decoder FrameTree :=
  (onlyField "GetFrameTreeReturns" (.required "frameTree" FrameTree.decode)).decode

/-- Reads the data of a screenshot. -/
def screenshotReply : Decoder String :=
  (onlyField "CaptureScreenshotReturns" (.required "data" Decoder.text)).decode

/-- Reads the session of an attachment. -/
def attachReply : Decoder SessionId :=
  (onlyField "AttachToTargetReturns" (.required "sessionId" SessionId.decode)).decode

/-- Reads a listing of targets. -/
def targetsReply : Decoder (List TargetInfo) :=
  (onlyField "GetTargetsReturns"
    (.required "targetInfos" (Decoder.list TargetInfo.decode))).decode

/-- What came of an evaluation. -/
structure EvaluateReply where
  result : RemoteObject
  exceptionDetails : Option ExceptionDetails
deriving Repr

/-- The fields of the answer to an evaluation. -/
def EvaluateReply.record : Record EvaluateReply :=
  { name := "EvaluateReturns"
    fields :=
      [.required "result" RemoteObject.decode,
        .omittable "exceptionDetails" ExceptionDetails.decode]
    make := fun (result, exceptionDetails, _) => { result, exceptionDetails } }

/-- Reads the answer to an evaluation. -/
def EvaluateReply.decode : Decoder EvaluateReply :=
  EvaluateReply.record.decode

/-! ### Parameters with options -/

/-- The parameters of a navigation. -/
structure NavigateParams where
  url : String
  referrer : Option String := none
  frameId : Option FrameId := none
deriving Repr

/-- The parameters of a reload. -/
structure ReloadParams where
  ignoreCache : Option Bool := none
  scriptToEvaluateOnLoad : Option String := none
deriving Repr, DecidableEq

/-- The parameters of a screenshot. -/
structure ScreenshotParams where
  format : Option ScreenshotFormat := none
  quality : Option Int := none
  clip : Option Viewport := none
  fromSurface : Option Bool := none
  captureBeyondViewport : Option Bool := none
deriving Repr

/-- The parameters of an evaluation. -/
structure EvaluateParams where
  expression : String
  returnByValue : Option Bool := none
  awaitPromise : Option Bool := none
deriving Repr

/-- An evaluation whose value is asked for, not a reference to it. -/
def EvaluateParams.byValue (expression : String) : EvaluateParams :=
  { expression, returnByValue := some true }

/-! ### Commands -/

namespace Command

/-- Switches the page's events on. -/
def pageEnable : Command Unit :=
  { method := "Page.enable", params := .empty, returns := Nothing.decode }

/-- Switches milestones on or off. -/
def setLifecycleEventsEnabled (enabled : Bool) : Command Unit :=
  { method := "Page.setLifecycleEventsEnabled"
    params := .object [("enabled", .bool enabled)]
    returns := Nothing.decode }

/-- Asks for the frame tree. -/
def getFrameTree : Command FrameTree :=
  { method := "Page.getFrameTree", params := .empty, returns := frameTreeReply }

/-- Loads a document. -/
def navigate (p : NavigateParams) : Command NavigateReply :=
  { method := "Page.navigate"
    params := .ofMembers <|
      [("url", .string p.url)]
        ++ Json.member? "referrer" .string p.referrer
        ++ Json.member? "frameId" FrameId.toJson p.frameId
    returns := NavigateReply.decode }

/-- Loads the document once more. -/
def reload (p : ReloadParams) : Command Unit :=
  { method := "Page.reload"
    params := .ofMembers <|
      Json.member? "ignoreCache" .bool p.ignoreCache
        ++ Json.member? "scriptToEvaluateOnLoad" .string p.scriptToEvaluateOnLoad
    returns := Nothing.decode }

/-- Loads an entry of the session history. -/
def navigateToHistoryEntry (entryId : Int) : Command Unit :=
  { method := "Page.navigateToHistoryEntry"
    params := .object [("entryId", .int entryId)]
    returns := Nothing.decode }

/-- Asks for the session history. -/
def getNavigationHistory : Command NavigationHistory :=
  { method := "Page.getNavigationHistory", params := .empty
    returns := NavigationHistory.decode }

/-- Stops all loading. -/
def stopLoading : Command Unit :=
  { method := "Page.stopLoading", params := .empty, returns := Nothing.decode }

/-- Asks for an image of the page. -/
def captureScreenshot (p : ScreenshotParams) : Command String :=
  { method := "Page.captureScreenshot"
    params := .ofMembers <|
      Json.member? "format" ScreenshotFormat.toJson p.format
        ++ Json.member? "quality" .int p.quality
        ++ Json.member? "clip" Viewport.toJson p.clip
        ++ Json.member? "fromSurface" .bool p.fromSurface
        ++ Json.member? "captureBeyondViewport" .bool p.captureBeyondViewport
    returns := screenshotReply }

/-- Evaluates an expression in the page. -/
def evaluate (p : EvaluateParams) : Command EvaluateReply :=
  { method := "Runtime.evaluate"
    params := .ofMembers <|
      [("expression", .string p.expression)]
        ++ Json.member? "returnByValue" .bool p.returnByValue
        ++ Json.member? "awaitPromise" .bool p.awaitPromise
    returns := EvaluateReply.decode }

/-- Attaches to a target. The messages of a flat session travel on the same
connection, marked with the session's id. -/
def attachToTarget (id : TargetId) (flatten : Bool) : Command SessionId :=
  { method := "Target.attachToTarget"
    params := .ofMembers [("targetId", id.toJson), ("flatten", .bool flatten)]
    returns := attachReply }

/-- Asks for the targets. -/
def getTargets : Command (List TargetInfo) :=
  { method := "Target.getTargets", params := .empty, returns := targetsReply }

end Command

end PagePilot.Wire
