import PagePilot.Base64
import PagePilot.History
import PagePilot.Json.Tagged
import PagePilot.Machine.World
import PagePilot.Operation.Execute
/-!
# PagePilot.Operation.Page

What can be done on a page. An operation that navigates has its result when the
frame has loaded, not when the browser took the command: it arms a barrier for
the load of the current frame, gives the command, and waits for the barrier. The
barrier is let go of on every way out.
-/

namespace PagePilot

open Wire

/-- A page to work on, with the session of its commands. -/
structure Page where
  key : PageKey
  session : Option SessionId
deriving Repr, DecidableEq

namespace Page

/-- The part of the program that speaks of pages. -/
def source : String := "cdpnav::page"

/-- A record of the log. -/
def inform (message : String) (fields : List Log.Field) : Op Unit :=
  Op.perform (.log { level := .info, source, message, fields })

/-- The milestone at which a frame has loaded. -/
def loadMilestone : String := "load"

/-- Sends a command on the page's session. -/
def call (page : Page) (ctx : Context) (command : Command α) : Op α :=
  execute ctx page.session command

/-- Runs `trigger` between arming a barrier for the load and waiting for it. -/
def loadAfter (page : Page) (ctx : Context) (trigger : Op α) : Op α := do
  let barrier ← Op.perform (.arm page.key ctx loadMilestone)
  match ← ExceptT.lift trigger.run with
  | .error e =>
      Op.perform (.disarm barrier)
      throw e
  | .ok acknowledged =>
      let loaded ← Op.perform (.awaitMatch barrier)
      Op.perform (.disarm barrier)
      Op.ofExcept loaded
      return acknowledged

/-- The answer to a navigation, unless it says that the load could not start. -/
def started (reply : NavigateReply) : Except Error NavigateReply :=
  match reply.errorText with
  | some text => if text.isEmpty then .ok reply else .error (.navigationFailed text)
  | none => .ok reply

/-- Navigates to an address and waits for the load. -/
def navigate (page : Page) (ctx : Context) (url : String) : Op NavigateReply := do
  inform "navigate" [.quoted "url" url]
  loadAfter page ctx do
    let reply ← page.call ctx (.navigate { url })
    Op.ofExcept (started reply)

/-- How an option that is true, false or not given is shown. -/
def shownFlag : Option Bool → String
  | none => "None"
  | some true => "Some(true)"
  | some false => "Some(false)"

/-- Reloads the page and waits for the load. -/
def reload (page : Page) (ctx : Context) (params : ReloadParams) : Op Unit := do
  inform "reload" [.plain "ignore_cache" (shownFlag params.ignoreCache)]
  loadAfter page ctx (page.call ctx (.reload params))

/-- Navigates to an entry of the history and waits for the load. -/
def navigateToEntry (page : Page) (ctx : Context) (entryId : Int) : Op Unit := do
  inform "navigate to history entry" [.plain "entry_id" (toString entryId)]
  loadAfter page ctx (page.call ctx (.navigateToHistoryEntry entryId))

/-- The history, with the index of the current entry. -/
def entries (page : Page) (ctx : Context) : Op NavigationHistory :=
  page.call ctx .getNavigationHistory

/-- Goes to the entry that `choose` finds in the history. When there is none, nothing
is armed and no other command is given. -/
def move (choose : NavigationHistory → Except Error NavigationEntry) (page : Page)
    (ctx : Context) : Op Unit := do
  let history ← page.entries ctx
  let entry ← Op.ofExcept (choose history)
  page.navigateToEntry ctx entry.id

/-- Goes one entry back. -/
def back (page : Page) (ctx : Context) : Op Unit :=
  move History.previousEntry page ctx

/-- Goes one entry forward. -/
def forward (page : Page) (ctx : Context) : Op Unit :=
  move History.nextEntry page ctx

/-- Stops all loading. -/
def stop (page : Page) (ctx : Context) : Op Unit :=
  page.call ctx .stopLoading

/-- The bytes of an image that came as text. -/
def imageOf (data : String) : Except Error (List UInt8) :=
  (Base64.decode data.toUTF8.toList).mapError fun e =>
    .decode s!"Failed to decode screenshot: {e.message}"

/-- Takes an image of the page. -/
def screenshot (page : Page) (ctx : Context) (params : ScreenshotParams) : Op (List UInt8) := do
  let data ← page.call ctx (.captureScreenshot params)
  Op.ofExcept (imageOf data)

/-- The text that an expression came to, if it did come to a text. -/
def textOf (expression : String) (reply : EvaluateReply) : Except Error String :=
  match reply.exceptionDetails with
  | some details => .error (.evaluation details.message)
  | none =>
      match reply.result.value with
      | some (.string s) => .ok s
      | other =>
          .error <| .evaluation <|
            s!"`{expression}` returned {reply.result.kind} instead of a string: "
              ++ Json.taggedOption other

/-- Evaluates an expression that has to come to a text. -/
def evaluateText (page : Page) (ctx : Context) (expression : String) : Op String := do
  let reply ← page.call ctx (.evaluate (.byValue expression))
  Op.ofExcept (textOf expression reply)

/-- The title of the document. -/
def title (page : Page) (ctx : Context) : Op String :=
  page.evaluateText ctx "document.title"

/-- The address of the document. -/
def location (page : Page) (ctx : Context) : Op String :=
  page.evaluateText ctx "document.location.toString()"

/-! ### Attaching -/

/-- Switches the page's events on and learns its current frame. -/
def enable (page : Page) (ctx : Context) : Op Unit := do
  page.call ctx .pageEnable
  page.call ctx (.setLifecycleEventsEnabled true)
  let tree ← page.call ctx .getFrameTree
  Op.perform (.setFrame page.key tree.frame.id)

/-- Attaches to a target. The page gets the events of its session from the moment on
when the session is known. -/
def attach (ctx : Context) (target : TargetId) : Op Page := do
  let session ← execute ctx none (.attachToTarget target true)
  let key ← Op.perform (.openPage session)
  let page : Page := { key, session := some session }
  page.enable ctx
  return page

end Page

end PagePilot
