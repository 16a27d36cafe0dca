import PagePilot.Discovery
import PagePilot.Operation.Page
import PagePilot.Socket
/-!
# PagePilot.Operation.Invocation

What an invocation of the program does: it opens the browser's socket, attaches to a
page, runs its command there, and prints the result. Nothing is printed before the
result is complete.
-/

namespace PagePilot

open Wire

namespace CommandOp

/-- Does one act. -/
def perform (a : Act) : CommandOp a.Reply :=
  ExceptT.lift (Program.perform a)

/-- Prints a line. -/
def printLine (text : String) : CommandOp Unit :=
  perform (.print (text ++ "\n"))

/-- Writes to the log. -/
def inform (source message : String) (fields : List Log.Field) : CommandOp Unit :=
  perform (.log { level := .info, source, message, fields })

end CommandOp

/-! ### The browser -/

namespace Browser

/-- Opens the socket at an address, unless the context has ended. -/
def connect (ctx : Context) (url : String) : Op Unit := do
  if let some e ← Op.perform (.endOf ctx) then
    throw e
  match ← Op.perform (.connect url) with
  | .ok () => return ()
  | .error refusal => throw (Socket.refused url refusal)

/-- Where the socket of an endpoint is. The discovery does not look at any context. -/
def socketOf (endpoint : Endpoint) : CommandOp String :=
  match endpoint with
  | .http _ _ _ => Discovery.socketUrl endpoint.text
  | .webSocket url => return url

/-- Opens the socket of an endpoint and starts to read from it. -/
def openSocket (ctx : Context) (endpoint : Endpoint) : CommandOp Unit := do
  let url ← socketOf endpoint
  (connect ctx url).asCommand
  CommandOp.inform "cdpnav_cli::session" "connected" [.plain "url" url]
  let _ ← CommandOp.perform .startReading
  return ()

/-- The pages of the browser: from its discovery pages if that is how it is reached,
else from the browser itself. -/
def pages (ctx : Context) (endpoint : Endpoint) : CommandOp (List TargetInfo) :=
  match endpoint with
  | .http _ _ _ => Discovery.pages endpoint.text
  | .webSocket _ => do
      let targets ← (execute ctx none .getTargets).asCommand
      return targets.filter TargetInfo.isPage

/-- The target to attach to: the one that is wanted, or the first page. -/
def choose (ctx : Context) (endpoint : Endpoint) : Option String → CommandOp TargetId
  | some id => return ⟨id⟩
  | none => do
      match ← pages ctx endpoint with
      | first :: _ => return first.id
      | [] => throw (.noPageTarget endpoint.text)

/-- Attaches to a page. -/
def attach (ctx : Context) (endpoint : Endpoint) (target : Option String) : CommandOp Page := do
  let id ← choose ctx endpoint target
  (Page.attach ctx id).asCommand

end Browser

/-! ### Commands -/

/-- The part of the program that speaks of navigations. -/
def navigationSource : String := "cdpnav_cli::commands::navigation"

/-- Prints where a page is. -/
def reportLocation (page : Page) (ctx : Context) : CommandOp Unit := do
  let location ← (page.location ctx).asCommand
  CommandOp.inform navigationSource "loaded" [.plain "location" location]
  CommandOp.printLine location

/-- The parameters of a screenshot. The format is always sent, and a quality only for
a format that has one. -/
def screenshotParams (format : ScreenshotFormat) (quality : Option Int) : ScreenshotParams :=
  { format := some format, quality := if format = .png then none else quality }

/-- Takes a screenshot to a file. -/
def saveScreenshot (page : Page) (ctx : Context) (output : String) (format : ScreenshotFormat)
    (quality : Option Int) : CommandOp Unit := do
  let image ← (page.screenshot ctx (screenshotParams format quality)).asCommand
  match ← CommandOp.perform (.save output image) with
  | .error cause => throw (.write output cause)
  | .ok () =>
      CommandOp.inform "cdpnav_cli::commands::screenshot" "screenshot saved"
        [.plain "path" output, .plain "bytes" (toString image.length)]
      CommandOp.printLine output

/-- Runs a command on a page. -/
def PageCommand.run (page : Page) (ctx : Context) : PageCommand → CommandOp Unit
  | .navigate url => do
      let _ ← (page.navigate ctx url).asCommand
      reportLocation page ctx
  | .reload ignoreCache => do
      (page.reload ctx { ignoreCache := if ignoreCache then some true else none }).asCommand
      reportLocation page ctx
  | .back => do
      (page.back ctx).asCommand
      reportLocation page ctx
  | .forward => do
      (page.forward ctx).asCommand
      reportLocation page ctx
  | .history => do
      let history ← (page.entries ctx).asCommand
      CommandOp.perform (.print (History.render history))
  | .stop => do
      (page.stop ctx).asCommand
      CommandOp.inform navigationSource "stopped loading" []
  | .screenshot output format quality => saveScreenshot page ctx output format quality
  | .title => do
      let title ← (page.title ctx).asCommand
      CommandOp.printLine title
  | .location => do
      let location ← (page.location ctx).asCommand
      CommandOp.printLine location

/-- The line of a page in a listing. -/
def targetLine (t : TargetInfo) : String :=
  s!"{t.id.text}  {t.url}  {t.title}"

/-- Prints one line for each of the targets. -/
def printTargets : List TargetInfo → CommandOp Unit
  | [] => return ()
  | t :: rest => do
      CommandOp.printLine (targetLine t)
      printTargets rest

/-- Runs a command on the browser. -/
def Subcommand.run (ctx : Context) (endpoint : Endpoint) (target : Option String) :
    Subcommand → CommandOp Unit
  | .targets => do
      let targets ← Browser.pages ctx endpoint
      printTargets targets
  | .page command => do
      let page ← Browser.attach ctx endpoint target
      command.run page ctx

namespace Invocation

/-- The deadline of an invocation that starts at a time; a timeout of zero is none. -/
def deadline (timeout now : Nat) : Option Nat :=
  if timeout = 0 then none else some (now + timeout)

/-- Runs the command of an invocation on an open connection. -/
def runOpen (i : Invocation) (endpoint : Endpoint) (ctx : Context) : CommandOp Unit :=
  i.command.run ctx endpoint i.target

/-- Runs an invocation. -/
def run (i : Invocation) (ctx : Context) : CommandOp Unit := do
  Browser.openSocket ctx i.endpoint
  i.runOpen i.endpoint ctx

/-- The log's record of an invocation that failed. -/
def failed (e : CommandError) : Log.Record :=
  { level := .error, source := "cdpnav", message := "command failed"
    fields := [.plain "error" e.message] }

/-- Runs an invocation, and puts its failure into the log. -/
def runLogged (i : Invocation) (ctx : Context) : CommandOp Unit := do
  match ← ExceptT.lift (i.run ctx).run with
  | .ok () => return ()
  | .error e =>
      CommandOp.perform (.log (failed e))
      throw e

end Invocation

end PagePilot
