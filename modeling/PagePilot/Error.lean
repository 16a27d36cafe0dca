import PagePilot.Wire.DecodeError
/-!
# PagePilot.Error

What can go wrong with a command, and the wording of each cause.
-/

namespace PagePilot

/-- Why a command on the page, or on the browser, failed. -/
inductive Error
  /-- The browser refused the command. -/
  | protocol (code : Int) (text : String)
  /-- Reading from the browser or writing to it failed. -/
  | transport (text : String)
  /-- The connection ended before the answer came. -/
  | connectionClosed
  /-- The target, or the session on it, is gone. -/
  | targetClosed (text : String)
  /-- The answer does not read as what the command returns. -/
  | json (cause : Wire.DecodeError)
  /-- The browser took the navigation and could not start it. -/
  | navigationFailed (text : String)
  /-- There is no entry before the first or after the last. -/
  | invalidNavigationEntry (currentIndex : Int) (length : Nat)
  /-- An expression threw, or has a value of another kind. -/
  | evaluation (text : String)
  /-- The data of an image are not what they should be. -/
  | decode (text : String)
  /-- The governing context was cancelled. -/
  | cancelled
  /-- The deadline of the governing context has passed. -/
  | deadlineExceeded
deriving Repr, DecidableEq

namespace Error

/-- Whether the error comes from the governing context and not from the browser. -/
def isCancellation : Error → Bool
  | .cancelled | .deadlineExceeded => true
  | _ => false

/-- Whether the error is a deadline that has passed. -/
def isTimeout : Error → Bool
  | .deadlineExceeded => true
  | _ => false

/-- The wording of an error. -/
def message : Error → String
  | .protocol code text => s!"Protocol error ({code}): {text}"
  | .transport text => s!"Transport error: {text}"
  | .connectionClosed => "Connection closed"
  | .targetClosed text => s!"Target closed: {text}"
  | .json cause => s!"JSON error: {cause.message}"
  | .navigationFailed text => s!"Navigation failed: {text}"
  | .invalidNavigationEntry currentIndex length =>
      s!"invalid navigation entry: current index {currentIndex} of {length} entries"
  | .evaluation text => s!"Evaluation failed: {text}"
  | .decode text => s!"Decode error: {text}"
  | .cancelled => "context canceled"
  | .deadlineExceeded => "context deadline exceeded"

end Error

/-- Why an invocation of the program failed. -/
inductive CommandError
  /-- A command to the browser failed. -/
  | command (cause : Error)
  /-- The text names no endpoint. -/
  | invalidEndpoint (text : String)
  /-- The browser's discovery pages could not be had. -/
  | discovery (url : String) (text : String)
  /-- No target is a page. -/
  | noPageTarget (endpoint : String)
  /-- A file could not be written. -/
  | write (path : String) (cause : String)
  /-- The output could not be written. -/
  | output (cause : String)
deriving Repr, DecidableEq

namespace CommandError

/-- The wording of an error. -/
def message : CommandError → String
  | .command cause => cause.message
  | .invalidEndpoint text =>
      s!"Invalid endpoint '{text}': expected host:port, http://host:port or ws://..."
  | .discovery url text => s!"Endpoint discovery failed at {url}: {text}"
  | .noPageTarget endpoint => s!"No page target found at {endpoint}"
  | .write path cause => s!"Failed to write {path}: {cause}"
  | .output cause => s!"IO error: {cause}"

/-- The exit code: two for a deadline that has passed, else one. -/
def exitCode : CommandError → Nat
  | .command cause => if cause.isTimeout then 2 else 1
  | _ => 1

end CommandError

end PagePilot
