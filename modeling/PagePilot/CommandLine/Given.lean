import PagePilot.CommandLine.Basic
import PagePilot.Endpoint.Reader
/-!
# PagePilot.CommandLine.Given

The options of the command line and what was given for them. There are two levels:
in front of the command, and behind it. The global options may be given at both.
-/

namespace PagePilot.CommandLine

open Wire (ScreenshotFormat)

/-! ### Options -/

/-- An option without a value. -/
inductive Flag
  | verbose
  | help
  | version
  | ignoreCache
deriving Repr, DecidableEq

/-- An option with a value. -/
inductive Setting
  | endpoint
  | timeout
  | target
  | output
  | format
  | quality
deriving Repr, DecidableEq

/-- An option. -/
inductive Switch
  | flag (flag : Flag)
  | setting (setting : Setting)
deriving Repr, DecidableEq

/-- A command, by its name. -/
inductive Verb
  | targets
  | navigate
  | reload
  | back
  | forward
  | history
  | stop
  | screenshot
  | title
  | location
deriving Repr, DecidableEq

/-- The command with a name, or with its short name. -/
def Verb.ofWord? : String → Option Verb
  | "targets" => some .targets
  | "navigate" => some .navigate
  | "nav" => some .navigate
  | "reload" => some .reload
  | "back" => some .back
  | "forward" => some .forward
  | "history" => some .history
  | "stop" => some .stop
  | "screenshot" => some .screenshot
  | "ss" => some .screenshot
  | "title" => some .title
  | "location" => some .location
  | _ => none

/-- Where words stand: in front of the command, or behind it. -/
inductive Level
  | top
  | behind (verb : Verb)
deriving Repr, DecidableEq

/-- The global option with a long name. -/
def globalLong? : String → Option Switch
  | "verbose" => some (.flag .verbose)
  | "endpoint" => some (.setting .endpoint)
  | "timeout-ms" => some (.setting .timeout)
  | "target" => some (.setting .target)
  | "help" => some (.flag .help)
  | _ => none

/-- The global option with a short name. -/
def globalShort? : Char → Option Switch
  | 'v' => some (.flag .verbose)
  | 'e' => some (.setting .endpoint)
  | 't' => some (.setting .target)
  | 'h' => some (.flag .help)
  | _ => none

/-- The option of a level with a long name. -/
def Level.long? (level : Level) (name : String) : Option Switch :=
  match globalLong? name, level, name with
  | some s, _, _ => some s
  | none, .top, "version" => some (.flag .version)
  | none, .behind .reload, "ignore-cache" => some (.flag .ignoreCache)
  | none, .behind .screenshot, "output" => some (.setting .output)
  | none, .behind .screenshot, "format" => some (.setting .format)
  | none, .behind .screenshot, "quality" => some (.setting .quality)
  | _, _, _ => none

/-- The option of a level with a short name. -/
def Level.short? (level : Level) (name : Char) : Option Switch :=
  match globalShort? name, level, name with
  | some s, _, _ => some s
  | none, .top, 'V' => some (.flag .version)
  | none, .behind .screenshot, 'o' => some (.setting .output)
  | _, _, _ => none

/-- Whether the words of a level may hold one that is no option. -/
def Level.takesWord : Level → Bool
  | .behind .navigate => true
  | _ => false

/-! ### Values -/

/-- The number that a text of decimal digits stands for, with or without a sign; a
minus sign is read only if `signed`. -/
def readInteger? (signed : Bool) (text : List Char) : Option Int :=
  let digits (cs : List Char) : Option Int :=
    if cs.isEmpty || !cs.all Char.isDigit then none
    else some (cs.foldl (fun n c => n * 10 + (c.toNat - '0'.toNat)) 0 : Nat)
  match text with
  | '+' :: rest => digits rest
  | '-' :: rest => if signed then (digits rest).map (- ·) else none
  | cs => digits cs

/-- Reads an endpoint. -/
def readEndpoint (text : String) : Except UsageError Endpoint :=
  (Endpoint.read text).mapError fun _ => .valueValidation

/-- Reads a timeout: a number that fits in sixty-four bits. -/
def readTimeout (text : String) : Except UsageError Nat :=
  match readInteger? false text.toList with
  | some n => if n ≤ 0xffffffffffffffff then .ok n.toNat else .error .valueValidation
  | none => .error .valueValidation

/-- Reads a quality: a number up to a hundred. -/
def readQuality (text : String) : Except UsageError Int :=
  match readInteger? true text.toList with
  | some n => if 0 ≤ n ∧ n ≤ 100 then .ok n else .error .valueValidation
  | none => .error .valueValidation

/-- Reads an image format. -/
def readFormat (text : String) : Except UsageError ScreenshotFormat :=
  match ScreenshotFormat.ofWord? text with
  | some f => .ok f
  | none => .error .invalidValue

/-- Reads a path: anything but nothing. -/
def readPath (text : String) : Except UsageError String :=
  if text.isEmpty then .error .invalidValue else .ok text

/-! ### What was given -/

/-- What was given at one level. -/
structure Given where
  verbose : Nat
  endpoint : Option Endpoint
  timeout : Option Nat
  target : Option String
  ignoreCache : Bool
  output : Option String
  format : Option ScreenshotFormat
  quality : Option Int
  /-- The word that is no option. -/
  word : Option String
deriving Repr

namespace Given

/-- Nothing was given. -/
def nothing : Given :=
  { verbose := 0, endpoint := none, timeout := none, target := none, ignoreCache := false
    output := none, format := none, quality := none, word := none }

/-- Whether nothing at all was given. -/
def isNothing (g : Given) : Bool :=
  g.verbose = 0 && g.endpoint.isNone && g.timeout.isNone && g.target.isNone && !g.ignoreCache
    && g.output.isNone && g.format.isNone && g.quality.isNone && g.word.isNone

/-- The greatest count of a flag. -/
def countLimit : Nat := 255

/-- Puts a value where there is none yet. A second one is a conflict, whatever it
says. -/
def fill (old : Option α) (value : Except UsageError α) : Except UsageError (Option α) :=
  match old with
  | some _ => .error .argumentConflict
  | none => value.map some

/-- Takes the value of an option. -/
def set (g : Given) (setting : Setting) (text : String) : Except UsageError Given :=
  match setting with
  | .endpoint => (fill g.endpoint (readEndpoint text)).map ({ g with endpoint := · })
  | .timeout => (fill g.timeout (readTimeout text)).map ({ g with timeout := · })
  | .target => (fill g.target (.ok text)).map ({ g with target := · })
  | .output => (fill g.output (readPath text)).map ({ g with output := · })
  | .format => (fill g.format (readFormat text)).map ({ g with format := · })
  | .quality => (fill g.quality (readQuality text)).map ({ g with quality := · })

/-- Takes a flag. Help and version end the reading. -/
def raise (g : Given) (flag : Flag) : Except UsageError Given :=
  match flag with
  | .verbose => .ok { g with verbose := min countLimit (g.verbose + 1) }
  | .help => .error .displayHelp
  | .version => .error .displayVersion
  | .ignoreCache =>
      if g.ignoreCache then .error .argumentConflict else .ok { g with ignoreCache := true }

end Given

end PagePilot.CommandLine
