import PagePilot.Endpoint.Basic
import PagePilot.Wire.Screenshot
/-!
# PagePilot.CommandLine.Basic

What an invocation of the program asks for.
-/

namespace PagePilot

open Wire (ScreenshotFormat)

/-- A command on a page. -/
inductive PageCommand
  | navigate (url : String)
  | reload (ignoreCache : Bool)
  | back
  | forward
  | history
  | stop
  | screenshot (output : String) (format : ScreenshotFormat) (quality : Option Int)
  | title
  | location
deriving Repr, DecidableEq

/-- A command of the program. -/
inductive Subcommand
  /-- Lists the pages. -/
  | targets
  | page (command : PageCommand)
deriving Repr, DecidableEq

/-- A whole invocation. -/
structure Invocation where
  /-- How often more words were asked for. -/
  verbose : Nat
  endpoint : Endpoint
  /-- How long the command may take, in milliseconds; zero is no limit. -/
  timeout : Nat
  /-- The page to attach to; without one the first is taken. -/
  target : Option String
  command : Subcommand
deriving Repr, DecidableEq

/-- Why an invocation is not understood, or not meant to run. -/
inductive UsageError
  | argumentConflict
  | displayHelp
  | displayHelpOnMissingArgument
  | displayVersion
  | invalidSubcommand
  | invalidValue
  | missingRequiredArgument
  | missingSubcommand
  | tooManyValues
  | unknownArgument
  | valueValidation
deriving Repr, DecidableEq

namespace UsageError

/-- The exit code: help and version were asked for, all else is a mistake. -/
def exitCode : UsageError → Nat
  | .displayHelp | .displayVersion => 0
  | _ => 2

/-- The wording of a mistake; none for what was asked for. -/
def message? : UsageError → Option String
  | .displayHelp | .displayVersion => none
  | .argumentConflict => some "an option is given twice"
  | .displayHelpOnMissingArgument | .missingSubcommand => some "a command is missing"
  | .invalidSubcommand => some "there is no such command"
  | .invalidValue => some "a value is missing or not one of those that are possible"
  | .missingRequiredArgument => some "an argument is missing"
  | .tooManyValues => some "a flag takes no value"
  | .unknownArgument => some "an argument is unknown or one too many"
  | .valueValidation => some "a value does not read as what it should be"

end UsageError

end PagePilot
