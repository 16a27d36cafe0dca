import PagePilot.Text.Quoted
/-!
# PagePilot.Log.Basic

Records of the log: how grave a thing is, which part of the program says it, a
message, and named values.
-/

namespace PagePilot.Log

/-- How grave a record is, the gravest first. -/
inductive Level
  | error
  | warn
  | info
  | debug
  | trace
deriving Repr, DecidableEq

namespace Level

/-- The place of a level, the gravest having one. -/
def rank : Level → Nat
  | .error => 1
  | .warn => 2
  | .info => 3
  | .debug => 4
  | .trace => 5

/-- How a level is written in a line. -/
def word : Level → String
  | .error => "ERROR"
  | .warn => "WARN"
  | .info => "INFO"
  | .debug => "DEBUG"
  | .trace => "TRACE"

end Level

/-- A named value, as it is written. -/
structure Field where
  name : String
  text : String
deriving Repr, DecidableEq

namespace Field

/-- A value that is shown as it is. -/
def plain (name text : String) : Field :=
  { name, text }

/-- A text that is shown in quotes. -/
def quoted (name text : String) : Field :=
  { name, text := Text.quote text }

end Field

/-- One record. -/
structure Record where
  level : Level
  /-- The part of the program that says it. -/
  source : String
  message : String
  fields : List Field
deriving Repr, DecidableEq

/-- The line of a record: level, source if it is wanted, message and values. -/
def Record.line (withSource : Bool) (r : Record) : String :=
  let source := if withSource then [r.source ++ ":"] else []
  " ".intercalate <|
    [r.level.word] ++ source ++ [r.message] ++ r.fields.map fun f => f.name ++ "=" ++ f.text

end PagePilot.Log
