import PagePilot.CommandLine.Given
/-!
# PagePilot.CommandLine.Reader

Reading the words of an invocation. They are read from left to right, and the first
mistake counts; the value of an option is looked at when the next option comes, or
at the end of its level. So behind the command comes before in front of it when both
are wrong in their last value.

The environment stands in for options that are not given, level by level: its values
are looked at even when the other level has the option.
-/

namespace PagePilot.CommandLine

/-! ### Words -/

/-- What a word looks like. -/
inductive Shape
  /-- Two hyphens: no options from now on. -/
  | escape
  /-- Two hyphens and a name, perhaps with a value behind an equals sign. -/
  | long (name : String) (value : Option String)
  /-- A hyphen and short names in a row. -/
  | short (names : List Char)
  | plain
deriving Repr, DecidableEq

/-- The shape of a word. A single hyphen is nothing special. -/
def Shape.of (word : String) : Shape :=
  match word.toList with
  | ['-', '-'] => .escape
  | '-' :: '-' :: rest =>
      let name := String.ofList (rest.takeWhile (· ≠ '='))
      match rest.dropWhile (· ≠ '=') with
      | _ :: value => .long name (some (String.ofList value))
      | [] => .long name none
  | '-' :: c :: rest => .short (c :: rest)
  | _ => .plain

/-! ### One level -/

/-- How far the reading of a level has come. -/
structure Progress where
  given : Given
  /-- The last option with a value, which is not looked at yet, and may be missing. -/
  pending : Option (Setting × Option String)
  /-- Whether the options are over. -/
  escaped : Bool
deriving Repr

namespace Progress

/-- Nothing is read yet. -/
def start : Progress :=
  { given := .nothing, pending := none, escaped := false }

/-- Looks at the value that is not looked at yet. -/
def resolve (p : Progress) : Except UsageError Progress :=
  match p.pending with
  | none => .ok p
  | some (_, none) => .error .invalidValue
  | some (setting, some text) =>
      (p.given.set setting text).map fun given => { p with given, pending := none }

/-- Takes a flag. -/
def takeFlag (p : Progress) (flag : Flag) : Except UsageError Progress := do
  let p ← p.resolve
  let given ← p.given.raise flag
  return { p with given }

/-- Takes an option with a value; a value that does not come with it is expected in
the next word. -/
def takeSetting (p : Progress) (setting : Setting) (attached : Option String) :
    Except UsageError Progress := do
  let p ← p.resolve
  match attached with
  | none => return { p with pending := some (setting, none) }
  | some text =>
      let given ← p.given.set setting text
      return { p with given }

/-- Takes a long option. -/
def takeLong (level : Level) (p : Progress) (name : String) (value : Option String) :
    Except UsageError Progress :=
  match level.long? name, value with
  | none, _ => .error .unknownArgument
  | some (.flag _), some _ => .error .tooManyValues
  | some (.flag flag), none => p.takeFlag flag
  | some (.setting setting), value => p.takeSetting setting value

/-- The value behind a short name in the same word, without an equals sign in front. -/
def attachedValue : List Char → Option String
  | [] => none
  | '=' :: rest => some (String.ofList rest)
  | rest => some (String.ofList rest)

/-- Takes short options in a row. One with a value takes all that follows. -/
def takeShort (level : Level) (p : Progress) : List Char → Except UsageError Progress
  | [] => .ok p
  | c :: rest =>
      match level.short? c with
      | none => .error .unknownArgument
      | some (.setting setting) => p.takeSetting setting (attachedValue rest)
      | some (.flag flag) => do
          let p ← p.takeFlag flag
          takeShort level p rest

/-- Whether the next word is the value of an option. -/
def awaitsValue (p : Progress) : Bool :=
  match p.pending with
  | some (_, none) => !p.escaped
  | _ => false

/-- Takes a word as the value of the option that awaits one. -/
def takeValue (p : Progress) (word : String) : Progress :=
  { p with pending := p.pending.map fun (setting, _) => (setting, some word) }

/-- Takes an option, if a word is one: `none` for a word that is none. -/
def takeOption? (level : Level) (p : Progress) (word : String) :
    Option (Except UsageError Progress) :=
  if p.escaped then none
  else
    match Shape.of word with
    | .escape => some (.ok { p with escaped := true })
    | .long name value => some (p.takeLong level name value)
    | .short names => some (p.takeShort level names)
    | .plain => none

end Progress

/-! ### Behind the command -/

/-- Takes a word that is no option. -/
def takeWord (verb : Verb) (p : Progress) (word : String) : Except UsageError Progress :=
  if (Level.behind verb).takesWord ∧ p.given.word.isNone then do
    let p ← p.resolve
    return { p with given := { p.given with word := some word } }
  else .error .unknownArgument

/-- Reads the words behind the command. -/
def readBehind (verb : Verb) (p : Progress) : List String → Except UsageError Progress
  | [] => p.resolve
  | word :: rest =>
      match p.takeOption? (.behind verb) word with
      | some (.ok p) => readBehind verb p rest
      | some (.error e) => .error e
      | none =>
          if p.awaitsValue then readBehind verb (p.takeValue word) rest
          else
            match takeWord verb p word with
            | .ok p => readBehind verb p rest
            | .error e => .error e

/-! ### The environment -/

/-- What the environment says. -/
structure Environment where
  endpoint : Option String
  timeout : Option String
deriving Repr

namespace Environment

/-- An environment that says nothing. -/
def empty : Environment :=
  { endpoint := none, timeout := none }

/-- Looks at the value for an option that is not given. -/
def lookAt (given : Option α) (value : Option String) (read : String → Except UsageError α) :
    Except UsageError (Option α) :=
  match given, value with
  | none, some text => (read text).map some
  | _, _ => .ok none

/-- Looks at the values for what is not given at a level. -/
def complete (env : Environment) (g : Given) :
    Except UsageError (Option Endpoint × Option Nat) := do
  let endpoint ← lookAt g.endpoint env.endpoint readEndpoint
  let timeout ← lookAt g.timeout env.timeout readTimeout
  return (endpoint, timeout)

end Environment

/-! ### The whole -/

/-- The endpoint when none is given. -/
def defaultEndpoint : Endpoint :=
  .http "127.0.0.1" Endpoint.discoveryPort false

/-- The timeout when none is given, in milliseconds. -/
def defaultTimeout : Nat := 30000

/-- The file that a screenshot goes to when none is given. -/
def defaultOutput : String := "screenshot.png"

/-- The command of what was given behind it. -/
def commandOf (verb : Verb) (g : Given) : Except UsageError Subcommand :=
  match verb with
  | .targets => .ok .targets
  | .navigate =>
      match g.word with
      | some url => .ok (.page (.navigate url))
      | none => .error .missingRequiredArgument
  | .reload => .ok (.page (.reload g.ignoreCache))
  | .back => .ok (.page .back)
  | .forward => .ok (.page .forward)
  | .history => .ok (.page .history)
  | .stop => .ok (.page .stop)
  | .screenshot =>
      .ok (.page (.screenshot (g.output.getD defaultOutput) (g.format.getD .png) g.quality))
  | .title => .ok (.page .title)
  | .location => .ok (.page .location)

/-- Reads the words behind a command, with what was read in front of it. -/
def finish (env : Environment) (front : Progress) (verb : Verb) (words : List String) :
    Except UsageError Invocation := do
  let back ← readBehind verb .start words
  let inner ← env.complete back.given
  let command ← commandOf verb back.given
  let front ← front.resolve
  let outer ← env.complete front.given
  let near := back.given
  let far := front.given
  return {
    verbose := if near.verbose = 0 then far.verbose else near.verbose
    endpoint := (near.endpoint <|> far.endpoint <|> inner.1 <|> outer.1).getD defaultEndpoint
    timeout := (near.timeout <|> far.timeout <|> inner.2 <|> outer.2).getD defaultTimeout
    target := near.target <|> far.target
    command }

/-- Reads an invocation that ends before a command. -/
def finishWithout (env : Environment) (front : Progress) : UsageError :=
  let result : Except UsageError UsageError := do
    let front ← front.resolve
    let (endpoint, timeout) ← env.complete front.given
    return if front.given.isNothing && endpoint.isNone && timeout.isNone then
        .displayHelpOnMissingArgument
      else .missingSubcommand
  match result with
  | .ok e => e
  | .error e => e

/-- The word that asks for help. -/
def helpWord : String := "help"

/-- Answers the word for help: a command may follow whose help is wanted. -/
def help : List String → UsageError
  | [] => .displayHelp
  | [word] =>
      if word = helpWord ∨ (Verb.ofWord? word).isSome then .displayHelp else .invalidSubcommand
  | _ => .invalidSubcommand

/-- Reads the words in front of the command. -/
def readFront (env : Environment) (p : Progress) : List String → Except UsageError Invocation
  | [] => .error (finishWithout env p)
  | word :: rest =>
      match p.takeOption? .top word with
      | some (.ok p) => readFront env p rest
      | some (.error e) => .error e
      | none =>
          if p.awaitsValue then readFront env (p.takeValue word) rest
          else
            match Verb.ofWord? word with
            | some verb => if p.escaped then .error .unknownArgument else finish env p verb rest
            | none =>
                if word = helpWord then
                  .error (if p.escaped then .unknownArgument else help rest)
                else .error .invalidSubcommand

/-- Reads an invocation: its words without the name of the program. -/
def read (env : Environment) (words : List String) : Except UsageError Invocation :=
  readFront env .start words

end PagePilot.CommandLine
