import PagePilot.Log.Basic
import PagePilot.Text.Blank
/-!
# PagePilot.Log.Filter

Which records of the log are written. A filter is a list of directives, each of
which says from which level on the records of a source are written; a source is
meant by every text that it begins with. Of the directives that concern a record the
one with the longest source decides, and of two with the same source the later. A
record that no directive concerns is not written.

The written form has the directives between commas, each a level, a source, or a source
and a level with an equals sign between them. A source alone lets everything pass.
-/

namespace PagePilot.Log

/-- Up to which level records are written. -/
inductive Threshold
  | silent
  | upTo (level : Level)
deriving Repr, DecidableEq

namespace Threshold

/-- Whether records of a level are written. -/
def admits (t : Threshold) (level : Level) : Bool :=
  match t with
  | .silent => false
  | .upTo most => level.rank ≤ most.rank

/-- The threshold of a number, which is the rank of its level. -/
def ofRank? : Nat → Option Threshold
  | 0 => some .silent
  | 1 => some (.upTo .error)
  | 2 => some (.upTo .warn)
  | 3 => some (.upTo .info)
  | 4 => some (.upTo .debug)
  | 5 => some (.upTo .trace)
  | _ => none

/-- The threshold that a word means, in letters of either case. -/
def ofWord? (word : List Char) : Option Threshold :=
  match String.ofList (word.map Char.toLower) with
  | "off" => some .silent
  | "error" => some (.upTo .error)
  | "warn" => some (.upTo .warn)
  | "info" => some (.upTo .info)
  | "debug" => some (.upTo .debug)
  | "trace" => some (.upTo .trace)
  | _ => none

/-- The number that digits write, with a plus in front or not. -/
def number? (word : List Char) : Option Nat :=
  let digits := if word.head? = some '+' then word.tail else word
  if digits.isEmpty ∨ !digits.all Char.isDigit then none
  else some (digits.foldl (fun n d => 10 * n + (d.toNat - '0'.toNat)) 0)

/-- Reads a threshold: a word or a number. -/
def read? (text : List Char) : Option Threshold :=
  match number? text with
  | some n => ofRank? n
  | none => ofWord? text

end Threshold

/-- Up to which level the records of a source are written. -/
structure Directive where
  /-- What the source begins with. -/
  source : List Char
  threshold : Threshold
  /-- Whether it concerns only what happens within a span; this program opens none. -/
  spanned : Bool
deriving Repr, DecidableEq

namespace Directive

/-- A directive for the records of a source. -/
def onSource (source : String) (level : Level) : Directive :=
  { source := source.toList, threshold := .upTo level, spanned := false }

/-- Whether a directive concerns a record. -/
def concerns (d : Directive) (r : Record) : Bool :=
  !d.spanned && d.source.isPrefixOf r.source.toList

/-- Whether a directive may begin with a character. -/
def mayBegin (c : Char) : Bool :=
  c.isAlphanum || c = '-' || c = ':' || c = '_' || c = '[' || 0x80 ≤ c.toNat

/-- The threshold behind an equals sign; nothing there lets everything pass. -/
def readThreshold (text : List Char) : Option Threshold :=
  if text.isEmpty then some (.upTo .trace) else Threshold.read? text

/-- Reads what follows the bracket that ends a span. -/
def readSpanEnd (source text : List Char) : Option Directive :=
  match text with
  | [] => some { source, threshold := .upTo .trace, spanned := true }
  | '=' :: level =>
      (readThreshold level).map fun threshold => { source, threshold, spanned := true }
  | _ => none

/-- Reads a directive, without blanks around it. -/
def readTrimmed (text : List Char) : Option Directive :=
  let source := text.takeWhile fun c => c ≠ '=' ∧ c ≠ '['
  match text.drop source.length with
  | '=' :: level =>
      (readThreshold level).map fun threshold => { source, threshold, spanned := false }
  | '[' :: span =>
      match span.dropWhile (· ≠ ']') with
      | ']' :: rest => readSpanEnd source rest
      | _ => none
  | _ =>
      match Threshold.read? source with
      | some threshold => some { source := [], threshold, spanned := false }
      | none => some { source, threshold := .upTo .trace, spanned := false }

/-- Reads a directive. -/
def read? (text : List Char) : Option Directive :=
  match Text.trim text with
  | [] => none
  | c :: rest => if mayBegin c then readTrimmed (c :: rest) else none

end Directive

/-- A list of directives. -/
structure Filter where
  directives : List Directive
deriving Repr, DecidableEq

namespace Filter

/-- The directive that decides on a record, of two directives that concern it. -/
def moreSpecific (earlier later : Directive) : Directive :=
  if later.source.length < earlier.source.length then earlier else later

/-- The directive that decides on a record. -/
def deciding? (f : Filter) (r : Record) : Option Directive :=
  match f.directives.filter (·.concerns r) with
  | [] => none
  | d :: rest => some (rest.foldl moreSpecific d)

/-- Whether a record is written. -/
def admits (f : Filter) (r : Record) : Bool :=
  match f.deciding? r with
  | some d => d.threshold.admits r.level
  | none => false

/-- Cuts a text at every comma. -/
def splitAtCommas : List Char → List (List Char)
  | [] => [[]]
  | ',' :: rest => [] :: splitAtCommas rest
  | c :: rest =>
      match splitAtCommas rest with
      | [] => [[c]]
      | piece :: pieces => (c :: piece) :: pieces

/-- Reads a filter. Empty directives are idle. -/
def read? (text : String) : Option Filter := do
  let pieces := (splitAtCommas text.toList).filter fun piece => !piece.isEmpty
  let directives ← pieces.mapM Directive.read?
  return ⟨directives⟩

/-- The parts of the program, by what their sources begin with. -/
def ownSources : List String :=
  ["cdpnav", "cdpnav_cli", "cdpnav_runtime"]

/-- The filter for how often more words were asked for: that lets more pass of the
program's own parts, and of nothing else. -/
def ofVerbosity (verbose : Nat) : Filter :=
  let level : Level := if verbose = 1 then .info else .debug
  let own := if verbose = 0 then [] else ownSources.map fun source => .onSource source level
  ⟨.onSource "" .warn :: own⟩

/-- The filter of an invocation: the one that is set, if it can be read, else the one
for the verbosity. -/
def choose (setting : Option String) (verbose : Nat) : Filter :=
  (setting.bind read?).getD (ofVerbosity verbose)

end Filter

end PagePilot.Log
