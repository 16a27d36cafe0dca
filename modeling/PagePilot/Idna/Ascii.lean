import PagePilot.Idna.Classes
import PagePilot.Idna.Mapping
import PagePilot.Idna.Punycode
/-!
# PagePilot.Idna.Ascii

Host names of any characters as names in ASCII. The characters are mapped, the name
is composed, and each part between dots is looked at: a part with other than ASCII
characters is written as `xn--` and its Punycode, and a part that comes so written
must be what would be written.
-/

namespace PagePilot.Idna

/-! ### Mapping -/

/-- What stands for a character, if it is not refused. -/
def mapped? (c : Char) : Option (List Char) :=
  match mappingOf c with
  | .kept => some [c]
  | .dropped => some []
  | .refused => none
  | .replaced by_ => some by_

/-- What stands for a text, if none of its characters is refused. -/
def mapAll? : List Char → Option (List Char)
  | [] => some []
  | c :: rest => do
      let front ← mapped? c
      let back ← mapAll? rest
      some (front ++ back)

/-! ### Joiners -/

/-- Whether the letter nearest to a place, looked at past transparent marks, joins to
that side. -/
def joinsToward (wanted : List Joining) : List Char → Bool
  | [] => false
  | c :: rest =>
      match joiningOf c with
      | .transparent => joinsToward wanted rest
      | j => wanted.contains j

/-- Whether the joiners of a part are in their places: behind a virama, or, for the
one that keeps letters apart, between letters that would join. `before` is what
stands in front, the last character first. -/
def joinersFit (before : List Char) : List Char → Bool
  | [] => true
  | c :: rest =>
      let afterVirama :=
        match before with
        | v :: _ => isVirama v
        | [] => false
      let fits :=
        if c = '\u200d' then afterVirama
        else if c = '\u200c' then
          afterVirama
            || (joinsToward [.left, .both] before && joinsToward [.right, .both] rest)
        else true
      fits && joinersFit (c :: before) rest

/-! ### Direction -/

/-- Whether a part has something that is written from right to left. -/
def hasRightToLeft (part : List Char) : Bool :=
  part.any fun c => [.rightToLeft, .arabicLetter, .arabicNumber].contains (directionOf c)

/-- Whether a part keeps to one direction, in a name in which both occur. -/
def directionsFit (part : List Char) : Bool :=
  let directions := part.map directionOf
  let ends := directions.reverse.dropWhile (· = .mark)
  let shared : List Direction :=
    [.europeanNumber, .numberSeparator, .commonSeparator, .numberTerminator, .neutral,
      .boundaryNeutral, .mark]
  match directions.head?, ends.head? with
  | none, _ => true
  | some .leftToRight, some last =>
      directions.all (fun d => d = .leftToRight || shared.contains d)
        && (last = .leftToRight || last = .europeanNumber)
  | some first, some last =>
      (first = .rightToLeft || first = .arabicLetter)
        && directions.all
          (fun d => d = .rightToLeft || d = .arabicLetter || d = .arabicNumber || shared.contains d)
        && [.rightToLeft, .arabicLetter, .europeanNumber, .arabicNumber].contains last
        && !(directions.contains .europeanNumber && directions.contains .arabicNumber)
  | some _, none => false

/-! ### Parts -/

/-- What marks a part that is written in Punycode. -/
def mark : List Char :=
  ['x', 'n', '-', '-']

/-- Whether a character may stand in a part. -/
def isKept (c : Char) : Bool :=
  mappingOf c = .kept

/-- The text that a part is written for. What comes in Punycode must need it, and must not be
marked once more. -/
def unwritten? (part : List Char) : Option (List Char) :=
  if mark.isPrefixOf part then do
    let text ← Punycode.decode? (part.drop mark.length)
    if text.all Punycode.isBasic || mark.isPrefixOf text then none else some text
  else some part

/-- Whether a text may be a part: it is composed, all its characters may stand in one, the first
is no mark, and the joiners are in their places. -/
def isValid (text : List Char) : Bool :=
  compose text = text && text.all isKept && text.head?.all (!isMark ·) && joinersFit [] text

/-- The text that a part stands for, if the part is well formed. -/
def partText? (part : List Char) : Option (List Char) :=
  (unwritten? part).filter isValid

/-- How a text is written in ASCII. -/
def writePart (text : List Char) : List Char :=
  if text.all Punycode.isBasic then text else mark ++ Punycode.encode text

/-! ### Names -/

/-- Cuts a name at its dots. -/
def splitAtDots : List Char → List (List Char)
  | [] => [[]]
  | '.' :: rest => [] :: splitAtDots rest
  | c :: rest =>
      match splitAtDots rest with
      | [] => [[c]]
      | part :: parts => (c :: part) :: parts

/-- Puts parts together with dots between. -/
def joinWithDots : List (List Char) → List Char
  | [] => []
  | [part] => part
  | part :: rest => part ++ '.' :: joinWithDots rest

/-- The ASCII characters besides controls that no host has. -/
def forbidden : List Char :=
  [' ', '#', '%', '/', ':', '<', '>', '?', '@', '[', '\\', ']', '^', '|', '\x7f']

/-- Whether a host may have a character. -/
def isAllowed (c : Char) : Bool :=
  ' ' ≤ c && !forbidden.contains c

/-- A name in ASCII, if it is a name. -/
def toAscii? (name : List Char) : Option (List Char) := do
  let text ← mapAll? name
  let parts ← (splitAtDots (compose text)).mapM partText?
  if parts.any hasRightToLeft && !parts.all directionsFit then none
  else
    let ascii := joinWithDots (parts.map writePart)
    if ascii.all isAllowed then some ascii else none

end PagePilot.Idna
