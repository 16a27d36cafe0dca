/-!
# PagePilot.Idna.Table

Compact texts for the tables of Unicode. Numbers are written in base thirty-six
with small letters, so that capitals can mark what follows them; entries are
separated by spaces.
-/

namespace PagePilot.Idna

/-- The value of a digit in base thirty-six. -/
def digit36? (c : Char) : Option Nat :=
  if '0' ≤ c ∧ c ≤ '9' then some (c.toNat - '0'.toNat)
  else if 'a' ≤ c ∧ c ≤ 'z' then some (c.toNat - 'a'.toNat + 10)
  else none

/-- Reads the number at the start of a text, continuing from `value`. -/
def readNumberFrom (value : Nat) : List Char → Nat × List Char
  | [] => (value, [])
  | c :: rest =>
      match digit36? c with
      | some d => readNumberFrom (value * 36 + d) rest
      | none => (value, c :: rest)

/-- Reads the number at the start of a text; zero when there is none. -/
def readNumber (text : List Char) : Nat × List Char :=
  readNumberFrom 0 text

/-- The numbers of a text, with any other character between. -/
def readNumbersFrom (value : Nat) : List Char → List Nat
  | [] => [value]
  | c :: rest =>
      match digit36? c with
      | some d => readNumbersFrom (value * 36 + d) rest
      | none => value :: readNumbersFrom 0 rest

/-- The entries of a line. -/
def entriesFrom (entry : List Char) : List Char → List (List Char)
  | [] => [entry]
  | ' ' :: rest => entry :: entriesFrom [] rest
  | c :: rest => entriesFrom (entry ++ [c]) rest

/-- The entries of all lines. -/
def entries (lines : List String) : List (List Char) :=
  lines.flatMap fun line => entriesFrom [] line.toList

/-- Characters that have something in common, with what is said of them. -/
structure Range where
  first : Nat
  last : Nat
  tag : List Char
deriving Repr

/-- Reads ranges: how far each starts behind the last one, behind a dot how much
longer than one it is, and what is said of it. -/
def rangesFrom (position : Nat) : List (List Char) → List Range
  | [] => []
  | entry :: rest =>
      let (gap, tail) := readNumber entry
      let first := position + gap
      match tail with
      | '.' :: tail =>
          let (more, tag) := readNumber tail
          { first, last := first + more, tag } :: rangesFrom (first + more) rest
      | tag => { first, last := first, tag } :: rangesFrom first rest

/-- The ranges of a table. -/
def ranges (lines : List String) : List Range :=
  rangesFrom 0 (entries lines)

/-- What a table says of a character. -/
def tagOf? (table : List Range) (c : Char) : Option (List Char) :=
  (table.find? fun r => r.first ≤ c.toNat && c.toNat ≤ r.last).map Range.tag

end PagePilot.Idna
