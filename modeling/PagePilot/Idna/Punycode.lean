/-!
# PagePilot.Idna.Punycode

Any text as letters, digits and hyphens. The ASCII characters come first as they
are; behind the last hyphen a row of numbers says where the others are put in, in
the order of their code points. A number is written in base thirty-six, the least
digit first, and a digit below a threshold is its last one.
-/

namespace PagePilot.Idna.Punycode

/-- A digit as a character: letters first. -/
def digit (d : Nat) : Char :=
  if d < 26 then Char.ofNat ('a'.toNat + d) else Char.ofNat ('0'.toNat + d - 26)

/-- The value of a digit. -/
def value? (c : Char) : Option Nat :=
  if 'a' ≤ c ∧ c ≤ 'z' then some (c.toNat - 'a'.toNat)
  else if 'A' ≤ c ∧ c ≤ 'Z' then some (c.toNat - 'A'.toNat)
  else if '0' ≤ c ∧ c ≤ '9' then some (c.toNat - '0'.toNat + 26)
  else none

/-- The threshold of the digit at position `k`, counted in steps of thirty-six. -/
def threshold (k bias : Nat) : Nat :=
  min 26 (max 1 (k - bias))

theorem threshold_pos (k bias : Nat) : 0 < threshold k bias := by
  unfold threshold; omega

/-- How often a distance is divided by thirty-five until it is small, in steps of
thirty-six, and what is left. -/
def shrink (distance k : Nat) : Nat × Nat :=
  if 455 < distance then shrink (distance / 35) (k + 36) else (k, distance)
termination_by distance

/-- The bias after a distance, when `count` characters are in place. -/
def adapt (distance count : Nat) (first : Bool) : Nat :=
  let scaled := if first then distance / 700 else distance / 2
  let (k, rest) := shrink (scaled + scaled / count) 0
  k + 36 * rest / (rest + 38)

/-! ### Writing -/

/-- The digits of a number. -/
def writeNumber (bias k q : Nat) : List Char :=
  let t := threshold k bias
  if q < t then [digit q]
  else digit (t + (q - t) % (36 - t)) :: writeNumber bias (k + 36) ((q - t) / (36 - t))
termination_by q
decreasing_by
  have := threshold_pos k bias
  exact Nat.lt_of_le_of_lt (Nat.div_le_self _ _) (by omega)

/-- How far the writing has come: how many characters are in place, the distance from
the last one, and the bias. -/
structure Written where
  text : List Char
  count : Nat
  distance : Nat
  bias : Nat

/-- Passes a character of the text while the ones with code point `point` are
written. -/
def pass (basic point : Nat) (w : Written) (c : Char) : Written :=
  if c.toNat < point then { w with distance := w.distance + 1 }
  else if c.toNat = point then
    { text := w.text ++ writeNumber w.bias 36 w.distance
      count := w.count + 1
      distance := 0
      bias := adapt w.distance (w.count + 1) (w.count = basic) }
  else w

/-- Writes the characters of several code points, the lowest first; `next` is the
lowest that has not been looked at. -/
def writePoints (text : List Char) (basic : Nat) : Nat → List Nat → Written → Written
  | _, [], w => w
  | next, point :: rest, w =>
      let w := { w with distance := w.distance + (point - next) * (w.count + 1) }
      let w := text.foldl (pass basic point) w
      writePoints text basic (point + 1) rest { w with distance := w.distance + 1 }

/-- Whether a character stands for itself. -/
def isBasic (c : Char) : Bool :=
  c.toNat < 0x80

/-- The code points of the other characters, in order, each once. -/
def otherPoints (text : List Char) : List Nat :=
  (((text.filter (!isBasic ·)).map Char.toNat).mergeSort (· ≤ ·)).eraseDups

/-- Writes a text. -/
def encode (text : List Char) : List Char :=
  let basic := text.filter isBasic
  let start : Written :=
    { text := if basic.isEmpty then [] else basic ++ ['-']
      count := basic.length, distance := 0, bias := 72 }
  (writePoints text basic.length 0x80 (otherPoints text) start).text

/-! ### Reading -/

/-- How far the reading has come: the text so far, the current code point and place,
and of the number that is being read where it started, the position of its next
digit and what that digit counts for. -/
structure ReadState where
  text : List Char
  point : Nat
  place : Nat
  start : Nat
  bias : Nat
  k : Nat
  weight : Nat

/-- Puts a character in at the end of a number. -/
def ReadState.insert (s : ReadState) : Option ReadState :=
  let count := s.text.length + 1
  let point := s.point + s.place / count
  let place := s.place % count
  if h : point.isValidChar then
    some
      { text := s.text.take place ++ Char.ofNatAux point h :: s.text.drop place
        point
        place := place + 1
        start := place + 1
        bias := adapt (s.place - s.start) count (s.start = 0)
        k := 36
        weight := 1 }
  else none

/-- Reads one digit. -/
def ReadState.step (s : ReadState) (c : Char) : Option ReadState := do
  let d ← value? c
  let t := threshold s.k s.bias
  let s := { s with place := s.place + d * s.weight }
  if d < t then s.insert else some { s with k := s.k + 36, weight := s.weight * (36 - t) }

/-- Cuts a text at its last hyphen; all of it is behind when there is none, or nothing in
front of it. -/
def splitAtLastHyphen (text : List Char) : List Char × List Char :=
  let behind := (text.reverse.takeWhile (· ≠ '-')).reverse
  let front := text.take (text.length - behind.length - 1)
  if front.isEmpty then ([], text) else (front, behind)

/-- Reads a text. -/
def decode? (text : List Char) : Option (List Char) := do
  let (basic, numbers) := splitAtLastHyphen text
  let start : ReadState :=
    { text := basic, point := 0x80, place := 0, start := 0, bias := 72, k := 36, weight := 1 }
  let s ← numbers.foldlM ReadState.step start
  if s.k = 36 ∧ basic.all isBasic then some s.text else none

end PagePilot.Idna.Punycode
