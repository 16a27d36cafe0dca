import PagePilot.Url.Percent
/-!
# PagePilot.Url.Host

Hosts: names, and the two kinds of numeric addresses, each with many spellings
and one canonical text.

A name whose last part is a number has to be an address of the older kind. Its
parts may be decimal, octal or hexadecimal, and the last one fills all bytes that
are left. An address of the newer kind stands in brackets; its text leaves out
the longest run of zeros.
-/

namespace PagePilot.Url

/-- A host. -/
inductive Host
  | name (text : List Char)
  | ipv4 (address : Nat)
  | ipv6 (pieces : List Nat)
deriving Repr, DecidableEq

/-- Cuts a text at every occurrence of a character. -/
def splitAt (sep : Char) : List Char → List (List Char)
  | [] => [[]]
  | c :: rest =>
      if c = sep then [] :: splitAt sep rest
      else
        match splitAt sep rest with
        | [] => [[c]]
        | piece :: pieces => (c :: piece) :: pieces

/-- Puts pieces together with a character between. -/
def joinWith (sep : Char) : List (List Char) → List Char
  | [] => []
  | [piece] => piece
  | piece :: rest => piece ++ sep :: joinWith sep rest

/-! ### The older kind -/

/-- The value of a text as digits of a base; other characters are refused. -/
def digitsValue? (base : Nat) (text : List Char) : Option Nat :=
  text.foldlM
    (fun value c =>
      match hexValue? c with
      | some d => if d < base then some (value * base + d) else none
      | none => none)
    0

/-- One part of an address: `0x` starts a hexadecimal number and another `0` an octal
one. -/
def partValue? : List Char → Option Nat
  | [] => none
  | '0' :: 'x' :: rest => digitsValue? 16 rest
  | '0' :: 'X' :: rest => digitsValue? 16 rest
  | '0' :: c :: rest => digitsValue? 8 (c :: rest)
  | text => digitsValue? 10 text

/-- The parts of a name, without the empty one that a dot at the end leaves. -/
def nameParts (text : List Char) : List (List Char) :=
  let parts := splitAt '.' text
  if 1 < parts.length ∧ parts.getLast? = some [] then parts.dropLast else parts

/-- Whether a name has to be an address: its last part reads as a number. -/
def endsInNumber (text : List Char) : Bool :=
  match (nameParts text).getLast? with
  | none => false
  | some last => (!last.isEmpty && last.all Char.isDigit) || (partValue? last).isSome

/-- The address of the values of its parts. All but the last are bytes. -/
def addressOf? (values : List Nat) : Option Nat :=
  match values.getLast? with
  | none => none
  | some last =>
      let bytes := values.dropLast
      if 3 < bytes.length ∨ bytes.any (255 < ·) ∨ Nat.pow 256 (4 - bytes.length) ≤ last then none
      else some (bytes.foldr (fun b rest => rest / 256 + b * 0x1000000) 0 + last)

/-- Reads an address. -/
def readIpv4? (text : List Char) : Option Nat := do
  let values ← (nameParts text).mapM partValue?
  addressOf? values

/-- The decimal digits of a number. -/
def decimal (n : Nat) : List Char :=
  (toString n).toList

/-- The text of an address. -/
def writeIpv4 (address : Nat) : List Char :=
  joinWith '.' <|
    [address / 0x1000000 % 256, address / 0x10000 % 256, address / 256 % 256, address % 256].map
      decimal

/-! ### The newer kind -/

/-- One piece: one to four hexadecimal digits. -/
def pieceValue? (text : List Char) : Option Nat :=
  if 0 < text.length ∧ text.length ≤ 4 then digitsValue? 16 text else none

/-- A byte in decimal without idle zeros. -/
def byteValue? (text : List Char) : Option Nat :=
  match text with
  | [] => none
  | ['0'] => some 0
  | '0' :: _ => none
  | _ =>
      if text.all Char.isDigit ∧ text.length ≤ 3 then
        (digitsValue? 10 text).filter (· ≤ 255)
      else none

/-- Two pieces written as an address of the older kind: four bytes in decimal. -/
def embedded? (text : List Char) : Option (List Nat) :=
  match (splitAt '.' text).mapM byteValue? with
  | some [a, b, c, d] => some [a * 256 + b, c * 256 + d]
  | _ => none

/-- Pieces with colons between; the last may be an embedded address if `tail`. -/
def piecesOf? (tail : Bool) : List (List Char) → Option (List Nat)
  | [] => some []
  | [last] =>
      if tail ∧ last.contains '.' then embedded? last else (pieceValue? last).map ([·])
  | text :: rest => do
      let piece ← pieceValue? text
      let pieces ← piecesOf? tail rest
      some (piece :: pieces)

/-- Pieces of a text, none for the empty one. -/
def readPieces? (tail : Bool) (text : List Char) : Option (List Nat) :=
  if text.isEmpty then some [] else piecesOf? tail (splitAt ':' text)

/-- Cuts a text at the first pair of colons. -/
def splitAtGap : List Char → Option (List Char × List Char)
  | ':' :: ':' :: rest => some ([], rest)
  | c :: rest => (splitAtGap rest).map fun (before, after) => (c :: before, after)
  | [] => none

/-- Reads an address: eight pieces, or fewer with a gap that stands for at least one
zero. -/
def readIpv6? (text : List Char) : Option (List Nat) :=
  match splitAtGap text with
  | none => do
      let pieces ← readPieces? true text
      if pieces.length = 8 then some pieces else none
  | some (before, after) => do
      let front ← readPieces? false before
      let back ← readPieces? true after
      if front.length + back.length < 8 then
        some (front ++ List.replicate (8 - front.length - back.length) 0 ++ back)
      else none

/-- How many zeros a list starts with. -/
def leadingZeros (pieces : List Nat) : Nat :=
  (pieces.takeWhile (· = 0)).length

/-- Where the first of the longest runs of zeros starts, and how long it is. -/
def longestZeros : Nat → List Nat → Nat × Nat
  | _, [] => (0, 0)
  | start, piece :: rest =>
      let here := leadingZeros (piece :: rest)
      let later := longestZeros (start + 1) rest
      if later.2 ≤ here then (start, here) else later

/-- Small hexadecimal digits of a number. -/
def hexDigits (n : Nat) : List Char :=
  Nat.toDigits 16 n

/-- The text of an address, without brackets: the longest run of two zeros or more is
left out. -/
def writeIpv6 (pieces : List Nat) : List Char :=
  let (start, length) := longestZeros 0 pieces
  let written (ps : List Nat) : List Char := joinWith ':' (ps.map hexDigits)
  if length < 2 then written pieces
  else written (pieces.take start) ++ ':' :: ':' :: written (pieces.drop (start + length))

/-- The text of a host. -/
def Host.text : Host → List Char
  | .name text => text
  | .ipv4 address => writeIpv4 address
  | .ipv6 pieces => '[' :: writeIpv6 pieces ++ [']']

end PagePilot.Url
