/-!
# PagePilot.Base64

Standard base64 with padding: three bytes in four symbols. The decoder takes
exactly what the encoder writes. It refuses missing or surplus padding, any
other character, and low bits that would be dropped, and says which of these it
met first.

A text is read in groups of four. All groups but the last hold four symbols; the
last holds two to four, and padding.
-/

namespace PagePilot.Base64

/-! ### Symbols -/

/-- The padding character. -/
def pad : UInt8 := 61

/-- The symbol of a number below sixty-four. -/
def symbol (n : Nat) : UInt8 :=
  if n < 26 then .ofNat (65 + n)
  else if n < 52 then .ofNat (97 + (n - 26))
  else if n < 62 then .ofNat (48 + (n - 52))
  else if n = 62 then 43
  else 47

/-- The number of a symbol, if a byte is one. -/
def value? (b : UInt8) : Option Nat :=
  let n := b.toNat
  if 65 ≤ n ∧ n ≤ 90 then some (n - 65)
  else if 97 ≤ n ∧ n ≤ 122 then some (n - 97 + 26)
  else if 48 ≤ n ∧ n ≤ 57 then some (n - 48 + 52)
  else if n = 43 then some 62
  else if n = 47 then some 63
  else none

/-! ### Encoding -/

/-- The symbols of bytes, with padding at the end. -/
def encode : List UInt8 → List UInt8
  | [] => []
  | [a] =>
      [symbol (a.toNat / 4), symbol (a.toNat % 4 * 16), pad, pad]
  | [a, b] =>
      [symbol (a.toNat / 4), symbol (a.toNat % 4 * 16 + b.toNat / 16),
        symbol (b.toNat % 16 * 4), pad]
  | a :: b :: c :: rest =>
      symbol (a.toNat / 4) :: symbol (a.toNat % 4 * 16 + b.toNat / 16)
        :: symbol (b.toNat % 16 * 4 + c.toNat / 64) :: symbol (c.toNat % 64) :: encode rest

/-! ### Decoding -/

/-- Why a text is not base64. -/
inductive DecodeError
  /-- A byte that is no symbol, or padding out of place. -/
  | invalidSymbol (byte : UInt8) (offset : Nat)
  | invalidLength (length : Nat)
  | invalidPadding
  /-- A last symbol with bits that belong to no byte. -/
  | invalidLastSymbol (byte : UInt8) (offset : Nat)
deriving Repr, DecidableEq

/-- The wording of an error. -/
def DecodeError.message : DecodeError → String
  | .invalidSymbol byte offset => s!"Invalid symbol {byte.toNat}, offset {offset}."
  | .invalidLength length => s!"Invalid input length: {length}"
  | .invalidPadding => "Invalid padding"
  | .invalidLastSymbol byte offset => s!"Invalid last symbol {byte.toNat}, offset {offset}."

/-- What the last group turned out to hold. -/
structure LastGroup where
  /-- The numbers of its symbols. -/
  values : List Nat
  /-- The last of its symbols. -/
  lastSymbol : UInt8
  /-- How much padding follows them. -/
  padding : Nat
deriving Repr

/-- Reads the last group from left to right: `place` bytes have been read, and
the group starts at `offset`. Padding needs two symbols before it, and nothing
may follow it. -/
def readLast (offset place : Nat) (group : LastGroup) : List UInt8 → Except DecodeError LastGroup
  | [] => .ok group
  | b :: rest =>
      if b = pad then
        if place < 2 then .error (.invalidSymbol b (offset + place))
        else readLast offset (place + 1) { group with padding := group.padding + 1 } rest
      else if 0 < group.padding then
        .error (.invalidSymbol pad (offset + group.values.length))
      else
        match value? b with
        | none => .error (.invalidSymbol b (offset + place))
        | some v =>
            readLast offset (place + 1)
              { group with values := group.values ++ [v], lastSymbol := b } rest

/-- The bytes of the last group and the bits that are left over. -/
def lastBytes : List Nat → List UInt8 × Nat
  | [a, b] => ([.ofNat (a * 4 + b / 16)], b % 16)
  | [a, b, c] => ([.ofNat (a * 4 + b / 16), .ofNat (b % 16 * 16 + c / 4)], c % 4)
  | [a, b, c, d] =>
      ([.ofNat (a * 4 + b / 16), .ofNat (b % 16 * 16 + c / 4), .ofNat (c % 4 * 64 + d)], 0)
  | _ => ([], 0)

/-- Decodes the last group, which starts at `offset`. -/
def decodeLast (offset : Nat) (text : List UInt8) : Except DecodeError (List UInt8) := do
  let group ← readLast offset 0 { values := [], lastSymbol := 0, padding := 0 } text
  let symbols := group.values.length
  if text ≠ [] ∧ symbols < 2 then .error (.invalidLength (offset + symbols))
  else if (group.padding + symbols) % 4 ≠ 0 then .error .invalidPadding
  else
    let (bytes, unused) := lastBytes group.values
    if unused ≠ 0 then .error (.invalidLastSymbol group.lastSymbol (offset + symbols - 1))
    else .ok bytes

/-- The number of a symbol at an offset. -/
def symbolAt (offset : Nat) (b : UInt8) : Except DecodeError Nat :=
  match value? b with
  | some v => .ok v
  | none => .error (.invalidSymbol b offset)

/-- Decodes group by group from `offset` on. -/
def decodeGroups (offset : Nat) : List UInt8 → Except DecodeError (List UInt8)
  | a :: b :: c :: d :: e :: rest => do
      let a ← symbolAt offset a
      let b ← symbolAt (offset + 1) b
      let c ← symbolAt (offset + 2) c
      let d ← symbolAt (offset + 3) d
      let more ← decodeGroups (offset + 4) (e :: rest)
      .ok (.ofNat (a * 4 + b / 16) :: .ofNat (b % 16 * 16 + c / 4) :: .ofNat (c % 4 * 64 + d)
        :: more)
  | last => decodeLast offset last

/-- Decodes a text. When one byte too many is no symbol, it is the first thing
found wrong. -/
def decode (text : List UInt8) : Except DecodeError (List UInt8) :=
  match text.getLast? with
  | some b =>
      if text.length % 4 = 1 ∧ b ≠ pad ∧ value? b = none then
        .error (.invalidSymbol b (text.length - 1))
      else decodeGroups 0 text
  | none => .ok []

end PagePilot.Base64
