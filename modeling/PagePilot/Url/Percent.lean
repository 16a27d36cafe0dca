/-!
# PagePilot.Url.Percent

Percent-encoding: a byte as a percent sign and two hexadecimal digits. What is
encoded depends on the part of the address; beyond ASCII everything is.
-/

namespace PagePilot.Url

/-- A hexadecimal digit, in capitals. -/
def capitalHex (n : Nat) : Char :=
  if n < 10 then Char.ofNat ('0'.toNat + n) else Char.ofNat ('A'.toNat + n - 10)

/-- The value of a hexadecimal digit. -/
def hexValue? (c : Char) : Option Nat :=
  if '0' ≤ c ∧ c ≤ '9' then some (c.toNat - '0'.toNat)
  else if 'a' ≤ c ∧ c ≤ 'f' then some (c.toNat - 'a'.toNat + 10)
  else if 'A' ≤ c ∧ c ≤ 'F' then some (c.toNat - 'A'.toNat + 10)
  else none

/-- An encoded byte. -/
def encodeByte (b : UInt8) : List Char :=
  ['%', capitalHex (b.toNat / 16), capitalHex (b.toNat % 16)]

/-- A part of an address whose characters are encoded alike. -/
inductive Part
  | user
  | path
  | query
  | fragment
deriving Repr, DecidableEq

/-- The ASCII characters that a part encodes besides controls and the space. -/
def Part.encoded : Part → List Char
  | .fragment => ['\x22', '<', '>', '\x60']
  | .query => ['\x22', '#', '<', '>', '\x27']
  | .path => ['\x22', '#', '<', '>', '?', '\x60', '\x7b', '\x7d']
  | .user =>
      ['\x22', '#', '<', '>', '?', '^', '\x60', '\x7b', '\x7d', '/', ':', ';', '=', '@', '[',
        '\\', ']', '|']

/-- Whether a part encodes a character. -/
def Part.encodes (part : Part) (c : Char) : Bool :=
  c ≤ ' ' || '\x7f' ≤ c || part.encoded.contains c

/-- A character as a part writes it. -/
def Part.encodeChar (part : Part) (c : Char) : List Char :=
  if part.encodes c then (String.utf8EncodeChar c).flatMap encodeByte else [c]

/-- A text as a part writes it. A percent sign stays, so what is encoded already
stays as it is. -/
def Part.encode (part : Part) (text : List Char) : List Char :=
  text.flatMap part.encodeChar

/-- The bytes of a text with every encoded byte decoded. A percent sign without two
digits behind it stands for itself. -/
def decodeBytes : List Char → List UInt8
  | '%' :: a :: b :: rest =>
      match hexValue? a, hexValue? b with
      | some high, some low => UInt8.ofNat (high * 16 + low) :: decodeBytes rest
      | _, _ => '%'.toUInt8 :: decodeBytes (a :: b :: rest)
  | c :: rest => String.utf8EncodeChar c ++ decodeBytes rest
  | [] => []

/-- The decoded text, if its bytes are one. -/
def decode? (text : List Char) : Option (List Char) :=
  (String.fromUTF8? ⟨(decodeBytes text).toArray⟩).map String.toList

end PagePilot.Url
