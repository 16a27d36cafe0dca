import PagePilot.Json.Basic
/-!
# PagePilot.Json.Reader

Reading JSON text, strictly: the four blanks of the standard, no control
characters and no lone surrogates in strings, no number beyond the range of
doubles, and at most `maxDepth` nested arrays and objects.

A reader takes the characters that are left and returns a value with what
remains. Values nest, so the readers call each other; `budget` bounds the
calls and is the number of characters, which every second call uses up.
-/

namespace PagePilot

namespace Json

/-- Why a text is no JSON value. -/
inductive ReadError
  | endOfText
  | unexpected (found : Char)
  | controlCharacter
  | loneSurrogate
  | invalidEscape
  | numberOutOfRange
  | tooDeep
  | trailingText
deriving Repr, DecidableEq

/-- A reader for the front of a text. -/
abbrev Reading (α : Type) := List Char → Except ReadError (α × List Char)

/-- Nested arrays and objects beyond this many are refused. -/
def maxDepth : Nat := 127

/-! ### Blanks and words -/

/-- Blanks between tokens. -/
def isBlank (c : Char) : Bool :=
  c = ' ' || c = '\t' || c = '\n' || c = '\r'

/-- Drops blanks. -/
def skipBlanks (text : List Char) : List Char :=
  text.dropWhile isBlank

/-- The error for a text that should have gone on otherwise. -/
def unexpectedAt : List Char → ReadError
  | [] => .endOfText
  | c :: _ => .unexpected c

/-- Reads exactly the characters of `word`. -/
def readWord (word : List Char) (value : Json) : Reading Json := fun text =>
  match word, text with
  | [], rest => .ok (value, rest)
  | _ :: _, [] => .error .endOfText
  | w :: word, c :: rest => if w = c then readWord word value rest else .error (.unexpected c)

/-! ### Strings -/

/-- The value of a hexadecimal digit. -/
def hexDigit? (c : Char) : Option Nat :=
  if '0' ≤ c ∧ c ≤ '9' then some (c.toNat - '0'.toNat)
  else if 'a' ≤ c ∧ c ≤ 'f' then some (c.toNat - 'a'.toNat + 10)
  else if 'A' ≤ c ∧ c ≤ 'F' then some (c.toNat - 'A'.toNat + 10)
  else none

/-- Four hexadecimal digits. -/
def readHex4 : Reading Nat
  | a :: b :: c :: d :: rest =>
      match hexDigit? a, hexDigit? b, hexDigit? c, hexDigit? d with
      | some a, some b, some c, some d => .ok (((a * 16 + b) * 16 + c) * 16 + d, rest)
      | _, _, _, _ => .error .invalidEscape
  | _ => .error .endOfText

/-- The character of an escape with one letter. -/
def simpleEscape? : Char → Option Char
  | '"' => some '"'
  | '\\' => some '\\'
  | '/' => some '/'
  | 'b' => some '\x08'
  | 'f' => some '\x0c'
  | 'n' => some '\n'
  | 'r' => some '\r'
  | 't' => some '\t'
  | _ => none

/-- What follows a backslash and `u`: a character of the basic plane, or a
surrogate pair spelled as two escapes. -/
def readUnicodeEscape : Reading Char := fun text => do
  let (unit, rest) ← readHex4 text
  if 0xDC00 ≤ unit ∧ unit < 0xE000 then .error .loneSurrogate
  else if 0xD800 ≤ unit ∧ unit < 0xDC00 then
    match rest with
    | '\\' :: 'u' :: rest =>
        let (low, rest) ← readHex4 rest
        if 0xDC00 ≤ low ∧ low < 0xE000 then
          .ok (Char.ofNat (0x10000 + (unit - 0xD800) * 0x400 + (low - 0xDC00)), rest)
        else .error .loneSurrogate
    | _ => .error .loneSurrogate
  else .ok (Char.ofNat unit, rest)

/-- The rest of a string after its opening quote; `read` holds the characters
before, last first. -/
def readStringTail : Nat → List Char → Reading String
  | 0, _, _ => .error .endOfText
  | _, _, [] => .error .endOfText
  | budget + 1, read, c :: rest =>
      if c = '"' then .ok (String.ofList read.reverse, rest)
      else if c = '\\' then
        match rest with
        | 'u' :: rest => do
            let (c, rest) ← readUnicodeEscape rest
            readStringTail budget (c :: read) rest
        | e :: rest =>
            match simpleEscape? e with
            | some c => readStringTail budget (c :: read) rest
            | none => .error .invalidEscape
        | [] => .error .endOfText
      else if c.toNat < 0x20 then .error .controlCharacter
      else readStringTail budget (c :: read) rest

/-! ### Numbers -/

/-- A decimal digit. -/
def isDigit (c : Char) : Bool :=
  '0' ≤ c ∧ c ≤ '9'

/-- The number that digits spell. -/
def natOfDigits (digits : List Char) : Nat :=
  digits.foldl (fun n c => n * 10 + (c.toNat - '0'.toNat)) 0

/-- One digit at least, and all that follow. -/
def readDigits : Reading (List Char) := fun text =>
  match text.takeWhile isDigit with
  | [] => .error (unexpectedAt text)
  | digits => .ok (digits, text.dropWhile isDigit)

/-- The whole part: zero alone, or digits that start with another one. -/
def readWhole : Reading (List Char)
  | '0' :: c :: rest =>
      if isDigit c then .error (.unexpected c) else .ok (['0'], c :: rest)
  | text => readDigits text

/-- A point with digits, if there is one. -/
def readFraction : Reading (Option (List Char))
  | '.' :: rest => do
      let (digits, rest) ← readDigits rest
      .ok (some digits, rest)
  | text => .ok (none, text)

/-- An exponent, if there is one. -/
def readExponent : Reading (Option Int)
  | c :: rest =>
      if c = 'e' ∨ c = 'E' then
        match rest with
        | '-' :: rest => do
            let (digits, rest) ← readDigits rest
            .ok (some (-(natOfDigits digits : Int)), rest)
        | '+' :: rest => do
            let (digits, rest) ← readDigits rest
            .ok (some (natOfDigits digits), rest)
        | rest => do
            let (digits, rest) ← readDigits rest
            .ok (some (natOfDigits digits), rest)
      else .ok (none, c :: rest)
  | [] => .ok (none, [])

/-- The integers that are kept as integers. -/
def fitsWord (n : Int) : Bool :=
  -0x8000000000000000 ≤ n ∧ n ≤ 0xffffffffffffffff

/-- The value of a number that is written in these parts. Minus zero is the
double `-0.0`. -/
def ofParts (negative : Bool) (whole : List Char) (fraction : Option (List Char))
    (exponent : Option Int) : Except ReadError Json :=
  let signed : Int := if negative then -(natOfDigits whole : Int) else natOfDigits whole
  if fraction = none ∧ exponent = none ∧ fitsWord signed ∧ ¬ (negative ∧ signed = 0) then
    .ok (.int signed)
  else
    let places := fraction.getD []
    match Double.ofDecimal? negative (natOfDigits (whole ++ places))
        (exponent.getD 0 - places.length) with
    | some d => .ok (.double d)
    | none => .error .numberOutOfRange

/-- A number after its sign. -/
def readNumber (negative : Bool) : Reading Json := fun text => do
  let (whole, rest) ← readWhole text
  let (fraction, rest) ← readFraction rest
  let (exponent, rest) ← readExponent rest
  let value ← ofParts negative whole fraction exponent
  .ok (value, rest)

/-! ### Values -/

mutual
/-- A value at `depth` more levels of nesting, after its blanks. -/
def readValue : Nat → Nat → Reading Json
  | 0, _, text => .error (unexpectedAt text)
  | budget + 1, depth, text =>
      match skipBlanks text with
      | [] => .error .endOfText
      | c :: rest =>
          if c = '"' then do
            let (s, rest) ← readStringTail (rest.length + 1) [] rest
            .ok (.string s, rest)
          else if c = '[' then
            match depth with
            | 0 => .error .tooDeep
            | depth + 1 =>
                match skipBlanks rest with
                | ']' :: rest => .ok (.array [], rest)
                | rest => readItems budget depth [] rest
          else if c = '\x7b' then
            match depth with
            | 0 => .error .tooDeep
            | depth + 1 =>
                match skipBlanks rest with
                | '\x7d' :: rest => .ok (.object [], rest)
                | rest => readMembers budget depth [] rest
          else if c = 'n' then readWord ['u', 'l', 'l'] .null rest
          else if c = 't' then readWord ['r', 'u', 'e'] (.bool true) rest
          else if c = 'f' then readWord ['a', 'l', 's', 'e'] (.bool false) rest
          else if c = '-' then readNumber true rest
          else if isDigit c then readNumber false (c :: rest)
          else .error (.unexpected c)

/-- The items of an array up to its bracket; `read` holds the items before,
last first. -/
def readItems : Nat → Nat → List Json → Reading Json
  | 0, _, _, text => .error (unexpectedAt text)
  | budget + 1, depth, read, text => do
      let (item, rest) ← readValue budget depth text
      match skipBlanks rest with
      | ',' :: rest => readItems budget depth (item :: read) rest
      | ']' :: rest => .ok (.array (item :: read).reverse, rest)
      | rest => .error (unexpectedAt rest)

/-- The members of an object up to its brace, as written. -/
def readMembers : Nat → Nat → List (String × Json) → Reading Json
  | 0, _, _, text => .error (unexpectedAt text)
  | budget + 1, depth, read, text => do
      match skipBlanks text with
      | '"' :: rest =>
          let (key, rest) ← readStringTail (rest.length + 1) [] rest
          match skipBlanks rest with
          | ':' :: rest =>
              let (value, rest) ← readValue budget depth rest
              match skipBlanks rest with
              | ',' :: rest => readMembers budget depth ((key, value) :: read) rest
              | '\x7d' :: rest => .ok (.object ((key, value) :: read).reverse, rest)
              | rest => .error (unexpectedAt rest)
          | rest => .error (unexpectedAt rest)
      | rest => .error (unexpectedAt rest)
end

/-- Reads a whole text as one value, with the members of objects as written. -/
def readRaw (text : List Char) : Except ReadError Json := do
  let (value, rest) ← readValue (2 * text.length + 2) maxDepth text
  match skipBlanks rest with
  | [] => .ok value
  | _ => .error .trailingText

/-- Reads a whole text as one value, with members in key order. -/
def read (text : String) : Except ReadError Json :=
  (readRaw text.toList).map canonical

end Json

end PagePilot
