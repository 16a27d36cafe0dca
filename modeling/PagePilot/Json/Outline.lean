import PagePilot.Json.Reader
/-!
# PagePilot.Json.Outline

Where the values of a text begin and end, without a look at what they are. What
nobody asks for is passed over so: it may be nested as deeply as it likes, its
numbers may be beyond the range of doubles, and its strings may have any bytes in
them, lone surrogates among their escapes included.

Bytes that are not UTF-8 are no characters, so the text is a list of bytes here,
each in the shape of the character with its number. A reader takes what is left
and returns what remains behind a value; `budget` bounds the calls, two for each
that `Json.readRaw` may make.
-/

namespace PagePilot

namespace Json

namespace Outline

/-! ### Bytes -/

/-- Bytes in the shape of characters. -/
def ofBytes (bytes : List UInt8) : List Char :=
  bytes.map fun b => Char.ofNat b.toNat

/-- The value of a part of the text, which is read as strictly as any JSON. -/
def value? (part : List Char) : Option Json := do
  let text ← String.fromUTF8? ⟨(part.map fun c => c.toNat.toUInt8).toArray⟩
  (readRaw text.toList).toOption

/-! ### Scalars -/

/-- What remains behind a string, after its opening quote. -/
def passString : List Char → Option (List Char)
  | [] => none
  | '"' :: rest => some rest
  | '\\' :: 'u' :: a :: b :: c :: d :: rest =>
      if [a, b, c, d].all fun x => (hexDigit? x).isSome then passString rest else none
  | '\\' :: e :: rest => if (simpleEscape? e).isSome then passString rest else none
  | c :: rest => if c.toNat < 0x20 then none else passString rest

/-- What remains behind a number, after its sign. -/
def passNumber (text : List Char) : Option (List Char) := do
  let (_, rest) ← (readWhole text).toOption
  let (_, rest) ← (readFraction rest).toOption
  let (_, rest) ← (readExponent rest).toOption
  some rest

/-! ### Values -/

/-- The part of a text in front of what remains. -/
def before (text rest : List Char) : List Char :=
  text.take (text.length - rest.length)

mutual
/-- What remains behind a value, after its blanks. -/
def passValue : Nat → List Char → Option (List Char)
  | 0, _ => none
  | budget + 1, text =>
      match skipBlanks text with
      | '"' :: rest => passString rest
      | '[' :: rest => (items budget rest).map Prod.snd
      | '\x7b' :: rest => (members budget rest).map Prod.snd
      | 'n' :: 'u' :: 'l' :: 'l' :: rest => some rest
      | 't' :: 'r' :: 'u' :: 'e' :: rest => some rest
      | 'f' :: 'a' :: 'l' :: 's' :: 'e' :: rest => some rest
      | '-' :: rest => passNumber rest
      | rest => passNumber rest

/-- The parts that are the items of an array, after its bracket, and what remains
behind the other bracket. -/
def items : Nat → List Char → Option (List (List Char) × List Char)
  | 0, _ => none
  | budget + 1, text =>
      match skipBlanks text with
      | ']' :: rest => some ([], rest)
      | text => moreItems budget text

/-- `items` where there is one at least. -/
def moreItems : Nat → List Char → Option (List (List Char) × List Char)
  | 0, _ => none
  | budget + 1, text => do
      let rest ← passValue budget text
      let item := before text rest
      match skipBlanks rest with
      | ',' :: rest => do
          let (more, rest) ← moreItems budget rest
          some (item :: more, rest)
      | ']' :: rest => some ([item], rest)
      | _ => none

/-- The parts that are the keys and the values of an object, after its brace, and
what remains behind the other brace. -/
def members : Nat → List Char → Option (List (List Char × List Char) × List Char)
  | 0, _ => none
  | budget + 1, text =>
      match skipBlanks text with
      | '\x7d' :: rest => some ([], rest)
      | text => moreMembers budget text

/-- `members` where there is one at least. -/
def moreMembers : Nat → List Char → Option (List (List Char × List Char) × List Char)
  | 0, _ => none
  | budget + 1, text =>
      match skipBlanks text with
      | '"' :: text => do
          let rest ← passString text
          let key := '"' :: before text rest
          match skipBlanks rest with
          | ':' :: text => do
              let rest ← passValue budget text
              let member := (key, before text rest)
              match skipBlanks rest with
              | ',' :: rest => do
                  let (more, rest) ← moreMembers budget rest
                  some (member :: more, rest)
              | '\x7d' :: rest => some ([member], rest)
              | _ => none
          | _ => none
      | _ => none
end

/-! ### Whole texts -/

/-- What was found, when blanks only remain. -/
def finished : α × List Char → Option α
  | (found, rest) => if skipBlanks rest = [] then some found else none

/-- The items of a text that is an array. -/
def items? (text : List Char) : Option (List (List Char)) :=
  match skipBlanks text with
  | '[' :: rest => (items (4 * text.length + 3) rest).bind finished
  | _ => none

/-- The keys and values of a text that is an object. -/
def members? (text : List Char) : Option (List (List Char × List Char)) :=
  match skipBlanks text with
  | '\x7b' :: rest => (members (4 * text.length + 3) rest).bind finished
  | _ => none

end Outline

end Json

end PagePilot
