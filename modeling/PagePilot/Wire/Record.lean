import PagePilot.Wire.DecodeError
/-!
# PagePilot.Wire.Record

Typed reading of JSON values. Scalars, lists and options have a decoder each; a
record is described by the list of its fields, and one generic reader serves
all records:

* an object's members are visited in the order they have; a key that no field
  knows is skipped, and the first bad member decides the error; then the first
  necessary field without a member does;
* an array holds the fields in the order of their declaration; where it ends
  early, fields with a default take it.

The members found so far are kept in slots, one for each field, so every member
is decoded once, at any depth of nesting.
-/

namespace PagePilot.Wire

/-- A reader of JSON values of one type. -/
abbrev Decoder (α : Type) := Json → Except DecodeError α

namespace Decoder

/-! ### Scalars, lists and options -/

/-- Any value, as it is. -/
def json : Decoder Json := fun j =>
  .ok j

/-- A string. -/
def text : Decoder String
  | .string s => .ok s
  | j => .error (.invalidType (.of j) .text)

/-- An integer between two bounds. -/
def integer (low high : Int) (wanted : Expectation) : Decoder Int
  | .int n => if low ≤ n ∧ n ≤ high then .ok n else .error (.outOfRange n wanted)
  | j => .error (.invalidType (.of j) wanted)

/-- A signed integer of sixty-four bits. -/
def signedWord : Decoder Int :=
  integer (-0x8000000000000000) 0x7fffffffffffffff .signedWord

/-- A natural number of sixty-four bits. -/
def unsignedWord : Decoder Nat := fun j =>
  (integer 0 0xffffffffffffffff .unsignedWord j).map Int.toNat

/-- A double; an integer is taken as the nearest one. -/
def float : Decoder Double
  | .double d => .ok d
  | .int n => .ok (.ofInt n)
  | j => .error (.invalidType (.of j) .float)

/-- Each value of a list; the first bad one decides the error. -/
def items (decode : Decoder α) : List Json → Except DecodeError (List α)
  | [] => .ok []
  | j :: rest => do
      let a ← decode j
      let more ← items decode rest
      .ok (a :: more)

/-- A list of values of one type. -/
def list (decode : Decoder α) : Decoder (List α)
  | .array js => items decode js
  | j => .error (.invalidType (.of j) .sequence)

/-- `null`, or a value. -/
def option (decode : Decoder α) : Decoder (Option α)
  | .null => .ok none
  | j => (decode j).map some

/-! ### Variants -/

/-- The variant that a word names. -/
def variantWord (named : String → Option α) (known : List String) (word : String) :
    Except DecodeError α :=
  match named word with
  | some a => .ok a
  | none => .error (.unknownVariant word known)

/-- A variant without contents: its name, or an object with the name as its one
key and `null` under it. -/
def variant (named : String → Option α) (known : List String) : Decoder α
  | .string word => variantWord named known word
  | .object [(word, contents)] => do
      let a ← variantWord named known word
      match contents with
      | .null => .ok a
      | j => .error (.invalidType (.of j) .unit)
  | .object _ => .error .notSingleKey
  | j => .error (.invalidType (.of j) .variant)

end Decoder

/-! ### Fields -/

/-- One field of a record. -/
structure Field where
  Value : Type
  /-- The wire name, by which errors name the field too. -/
  name : String
  /-- Other keys that stand for the field. -/
  aliases : List String
  decode : Decoder Value
  /-- The value when an object has no member for the field. -/
  absent : Option Value
  /-- The value when an array ends before the field. -/
  cutOff : Option Value

namespace Field

/-- A field that must be there. -/
def required (name : String) (decode : Decoder α) : Field :=
  { Value := α, name, aliases := [], decode, absent := none, cutOff := none }

/-- A field that has a default. -/
def defaulted (name : String) (decode : Decoder α) (value : α) : Field :=
  { Value := α, name, aliases := [], decode, absent := some value, cutOff := some value }

/-- An option, which an object may leave out and an array may not. -/
def optional (name : String) (decode : Decoder α) : Field :=
  { Value := Option α, name, aliases := [], decode := decode.option, absent := some none
    cutOff := none }

/-- An option that may be left out everywhere. -/
def omittable (name : String) (decode : Decoder α) : Field :=
  defaulted name decode.option none

/-- The same field under one more key. -/
def orKey (key : String) (f : Field) : Field :=
  { f with aliases := key :: f.aliases }

/-- Whether a key stands for the field. -/
def knows (f : Field) (key : String) : Bool :=
  key = f.name || f.aliases.contains key

end Field

/-- What has been found for each field. -/
@[reducible] def Slots : List Field → Type
  | [] => Unit
  | f :: fs => Option f.Value × Slots fs

/-- One value for each field. -/
@[reducible] def Values : List Field → Type
  | [] => Unit
  | f :: fs => f.Value × Values fs

/-- Slots with nothing in them. -/
def Slots.empty : (fs : List Field) → Slots fs
  | [] => ()
  | _ :: fs => (none, Slots.empty fs)

/-- Puts a member into the slot of the first field that knows its key; nothing
happens when there is none. -/
def Slots.put (key : String) (value : Json) : (fs : List Field) → Slots fs →
    Except DecodeError (Slots fs)
  | [], slots => .ok slots
  | f :: fs, (slot, slots) =>
      if f.knows key then
        match slot with
        | some _ => .error (.duplicateField f.name)
        | none => do
            let v ← f.decode value
            .ok (some v, slots)
      else do
        let slots ← Slots.put key value fs slots
        .ok (slot, slots)

/-- Visits members in order. -/
def Slots.putAll (fs : List Field) : List (String × Json) → Slots fs →
    Except DecodeError (Slots fs)
  | [], slots => .ok slots
  | (key, value) :: rest, slots => do
      let slots ← Slots.put key value fs slots
      Slots.putAll fs rest slots

/-- The values, with defaults for the fields that have no member. -/
def Slots.values : (fs : List Field) → Slots fs → Except DecodeError (Values fs)
  | [], _ => .ok ()
  | f :: fs, (slot, slots) =>
      match slot.orElse (fun _ => f.absent) with
      | none => .error (.missingField f.name)
      | some v => do
          let vs ← Slots.values fs slots
          .ok (v, vs)

/-- The values at the front of an array and the items behind them; `short` is
the error for an array that ends too early, by its length. -/
def Values.ofItems (short : Nat → DecodeError) : (fs : List Field) → Nat → List Json →
    Except DecodeError (Values fs × List Json)
  | [], _, items => .ok ((), items)
  | f :: fs, position, [] =>
      match f.cutOff with
      | none => .error (short position)
      | some v => do
          let (vs, rest) ← Values.ofItems short fs (position + 1) []
          .ok ((v, vs), rest)
  | f :: fs, position, j :: items => do
      let v ← f.decode j
      let (vs, rest) ← Values.ofItems short fs (position + 1) items
      .ok ((v, vs), rest)

/-! ### Records -/

/-- A record type: its name in errors, its fields, and how their values make it. -/
structure Record (α : Type) where
  name : String
  fields : List Field
  make : Values fields → α

/-- Reads a record. -/
def Record.decode (r : Record α) : Decoder α
  | .object members => do
      let slots ← Slots.putAll r.fields members (Slots.empty r.fields)
      let values ← Slots.values r.fields slots
      .ok (r.make values)
  | .array items => do
      let short (length : Nat) : DecodeError := .tooShort length r.name r.fields.length
      let (values, rest) ← Values.ofItems short r.fields 0 items
      match rest with
      | [] => .ok (r.make values)
      | _ => .error (.leftover items.length)
  | j => .error (.invalidType (.of j) (.record r.name))

end PagePilot.Wire
