import PagePilot.Double.Shortest
import PagePilot.Json.Basic
import PagePilot.Text.Quoted
/-!
# PagePilot.Wire.DecodeError

What can be wrong with a JSON value that is read as a typed one, and the
wording of each cause.
-/

namespace PagePilot.Wire

/-- What kind of value was found, with a scalar's value. -/
inductive Shape
  | null
  | bool (value : Bool)
  | int (value : Int)
  | double (value : Double)
  | string (value : String)
  | sequence
  | map
deriving Repr, DecidableEq

/-- The shape of a JSON value. -/
def Shape.of : Json → Shape
  | .null => .null
  | .bool b => .bool b
  | .int n => .int n
  | .double d => .double d
  | .string s => .string s
  | .array _ => .sequence
  | .object _ => .map

/-- How an error text names a shape. -/
def Shape.describe : Shape → String
  | .null => "null"
  | .bool b => "boolean `" ++ (if b then "true" else "false") ++ "`"
  | .int n => "integer `" ++ toString n ++ "`"
  | .double d => "floating point `" ++ d.toText ++ "`"
  | .string s => "string " ++ Text.quote s
  | .sequence => "sequence"
  | .map => "map"

/-- What was wanted in the place of a value. -/
inductive Expectation
  | text
  | signedWord
  | unsignedWord
  | float
  | sequence
  | unit
  | variant
  | record (name : String)
deriving Repr, DecidableEq

/-- How an error text names what was wanted. -/
def Expectation.describe : Expectation → String
  | .text => "a string"
  | .signedWord => "i64"
  | .unsignedWord => "u64"
  | .float => "f64"
  | .sequence => "a sequence"
  | .unit => "unit"
  | .variant => "string or map"
  | .record name => "struct " ++ name

/-- Why a JSON value is not of the type it is read as. -/
inductive DecodeError
  /-- Another shape was wanted. -/
  | invalidType (found : Shape) (wanted : Expectation)
  /-- An integer beyond the wanted word. -/
  | outOfRange (value : Int) (wanted : Expectation)
  /-- A record without one of its necessary members. -/
  | missingField (name : String)
  /-- A record with two members for one field. -/
  | duplicateField (name : String)
  /-- An array that ends before the fields of a record do. -/
  | tooShort (length : Nat) (record : String) (fields : Nat)
  /-- An array with items left over after the last field. -/
  | leftover (length : Nat)
  /-- A variant whose object has not exactly one key. -/
  | notSingleKey
  /-- A word that names none of the variants. -/
  | unknownVariant (word : String) (known : List String)
  /-- A value that is none of the alternatives of a union. -/
  | noAlternative (union : String)
deriving Repr, DecidableEq

/-- Names in backquotes, with commas between. -/
def quotedNames (names : List String) : String :=
  ", ".intercalate (names.map fun n => "`" ++ n ++ "`")

/-- The wording of an error. -/
def DecodeError.message : DecodeError → String
  | .invalidType found wanted => s!"invalid type: {found.describe}, expected {wanted.describe}"
  | .outOfRange value wanted => s!"invalid value: integer `{value}`, expected {wanted.describe}"
  | .missingField name => s!"missing field `{name}`"
  | .duplicateField name => s!"duplicate field `{name}`"
  | .tooShort length record fields =>
      let noun := if fields = 1 then "element" else "elements"
      s!"invalid length {length}, expected struct {record} with {fields} {noun}"
  | .leftover length => s!"invalid length {length}, expected fewer elements in array"
  | .notSingleKey => "invalid value: map, expected map with a single key"
  | .unknownVariant word known =>
      s!"unknown variant `{word}`, expected one of {quotedNames known}"
  | .noAlternative union => s!"data did not match any variant of untagged enum {union}"

end PagePilot.Wire
