import PagePilot.Json.Basic
import PagePilot.Double.Shortest
/-!
# PagePilot.Json.Writer

The compact text of a JSON value: no blanks, members in the order they have,
and an escape only where the standard asks for one.
-/

namespace PagePilot

namespace Json

/-- A digit of a hexadecimal number below sixteen. -/
def hexDigit (n : Nat) : Char :=
  if n < 10 then Char.ofNat ('0'.toNat + n) else Char.ofNat ('a'.toNat + n - 10)

/-- A character inside a string. -/
def writeChar (c : Char) : List Char :=
  if c = '"' then ['\\', '"']
  else if c = '\\' then ['\\', '\\']
  else if c = '\x08' then ['\\', 'b']
  else if c = '\x0c' then ['\\', 'f']
  else if c = '\n' then ['\\', 'n']
  else if c = '\r' then ['\\', 'r']
  else if c = '\t' then ['\\', 't']
  else if c.toNat < 0x20 then
    ['\\', 'u', '0', '0', hexDigit (c.toNat / 16), hexDigit (c.toNat % 16)]
  else [c]

/-- A string between quotes. -/
def writeString (s : String) : String :=
  String.ofList ('"' :: s.toList.flatMap writeChar ++ ['"'])

/-- A double; one that is not finite has no JSON text and becomes `null`. -/
def writeDouble (d : Double) : String :=
  if d.isFinite then d.toText else "null"

mutual
/-- The compact text of a value. -/
def write : Json → String
  | .null => "null"
  | .bool true => "true"
  | .bool false => "false"
  | .int n => toString n
  | .double d => writeDouble d
  | .string s => writeString s
  | .array items => "[" ++ writeItems items ++ "]"
  | .object members => "\x7b" ++ writeMembers members ++ "\x7d"

/-- Items with commas between. -/
def writeItems : List Json → String
  | [] => ""
  | [j] => write j
  | j :: rest => write j ++ "," ++ writeItems rest

/-- Members with commas between. -/
def writeMembers : List (String × Json) → String
  | [] => ""
  | [(k, j)] => writeString k ++ ":" ++ write j
  | (k, j) :: rest => writeString k ++ ":" ++ write j ++ "," ++ writeMembers rest
end

end Json

end PagePilot
