import PagePilot.Text.Unprintable
/-!
# PagePilot.Text.Quoted

Strings quoted for people: between double quotes, with a backslash before a
quote and a backslash, short escapes for the common controls, and the code
point in braces for every other character that could not be seen or would
change its neighbour. Error texts and log lines quote strings this way.
-/

namespace PagePilot.Text

/-- A code point in lower-case hexadecimal digits, between braces. -/
def codeEscape (c : Char) : List Char :=
  ['\\', 'u', '\x7b'] ++ Nat.toDigits 16 c.toNat ++ ['\x7d']

/-- A character inside quotes. -/
def quoteChar (c : Char) : List Char :=
  if c = '\x00' then ['\\', '0']
  else if c = '\t' then ['\\', 't']
  else if c = '\n' then ['\\', 'n']
  else if c = '\r' then ['\\', 'r']
  else if c = '"' then ['\\', '"']
  else if c = '\\' then ['\\', '\\']
  else if 0x20 ≤ c.toNat ∧ c.toNat < 0x7f then [c]
  else if isExtender c || isUnprintable c then codeEscape c
  else [c]

/-- A string between quotes. -/
def quote (s : String) : String :=
  String.ofList ('"' :: s.toList.flatMap quoteChar ++ ['"'])

end PagePilot.Text
