import PagePilot.Json.Writer
import PagePilot.Text.Quoted
/-!
# PagePilot.Json.Tagged

The text of a JSON value with the name of its kind in front, for messages that
say what was found in place of something else.
-/

namespace PagePilot

namespace Json

mutual
/-- A value with its kind. -/
def tagged : Json → String
  | .null => "Null"
  | .bool b => "Bool(" ++ (if b then "true" else "false") ++ ")"
  | .int n => "Number(" ++ toString n ++ ")"
  | .double d => "Number(" ++ writeDouble d ++ ")"
  | .string s => "String(" ++ Text.quote s ++ ")"
  | .array items => "Array [" ++ taggedItems items ++ "]"
  | .object members => "Object \x7b" ++ taggedMembers members ++ "\x7d"

/-- Items with commas between. -/
def taggedItems : List Json → String
  | [] => ""
  | [j] => tagged j
  | j :: rest => tagged j ++ ", " ++ taggedItems rest

/-- Members with commas between. -/
def taggedMembers : List (String × Json) → String
  | [] => ""
  | [(k, j)] => Text.quote k ++ ": " ++ tagged j
  | (k, j) :: rest => Text.quote k ++ ": " ++ tagged j ++ ", " ++ taggedMembers rest
end

/-- A value that may be missing. -/
def taggedOption : Option Json → String
  | none => "None"
  | some j => "Some(" ++ tagged j ++ ")"

end Json

end PagePilot
