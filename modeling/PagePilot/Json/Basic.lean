import PagePilot.Double.Basic
/-!
# PagePilot.Json.Basic

JSON values. A number is an integer when it was written without fraction and
exponent and fits in sixty-four bits, signed or unsigned, and a double
otherwise. The members of an object are a list: `Json.canonical` brings them
into key order with the last of several equal keys, which is the form that
messages have inside the program; the reader keeps them as written.
-/

namespace PagePilot

/-- A JSON value. -/
inductive Json
  | null
  | bool (value : Bool)
  | int (value : Int)
  | double (value : Double)
  | string (value : String)
  | array (items : List Json)
  | object (members : List (String × Json))
deriving Repr, Inhabited

namespace Json

/-- The object without members. -/
def empty : Json :=
  .object []

/-! ### Members -/

/-- The value of the first member with the given key. -/
def lookup (key : String) : List (String × Json) → Option Json
  | [] => none
  | (k, v) :: rest => if k = key then some v else lookup key rest

/-- The value under `key`, for an object that has it. -/
def get? (j : Json) (key : String) : Option Json :=
  match j with
  | .object members => lookup key members
  | _ => none

/-- Puts a member into a list in key order, in place of one with the same key. -/
def insertMember (key : String) (value : Json) : List (String × Json) → List (String × Json)
  | [] => [(key, value)]
  | (k, v) :: rest =>
      if key < k then (key, value) :: (k, v) :: rest
      else if k = key then (key, value) :: rest
      else (k, v) :: insertMember key value rest

/-- Members in key order, the last of several equal keys winning. -/
def sortMembers (members : List (String × Json)) : List (String × Json) :=
  members.foldl (fun sorted m => insertMember m.1 m.2 sorted) []

mutual
/-- Every object brought into key order, at all depths. -/
def canonical : Json → Json
  | .array items => .array (canonicalItems items)
  | .object members => .object (sortMembers (canonicalMembers members))
  | j => j

/-- `canonical` on each item. -/
def canonicalItems : List Json → List Json
  | [] => []
  | j :: rest => canonical j :: canonicalItems rest

/-- `canonical` on each member's value. -/
def canonicalMembers : List (String × Json) → List (String × Json)
  | [] => []
  | (k, j) :: rest => (k, canonical j) :: canonicalMembers rest
end

/-! ### Depth -/

mutual
/-- How deep arrays and objects are nested; zero for a scalar. -/
def depth : Json → Nat
  | .array items => depthOfItems items + 1
  | .object members => depthOfMembers members + 1
  | _ => 0

/-- The greatest depth of the items. -/
def depthOfItems : List Json → Nat
  | [] => 0
  | j :: rest => max (depth j) (depthOfItems rest)

/-- The greatest depth of the members' values. -/
def depthOfMembers : List (String × Json) → Nat
  | [] => 0
  | (_, j) :: rest => max (depth j) (depthOfMembers rest)
end

/-! ### Building -/

/-- The value of an option, `null` when there is none. -/
def ofOption (encode : α → Json) : Option α → Json
  | none => .null
  | some a => encode a

/-- A member that is left out when its option is `none`. -/
def member? (key : String) (encode : α → Json) : Option α → List (String × Json)
  | none => []
  | some a => [(key, encode a)]

/-- A list as an array. -/
def ofList (encode : α → Json) (items : List α) : Json :=
  .array (items.map encode)

/-- An object whose members are given in any order. -/
def ofMembers (members : List (String × Json)) : Json :=
  .object (sortMembers members)

end Json

end PagePilot
