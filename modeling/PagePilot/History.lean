import PagePilot.Error
import PagePilot.Wire.Navigation
/-!
# PagePilot.History

Moving in a session history, and showing it. The current index comes from the
browser and may be any integer; both moves need it to lie in the list.
-/

namespace PagePilot.History

open Wire

/-- The error for a move that leads nowhere. -/
def noEntry (h : NavigationHistory) : Error :=
  .invalidNavigationEntry h.currentIndex h.entries.length

/-- The entry at an integer index, if the index lies in the list. -/
def entryAt? (h : NavigationHistory) (index : Int) : Option NavigationEntry :=
  if 0 ≤ index then h.entries[index.toNat]? else none

/-- The entry before the current one. -/
def previousEntry (h : NavigationHistory) : Except Error NavigationEntry :=
  match entryAt? h h.currentIndex, entryAt? h (h.currentIndex - 1) with
  | some _, some entry => .ok entry
  | _, _ => .error (noEntry h)

/-- The entry after the current one. -/
def nextEntry (h : NavigationHistory) : Except Error NavigationEntry :=
  match entryAt? h h.currentIndex, entryAt? h (h.currentIndex + 1) with
  | some _, some entry => .ok entry
  | _, _ => .error (noEntry h)

/-! ### Showing -/

/-- A number, right-aligned in two columns. -/
def twoColumns (n : Nat) : String :=
  let digits := toString n
  if digits.length < 2 then " " ++ digits else digits

/-- One line: a star on the current entry, the index, the address, and the title
in parentheses if there is one. -/
def renderEntry (current : Int) (index : Nat) (entry : NavigationEntry) : String :=
  let marker := if (index : Int) = current then "*" else " "
  let title := if entry.title.isEmpty then "" else s!"  ({entry.title})"
  s!"{marker} {twoColumns index}  {entry.url}{title}\n"

/-- The lines of the entries from an index on. -/
def renderFrom (current : Int) : Nat → List NavigationEntry → String
  | _, [] => ""
  | index, entry :: rest => renderEntry current index entry ++ renderFrom current (index + 1) rest

/-- The whole history, one line for each entry, oldest first. -/
def render (h : NavigationHistory) : String :=
  renderFrom h.currentIndex 0 h.entries

end PagePilot.History
