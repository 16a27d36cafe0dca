import Mathlib.Algebra.Group.Int.Defs
import Mathlib.Algebra.Group.Nat.Defs
import PagePilot.History
/-!
# PagePilot.Proofs.History

The two moves in a session history, as one family (`History.Move`). A move leads somewhere
exactly when the current index and the index that it leads to both lie in the list
(`Move.entry_eq_ok`), and `History.Lawful` collects what follows: the bounds of each move, the
error, and that the two undo each other.

The indices are integers here, and words of 64 bits in a machine. `Move.entryInWords?` is a move
that comes to nothing when a number on its way does not fit such a word, or when it looks
outside of the list; for lists that fit a memory it is the move.
-/

namespace PagePilot.History

open Wire

variable {h : NavigationHistory} {index : Int} {e : NavigationEntry}

/-! ### Entries -/

theorem entryAt?_eq_some :
    entryAt? h index = some e ↔ 0 ≤ index ∧ h.entries[index.toNat]? = some e := by
  unfold entryAt?
  split
  · simp [*]
  · simp [*]

theorem exists_entryAt? :
    (∃ e, entryAt? h index = some e) ↔ 0 ≤ index ∧ index < h.entries.length := by
  simp only [entryAt?_eq_some, exists_and_left, List.getElem?_eq_some_iff]
  constructor
  · rintro ⟨hle, e, hlt, -⟩
    omega
  · rintro ⟨hle, hlt⟩
    exact ⟨hle, _, by omega, rfl⟩

/-! ### Moves -/

/-- A move by one entry. -/
inductive Move
  | back
  | forward
deriving Repr, DecidableEq

namespace Move

/-- By how much a move changes the index. -/
def step : Move → Int
  | .back => -1
  | .forward => 1

/-- The move that undoes a move. -/
def reverse : Move → Move
  | .back => .forward
  | .forward => .back

/-- The entry that a move leads to. -/
def entry : Move → NavigationHistory → Except Error NavigationEntry
  | .back => previousEntry
  | .forward => nextEntry

variable {m : Move}

/-- Where a move leads to. -/
def target (m : Move) (h : NavigationHistory) : NavigationHistory :=
  { h with currentIndex := h.currentIndex + m.step }

theorem reverse_step (m : Move) : m.step + m.reverse.step = 0 := by
  cases m <;> rfl

/-- Both moves are one, but for the step. -/
theorem entry_eq (m : Move) (h : NavigationHistory) :
    m.entry h =
      match entryAt? h h.currentIndex, entryAt? h (m.target h).currentIndex with
      | some _, some e => .ok e
      | _, _ => .error (noEntry h) := by
  cases m <;> rfl

/-- A move leads from an entry to an entry. -/
theorem entry_eq_ok : m.entry h = .ok e ↔
    (∃ current, entryAt? h h.currentIndex = some current) ∧
      entryAt? h (m.target h).currentIndex = some e := by
  rw [entry_eq]
  constructor
  · intro hok
    split at hok
    next current _ hcurrent hentry =>
      cases hok
      exact ⟨⟨current, hcurrent⟩, hentry⟩
    next => cases hok
  · rintro ⟨⟨current, hcurrent⟩, hentry⟩
    rw [hcurrent, hentry]

/-- A move that leads nowhere says so, with the index and the length. -/
theorem entry_eq_error {error : Error} (herror : m.entry h = .error error) :
    error = .invalidNavigationEntry h.currentIndex h.entries.length := by
  rw [entry_eq] at herror
  split at herror
  · cases herror
  · exact (Except.error.inj herror).symm

theorem exists_entry : (∃ e, m.entry h = .ok e) ↔
    (0 ≤ h.currentIndex ∧ h.currentIndex < h.entries.length) ∧
      0 ≤ h.currentIndex + m.step ∧ h.currentIndex + m.step < h.entries.length := by
  simp only [entry_eq_ok, exists_and_left, exists_entryAt?]
  rfl

/-- The reverse of a move leads back to the entry that was current. -/
theorem reverse_entry (hentry : m.entry h = .ok e) :
    ∃ current, entryAt? h h.currentIndex = some current ∧
      m.reverse.entry (m.target h) = .ok current := by
  obtain ⟨⟨current, hcurrent⟩, htarget⟩ := entry_eq_ok.mp hentry
  have hback : (m.reverse.target (m.target h)).currentIndex = h.currentIndex := by
    have hstep := m.reverse_step
    simp only [target]
    omega
  refine ⟨current, hcurrent, entry_eq_ok.mpr ⟨⟨e, htarget⟩, ?_⟩⟩
  rw [hback]
  exact hcurrent

/-! ### Moves in words -/

/-- A number, if a signed word of 64 bits holds it. -/
def word? (x : Int) : Option Int :=
  if -2 ^ 63 ≤ x ∧ x < 2 ^ 63 then some x else none

theorem word?_eq_self {x : Int} (hlow : -2 ^ 63 ≤ x) (hhigh : x < 2 ^ 63) : word? x = some x :=
  if_pos ⟨hlow, hhigh⟩

/-- Whether there is nothing to move to, seen from the index and the last index. -/
def isStuck : Move → Int → Int → Bool
  | .back, current, last => current ≤ 0 || last < current
  | .forward, current, last => current < 0 || last ≤ current

/-- A move whose numbers have to fit words, and which looks nowhere but in the list. It comes to
nothing where that is not so. -/
def entryInWords? (m : Move) (h : NavigationHistory) : Option (Except Error NavigationEntry) := do
  let length ← word? h.entries.length
  let last ← word? (length - 1)
  if m.isStuck h.currentIndex last then
    return .error (noEntry h)
  let index ← word? (h.currentIndex + m.step)
  let e ← entryAt? h index
  return .ok e

theorem isStuck_iff :
    m.isStuck h.currentIndex (h.entries.length - 1) = true ↔ ¬ ∃ e, m.entry h = .ok e := by
  rw [exists_entry]
  cases m <;> simp only [isStuck, step, Bool.or_eq_true, decide_eq_true_eq] <;> omega

/-- No number on the way of a move overflows, and no entry is looked for outside of the list. -/
theorem entryInWords?_eq (m : Move) (h : NavigationHistory) (hlength : h.entries.length < 2 ^ 63) :
    m.entryInWords? h = some (m.entry h) := by
  have hlast : word? (h.entries.length - 1) = some (h.entries.length - 1 : Int) :=
    word?_eq_self (by omega) (by omega)
  simp only [entryInWords?, word?_eq_self (x := h.entries.length) (by omega) (by omega), hlast,
    Option.bind_eq_bind, Option.bind_some]
  by_cases hstuck : m.isStuck h.currentIndex (h.entries.length - 1) = true
  · rw [if_pos hstuck]
    cases hentry : m.entry h with
    | ok e => exact absurd ⟨e, hentry⟩ (isStuck_iff.mp hstuck)
    | error error => rw [entry_eq_error hentry]; rfl
  · obtain ⟨e, hentry⟩ := Classical.not_not.mp (mt isStuck_iff.mpr hstuck)
    have hbounds := exists_entry.mp ⟨e, hentry⟩
    have hindex : word? (h.currentIndex + m.step) = some (h.currentIndex + m.step) :=
      word?_eq_self (by omega) (by omega)
    have hfound : entryAt? h (h.currentIndex + m.step) = some e := (entry_eq_ok.mp hentry).2
    rw [if_neg hstuck, hindex, hentry, Option.bind_some, hfound]
    rfl

end Move

/-! ### All together -/

/-- What holds of the moves in a history. -/
structure Lawful (h : NavigationHistory) : Prop where
  /-- One can go back from every entry but the first. -/
  back : (∃ e, previousEntry h = .ok e) ↔ 0 < h.currentIndex ∧ h.currentIndex < h.entries.length
  previous : ∀ e, previousEntry h = .ok e → h.entries[(h.currentIndex - 1).toNat]? = some e
  /-- One can go forward from every entry but the last. -/
  forward : (∃ e, nextEntry h = .ok e) ↔
    0 ≤ h.currentIndex ∧ h.currentIndex < h.entries.length - 1
  next : ∀ e, nextEntry h = .ok e → h.entries[(h.currentIndex + 1).toNat]? = some e
  /-- The error of both moves tells the index and the length. -/
  error : ∀ (m : Move) error, m.entry h = .error error →
    error = .invalidNavigationEntry h.currentIndex h.entries.length
  /-- Nothing overflows, and nothing is looked for outside of the list. -/
  inWords : h.entries.length < 2 ^ 63 → ∀ m : Move, m.entryInWords? h = some (m.entry h)
  /-- The moves undo each other. -/
  reverse : ∀ (m : Move) e, m.entry h = .ok e →
    ∃ current, entryAt? h h.currentIndex = some current ∧
      m.reverse.entry { h with currentIndex := h.currentIndex + m.step } = .ok current

theorem lawful (h : NavigationHistory) : Lawful h where
  back := by
    refine (Move.exists_entry (m := .back)).trans ?_
    simp only [Move.step]
    omega
  previous e he := (entryAt?_eq_some.mp (Move.entry_eq_ok (m := .back).mp he).2).2
  forward := by
    refine (Move.exists_entry (m := .forward)).trans ?_
    simp only [Move.step]
    omega
  next e he := (entryAt?_eq_some.mp (Move.entry_eq_ok (m := .forward).mp he).2).2
  error _ _ := Move.entry_eq_error
  inWords hlength m := m.entryInWords?_eq h hlength
  reverse _ _ := Move.reverse_entry

end PagePilot.History
