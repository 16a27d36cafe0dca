import PagePilot.Proofs.CommandLine.Given
import PagePilot.Proofs.CommandLine.Options
/-!
# PagePilot.Proofs.CommandLine.Beside

Global options beside those of a command: occurrences of them are taken there as they are taken
without, and what was given of the command's own stays (`takeAll_beside`).
-/

namespace PagePilot.CommandLine

/-- An occurrence is of global options. -/
def Occurrence.IsGlobal (o : Occurrence) : Prop :=
  ∀ assignment, o.assignment = some assignment → assignment.setting.isGlobal = true

/-- The value that is not looked at yet is one of a global option. -/
def Progress.IsGlobal (p : Progress) : Prop :=
  ∀ setting text, p.pending = some (setting, text) → setting.isGlobal = true

/-- A reading of global options with the options of a command. -/
def Progress.beside (p : Progress) (other : Given) : Progress :=
  { p with given := p.given.beside other }

section Global

variable {o : Occurrence} {os : List Occurrence} {words : List String} {p p' : Progress}

theorem Spells.isGlobal (h : Spells o words) : o.IsGlobal := by
  have hlong : ∀ {name : String} {setting : Setting},
      globalLong? name = some (.setting setting) → setting.isGlobal = true := by
    intro name setting h
    unfold globalLong? at h
    split at h <;> cases h <;> rfl
  have hshort : ∀ {letter : Char} {setting : Setting},
      globalShort? letter = some (.setting setting) → setting.isGlobal = true := by
    intro letter setting h
    unfold globalShort? at h
    split at h <;> cases h <;> rfl
  rintro assignment hassignment
  cases h with
  | verbose | cluster => cases hassignment
  | long h | longApart h =>
    cases hassignment
    exact hlong h
  | equals _ _ h | attached _ h | apart _ h =>
    cases hassignment
    exact hshort h

theorem Spelled.isGlobal (h : Spelled os words) : ∀ o ∈ os, o.IsGlobal := by
  induction h with
  | nil => exact nofun
  | cons h _ ih => exact List.forall_mem_cons.mpr ⟨h.isGlobal, ih⟩

theorem Progress.start_isGlobal : Progress.start.IsGlobal :=
  nofun

theorem Given.louder_beside (g other : Given) (count : Nat) :
    (g.beside other).louder count = (g.louder count).beside other := by
  induction count generalizing g with
  | zero => rfl
  | succ count ih => exact ih { g with verbose := min countLimit (g.verbose + 1) }

theorem Progress.resolve_beside (h : p.IsGlobal) (other : Given) :
    (p.beside other).resolve = p.resolve.map fun p => p.beside other := by
  obtain ⟨given, pending, escaped⟩ := p
  match pending with
  | none => rfl
  | some (setting, none) => rfl
  | some (setting, some text) =>
    have hset := given.beside_set (h setting _ rfl) other text
    show ((given.beside other).set setting text).map _ = ((given.set setting text).map _).map _
    rw [hset]
    cases given.set setting text <;> rfl

theorem Occurrence.begin_beside (h : o.IsGlobal) (p : Progress) (other : Given) :
    o.begin (p.beside other) = (o.begin p).map fun p => p.beside other := by
  have hlouder : (p.beside other).louder o.verbose = (p.louder o.verbose).beside other :=
    congrArg (fun given => ({ p with given } : Progress)) (p.given.louder_beside other o.verbose)
  unfold begin
  dsimp only
  rw [hlouder]
  match hassignment : o.assignment with
  | none => rfl
  | some ⟨setting, text, true⟩ => rfl
  | some ⟨setting, text, false⟩ =>
    have hset := (p.louder o.verbose).given.beside_set (h _ hassignment) other text
    show (((p.louder o.verbose).given.beside other).set setting text).map _ = _
    rw [hset]
    dsimp only
    cases (p.louder o.verbose).given.set setting text <;> rfl

/-- What is read behind an occurrence is of a global option. -/
theorem Occurrence.take_isGlobal (h : o.IsGlobal) (htake : o.take p = .ok p') : p'.IsGlobal := by
  intro setting text heq
  obtain ⟨-, hnone | ⟨assignment, hassignment, -, hpending⟩⟩ := of_take htake
  · cases hnone.symm.trans heq
  · cases hpending.symm.trans heq
    exact h assignment hassignment

theorem Occurrence.take_beside (h : o.IsGlobal) (hp : p.IsGlobal) (other : Given) :
    o.take (p.beside other) = (o.take p).map fun p => p.beside other := by
  unfold take
  rw [Progress.resolve_beside hp]
  cases p.resolve with
  | error => rfl
  | ok q => exact begin_beside h q other

/-- Occurrences are taken beside the options of a command as they are without. -/
theorem takeAll_beside (hos : ∀ o ∈ os, o.IsGlobal) (hp : p.IsGlobal) (other : Given) :
    takeAll os (p.beside other) = (takeAll os p).map fun p => p.beside other := by
  induction os generalizing p with
  | nil => rfl
  | cons o os ih =>
    obtain ⟨ho, hos⟩ := List.forall_mem_cons.mp hos
    rw [takeAll, takeAll, Occurrence.take_beside ho hp]
    cases htake : o.take p with
    | error => rfl
    | ok q => exact ih hos (Occurrence.take_isGlobal ho htake)

theorem takeAll_isGlobal (hos : ∀ o ∈ os, o.IsGlobal) (hp : p.IsGlobal)
    (h : takeAll os p = .ok p') : p'.IsGlobal := by
  induction os generalizing p with
  | nil =>
    cases h
    exact hp
  | cons o os ih =>
    obtain ⟨ho, hos⟩ := List.forall_mem_cons.mp hos
    obtain ⟨q, htake, h⟩ := ok_of_bind_ok h
    exact ih hos (Occurrence.take_isGlobal ho htake) h

end Global

end PagePilot.CommandLine
