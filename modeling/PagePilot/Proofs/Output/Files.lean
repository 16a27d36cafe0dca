import PagePilot.Files
/-!
# PagePilot.Proofs.Output.Files

What the writing of an image does to files. The directories above it are made first, which
changes no file (`Files.Keeps`), and then the file is written at one location. So the path
leads to exactly the bytes of the image when the writing succeeds, and every other file has
the contents that it had; when it fails, all files have (`Files.writeImage_writes`).
-/

namespace PagePilot.Files

variable {fs fs' fs'' : Files} {l l' here there : Location} {node : FileNode} {p : Path}
  {bytes : List UInt8}

/-- The contents of the file at a location. -/
def bytesAt? (fs : Files) (l : Location) : Option (List UInt8) :=
  match fs.at? l with
  | some (.file bytes) => some bytes
  | _ => none

/-- Where the file lies that a path names. -/
def locate? (fs : Files) (p : Path) : Option Location :=
  match p.names.getLast?, fs.walk (start p) p.names.dropLast with
  | some name, .ok above =>
      if p.ending = .name ∧ name ≠ "." ∧ name ≠ ".." then some (above ++ [name]) else none
  | _, _ => none

/-! ### Putting something at a location -/

theorem at?_of_ne_nil (hl : l ≠ []) : fs.at? l = fs.nodes.lookup l :=
  if_neg hl

theorem lookup_filter_ne (entries : List (Location × FileNode)) (h : l' ≠ l) :
    (entries.filter fun entry => entry.1 ≠ l).lookup l' = entries.lookup l' := by
  induction entries with
  | nil => rfl
  | cons entry rest ih =>
    obtain ⟨key, value⟩ := entry
    by_cases hkey : key = l
    · have hne : (l' == key) = false := by simpa [hkey] using h
      rw [List.filter_cons_of_neg (by simpa using hkey), List.lookup_cons, hne]
      exact ih
    · rw [List.filter_cons_of_pos (by simpa using hkey), List.lookup_cons, List.lookup_cons, ih]

theorem lookup_filter_self (entries : List (Location × FileNode)) (l : Location) :
    (entries.filter fun entry => entry.1 ≠ l).lookup l = none := by
  refine List.lookup_eq_none_iff.mpr fun entry hentry => ?_
  have hne : entry.1 ≠ l := by simpa using (List.mem_filter.mp hentry).2
  simpa using Ne.symm hne

theorem at?_put (hl : l ≠ []) :
    (fs.put l node).at? l' = if l' = l then some node else fs.at? l' := by
  by_cases hroot : l' = []
  · subst hroot
    rw [if_neg (Ne.symm hl)]
    rfl
  rw [at?_of_ne_nil hroot, at?_of_ne_nil hroot]
  show (List.filter _ fs.nodes ++ [(l, node)]).lookup l' = _
  rw [List.lookup_append]
  by_cases h : l' = l
  · subst h
    rw [lookup_filter_self, if_pos rfl]
    simp
  · have hne : (l' == l) = false := by simpa using h
    rw [lookup_filter_ne _ h, if_neg h, List.lookup_cons, hne]
    simp

theorem bytesAt?_put (hl : l ≠ []) (h : l' ≠ l) :
    (fs.put l node).bytesAt? l' = fs.bytesAt? l' := by
  unfold bytesAt?
  rw [at?_put hl, if_neg h]

/-- What was no directory and is a file now is on no way. -/
theorem walk_put {names : List String} (hl : l ≠ []) (hnone : fs.at? l ≠ some .directory)
    (h : fs.walk here names = .ok there) : (fs.put l node).walk here names = .ok there := by
  induction names generalizing here with
  | nil => exact h
  | cons name rest ih =>
    simp only [walk] at h ⊢
    split at h
    next hdot =>
      rw [if_pos hdot]
      exact ih h
    next hdot =>
      rw [if_neg hdot]
      split at h
      next hup =>
        rw [if_pos hup]
        exact ih h
      next hup =>
        rw [if_neg hup]
        split at h
        next hdirectory =>
          have hne : here ++ [name] ≠ l := by
            rintro rfl
            exact hnone hdirectory
          rw [at?_put hl, if_neg hne, hdirectory]
          exact ih h
        next => cases h
        next => cases h

/-! ### Making directories -/

/-- Every file has the contents that it had, and no other is there. -/
def Keeps (fs fs' : Files) : Prop :=
  ∀ l, fs'.bytesAt? l = fs.bytesAt? l

theorem Keeps.refl (fs : Files) : fs.Keeps fs :=
  fun _ => rfl

theorem Keeps.trans (h : fs.Keeps fs') (h' : fs'.Keeps fs'') : fs.Keeps fs'' :=
  fun l => (h' l).trans (h l)

theorem makeDirectory_keeps (h : fs.makeDirectory p = .ok fs') : fs.Keeps fs' := by
  unfold makeDirectory at h
  split at h
  next => cases h
  next name hname =>
    cases habove : fs.walk (start p) p.names.dropLast with
    | error e =>
      rw [habove] at h
      cases h
    | ok above =>
      rw [habove] at h
      simp only [bind, Except.bind] at h
      split at h
      next => cases h
      next =>
        split at h
        next => cases h
        next hnone =>
          cases h
          intro l
          by_cases hl : l = above ++ [name]
          · subst hl
            unfold bytesAt?
            rw [at?_put (by simp), if_pos rfl, hnone]
          · exact bytesAt?_put (by simp) hl

theorem makeDirectories_keeps (tries : Nat) (p : Path) (fs : Files) :
    fs.Keeps (makeDirectories tries p fs).1 := by
  induction tries generalizing p fs with
  | zero => exact .refl fs
  | succ tries ih =>
    have horThere : ∀ (fs : Files) (e : FileError), (if fs.isDirectory p then
        (fs, (.ok () : Except FileError Unit)) else (fs, .error e)).1 = fs :=
      fun fs e => by split <;> rfl
    unfold makeDirectories
    dsimp only
    split
    · exact .refl fs
    split
    next made hmade => exact makeDirectory_keeps hmade
    next =>
      split
      next => exact .refl fs
      next above habove =>
        have hkeeps := ih above fs
        split
        next heq =>
          rw [heq] at hkeeps
          exact hkeeps
        next heq =>
          rw [heq] at hkeeps
          split
          next made hmade => exact hkeeps.trans (makeDirectory_keeps hmade)
          next =>
            rw [horThere]
            exact hkeeps
    next =>
      rw [horThere]
      exact .refl fs

/-! ### Writing -/

/-- A file is written where its path leads, in place of no directory. -/
theorem writeFile_eq_ok (h : fs.writeFile p bytes = .ok fs') :
    ∃ l, fs.locate? p = some l ∧ l ≠ [] ∧ fs.at? l ≠ some .directory ∧
      fs' = fs.put l (.file bytes) := by
  unfold writeFile at h
  split at h
  next => cases h
  next name hname =>
    cases habove : fs.walk (start p) p.names.dropLast with
    | error e =>
      rw [habove] at h
      cases h
    | ok above =>
      rw [habove] at h
      simp only [bind, Except.bind] at h
      split at h
      next =>
        split at h <;> cases h
      next hdot =>
        split at h
        next => cases h
        next hproper =>
          split at h
          next => cases h
          next hfile =>
            cases h
            refine ⟨above ++ [name], ?_, by simp, hfile, rfl⟩
            have hending : p.ending = .name := by
              cases hending : p.ending with
              | name => rfl
              | slash => exact absurd (.inr (.inr hending)) hproper
              | dot => exact absurd hending hdot
            unfold locate?
            rw [hname, habove]
            exact if_pos ⟨hending, fun h => hproper (.inl h), fun h => hproper (.inr (.inl h))⟩

/-- What the writing of an image to a path does to files. -/
inductive Writes (fs fs' : Files) (path : String) (bytes : List UInt8) :
    Except FileError Unit → Prop
  /-- The path leads to the image, and every other file is as it was. -/
  | written {l : Location} (hl : fs'.locate? (.ofText path) = some l)
      (hbytes : fs'.bytesAt? l = some bytes)
      (hothers : ∀ l' ≠ l, fs'.bytesAt? l' = fs.bytesAt? l') : Writes fs fs' path bytes (.ok ())
  /-- No file is written. -/
  | failed {e : FileError} (h : fs.Keeps fs') : Writes fs fs' path bytes (.error e)

theorem locate?_put (hl : l ≠ []) (hnone : fs.at? l ≠ some .directory)
    (h : fs.locate? p = some l') : (fs.put l node).locate? p = some l' := by
  unfold locate? at h ⊢
  split at h
  next name above hname habove =>
    rw [hname, walk_put hl hnone habove]
    exact h
  next => cases h

theorem writes_of_writeFile {path : String} (h : fs.Keeps fs')
    (hwrite : fs'.writeFile (.ofText path) bytes = .ok fs'') :
    fs.Writes fs'' path bytes (.ok ()) := by
  obtain ⟨l, hlocate, hl, hfile, rfl⟩ := writeFile_eq_ok hwrite
  refine .written (locate?_put hl hfile hlocate) ?_ fun l' hne => ?_
  · unfold bytesAt?
    rw [at?_put hl, if_pos rfl]
  · exact (bytesAt?_put hl hne).trans (h l')

/-- An image is written as a whole, or no file is. -/
theorem writeImage_writes (fs : Files) (path : String) (bytes : List UInt8) :
    fs.Writes (fs.writeImage path bytes).1 path bytes (fs.writeImage path bytes).2 := by
  unfold writeImage
  cases hparent : (Path.ofText path).parent? with
  | none =>
    dsimp only
    rw [hparent]
    dsimp only
    cases hwritten : fs.writeFile (.ofText path) bytes with
    | error e => exact .failed (.refl fs)
    | ok written => exact writes_of_writeFile (.refl fs) hwritten
  | some above =>
    have hkeeps := makeDirectories_keeps (above.names.length + 1) above fs
    dsimp only
    rw [hparent]
    dsimp only
    generalize makeDirectories (above.names.length + 1) above fs = result at hkeeps
    obtain ⟨made, outcome⟩ := result
    cases outcome with
    | error e => exact .failed hkeeps
    | ok _ =>
      dsimp only
      cases hwritten : made.writeFile (.ofText path) bytes with
      | error e => exact .failed hkeeps
      | ok written => exact writes_of_writeFile hkeeps hwritten

end PagePilot.Files
