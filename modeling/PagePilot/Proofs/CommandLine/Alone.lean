import PagePilot.Proofs.CommandLine.Given
/-!
# PagePilot.Proofs.CommandLine.Alone

Commands without global options (`Alone`). No word of such a command leaves a trace among the global
options, and its words are read in front of any others as they are read alone
(`exists_of_readBehind`).
-/

namespace PagePilot.CommandLine

/-! ### Commands without global options -/

/-- A word that begins with a global option. -/
def namesGlobal (word : String) : Bool :=
  match Shape.of word with
  | .long name _ => (globalLong? name).isSome
  | .short (letter :: _) => (globalShort? letter).isSome
  | _ => false

/-- The words of a command that stand for themselves. -/
structure Alone (words : List String) : Prop where
  starts : ∃ word rest verb, words = word :: rest ∧ Verb.ofWord? word = some verb
  unescaped : "--" ∉ words
  noGlobal : ∀ word ∈ words, namesGlobal word = false
  accepted : ∃ invocation, read .empty words = .ok invocation

/-- No global option was read. -/
structure Progress.IsLocal (p : Progress) : Prop where
  given : p.given.IsLocal
  pending : ∀ setting text, p.pending = some (setting, text) → setting.isGlobal = false
  unescaped : p.escaped = false

section Local

variable {verb : Verb} {p p' back : Progress} {name word : String} {letter : Char} {switch : Switch}
  {setting : Setting} {words rest : List String}

theorem Progress.start_isLocal : Progress.start.IsLocal :=
  ⟨⟨rfl, rfl, rfl, rfl⟩, nofun, rfl⟩

theorem shape_escape (h : Shape.of word = .escape) : word = "--" := by
  unfold Shape.of at h
  split at h
  next heq => exact String.toList_inj.mp heq
  next =>
    dsimp only at h
    split at h <;> cases h
  next => cases h
  next => cases h

/-- The options of a command that are no global ones. -/
theorem long?_local (hlocal : globalLong? name = none)
    (h : (Level.behind verb).long? name = some switch) :
    switch = .flag .ignoreCache ∨
      ∃ setting, switch = .setting setting ∧ setting.isGlobal = false := by
  unfold Level.long? at h
  rw [hlocal] at h
  split at h <;> cases h <;> simp_all [Setting.isGlobal]

theorem short?_local (hlocal : globalShort? letter = none)
    (h : (Level.behind verb).short? letter = some switch) : switch = .setting .output := by
  unfold Level.short? at h
  rw [hlocal] at h
  split at h <;> cases h <;> simp_all

namespace Progress.IsLocal

theorem resolve (h : p.IsLocal) (hresolve : p.resolve = .ok p') : p'.IsLocal := by
  unfold Progress.resolve at hresolve
  split at hresolve
  next =>
    cases hresolve
    exact h
  next => cases hresolve
  next setting text hpending =>
    obtain ⟨given, hset, rfl⟩ := map_eq_ok.mp hresolve
    exact ⟨h.given.set (h.pending _ _ hpending) hset, nofun, h.unescaped⟩

theorem takeSetting (h : p.IsLocal) (hlocal : setting.isGlobal = false) {attached : Option String}
    (htake : p.takeSetting setting attached = .ok p') : p'.IsLocal := by
  obtain ⟨q, hresolve, htake⟩ := ok_of_bind_ok htake
  have hq := h.resolve hresolve
  cases attached with
  | none =>
    cases htake
    refine ⟨hq.given, ?_, hq.unescaped⟩
    rintro _ _ ⟨⟩
    exact hlocal
  | some text =>
    obtain ⟨given, hset, htake⟩ := ok_of_bind_ok htake
    cases htake
    exact ⟨hq.given.set hlocal hset, hq.pending, hq.unescaped⟩

theorem takeIgnoreCache (h : p.IsLocal) (htake : p.takeFlag .ignoreCache = .ok p') :
    p'.IsLocal := by
  obtain ⟨q, hresolve, htake⟩ := ok_of_bind_ok htake
  obtain ⟨given, hraise, htake⟩ := ok_of_bind_ok htake
  have hq := h.resolve hresolve
  cases htake
  unfold Given.raise at hraise
  dsimp only at hraise
  split at hraise
  next => cases hraise
  next =>
    cases hraise
    exact ⟨⟨hq.given.verbose, hq.given.endpoint, hq.given.timeout, hq.given.target⟩, hq.pending,
      hq.unescaped⟩

/-- An option of a command is read without a global one. -/
theorem takeOption? (h : p.IsLocal) (hlocal : namesGlobal word = false) (hescape : word ≠ "--")
    (htake : p.takeOption? (.behind verb) word = some (.ok p')) : p'.IsLocal := by
  unfold Progress.takeOption? at htake
  rw [h.unescaped] at htake
  unfold namesGlobal at hlocal
  cases hshape : Shape.of word with
  | escape => exact absurd (shape_escape hshape) hescape
  | plain => simp [hshape] at htake
  | long name value =>
    simp only [hshape, Option.isSome_eq_false_iff, Option.isNone_iff_eq_none] at hlocal
    have htake : p.takeLong (.behind verb) name value = .ok p' := by simpa [hshape] using htake
    unfold Progress.takeLong at htake
    split at htake
    next => cases htake
    next => cases htake
    next flag hlong =>
      rcases long?_local hlocal hlong with heq | ⟨setting, heq, -⟩ <;> cases heq
      exact h.takeIgnoreCache htake
    next setting hlong =>
      rcases long?_local hlocal hlong with heq | ⟨setting, heq, hsetting⟩ <;> cases heq
      exact h.takeSetting hsetting htake
  | short names =>
    have htake : p.takeShort (.behind verb) names = .ok p' := by simpa [hshape] using htake
    cases names with
    | nil =>
      cases htake
      exact h
    | cons letter rest =>
      simp only [hshape, Option.isSome_eq_false_iff, Option.isNone_iff_eq_none] at hlocal
      unfold Progress.takeShort at htake
      cases hshort : (Level.behind verb).short? letter with
      | none => simp [hshort] at htake
      | some switch =>
        obtain rfl := short?_local hlocal hshort
        rw [hshort] at htake
        exact h.takeSetting rfl htake

theorem takeValue (h : p.IsLocal) (word : String) : (p.takeValue word).IsLocal := by
  refine ⟨h.given, fun setting text hpending => ?_, h.unescaped⟩
  obtain ⟨⟨other, value⟩, hother, heq⟩ := Option.map_eq_some_iff.mp hpending
  cases heq
  exact h.pending _ _ hother

theorem takeWord (h : p.IsLocal) (htake : CommandLine.takeWord verb p word = .ok p') :
    p'.IsLocal := by
  unfold CommandLine.takeWord at htake
  split at htake
  next =>
    obtain ⟨q, hresolve, htake⟩ := ok_of_bind_ok htake
    have hq := h.resolve hresolve
    cases htake
    exact ⟨⟨hq.given.verbose, hq.given.endpoint, hq.given.timeout, hq.given.target⟩, hq.pending,
      hq.unescaped⟩
  next => cases htake

end Progress.IsLocal

/-- A word that is read is read in front of any others, and without a global option if it names
none. -/
theorem exists_of_readBehind_cons (h : p.IsLocal) (hlocal : namesGlobal word = false)
    (hescape : word ≠ "--") (hread : readBehind verb p (word :: rest) = .ok back) :
    ∃ p', p'.IsLocal ∧
      ∀ more, readBehind verb p (word :: more) = readBehind verb p' more := by
  rw [readBehind] at hread
  split at hread
  next p' htake =>
    refine ⟨p', h.takeOption? hlocal hescape htake, fun more => ?_⟩
    rw [readBehind, htake]
  next => cases hread
  next htake =>
    split at hread
    next hvalue =>
      refine ⟨_, h.takeValue word, fun more => ?_⟩
      rw [readBehind, htake]
      exact if_pos hvalue
    next hvalue =>
      split at hread
      next p' hword =>
        refine ⟨p', h.takeWord hword, fun more => ?_⟩
        rw [readBehind, htake]
        dsimp only
        rw [if_neg hvalue, hword]
      next => cases hread

/-- What is read of a command alone is read of it in front of other words, up to the last value. -/
theorem exists_of_readBehind (h : p.IsLocal) (hlocal : ∀ word ∈ words, namesGlobal word = false)
    (hescape : "--" ∉ words) (hread : readBehind verb p words = .ok back) :
    ∃ p', p'.IsLocal ∧ p'.resolve = .ok back ∧
      ∀ more, readBehind verb p (words ++ more) = readBehind verb p' more := by
  induction words generalizing p with
  | nil => exact ⟨p, h, hread, fun _ => rfl⟩
  | cons word rest ih =>
    obtain ⟨hword, hrest⟩ := List.forall_mem_cons.mp hlocal
    have hne : word ≠ "--" := fun heq => hescape (heq ▸ List.mem_cons_self)
    obtain ⟨q, hq, hmore⟩ := exists_of_readBehind_cons h hword hne hread
    have hescape : "--" ∉ rest := fun hmem => hescape (List.mem_cons_of_mem _ hmem)
    obtain ⟨p', hp', hresolve, happend⟩ :=
      ih hq hrest hescape ((hmore rest).symm.trans hread)
    exact ⟨p', hp', hresolve, fun more => (hmore _).trans (happend more)⟩

end Local

end PagePilot.CommandLine
