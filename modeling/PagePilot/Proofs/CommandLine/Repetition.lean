import PagePilot.Proofs.CommandLine.Beside
/-!
# PagePilot.Proofs.CommandLine.Repetition

Options that are given twice. Occurrences are taken when no option is given twice and every value
reads (`Sound`). The value that is looked at last may be the first mistake, and a conflict: that is
where they end with a repetition (`endsWithRepetition_iff`).
-/

namespace PagePilot.CommandLine

/-- The options to which some occurrences give a value. -/
def settings (os : List Occurrence) : List Setting :=
  os.filterMap fun o => o.assignment.map Assignment.setting

/-- No option is given twice, and every value reads. -/
structure Sound (os : List Occurrence) : Prop where
  once : (settings os).Nodup
  reads : ∀ o ∈ os, ∀ assignment, o.assignment = some assignment →
    assignment.setting.Reads assignment.text

/-- Occurrences end with a repetition of an option, by a value that is a word of its own, and
nothing is wrong in front of that. -/
inductive EndsWithRepetition : List Occurrence → Prop
  | of {before : List Occurrence} {last : Occurrence} {assignment : Assignment}
      (hsound : Sound before) (hlast : last.assignment = some assignment)
      (hapart : assignment.apart = true) (hrepeated : assignment.setting ∈ settings before) :
      EndsWithRepetition (before ++ [last])

section Repetition

variable {o : Occurrence} {os : List Occurrence} {p p' : Progress} {env : Environment}

theorem Given.has_louder (g : Given) (count : Nat) (setting : Setting) :
    (g.louder count).has setting = g.has setting := by
  induction count generalizing g with
  | zero => rfl
  | succ count ih =>
    refine (ih _).trans ?_
    cases setting <;> rfl

/-- Who asks for more words gives no value. -/
@[simp]
theorem Progress.has_louder (p : Progress) (count : Nat) (setting : Setting) :
    (p.louder count).given.has setting = p.given.has setting :=
  p.given.has_louder count setting

/-- One occurrence after the other: the value of each is looked at in front of the next. -/
theorem takeAll_cons_resolve (o : Occurrence) (os : List Occurrence) (p : Progress) :
    (takeAll (o :: os) p).bind Progress.resolve =
      ((o.take p).bind Progress.resolve).bind fun q => (takeAll os q).bind Progress.resolve := by
  rw [takeAll]
  cases o.take p with
  | error => rfl
  | ok q => exact takeAll_resolve os q

/-- What comes of an occurrence once its value is looked at. -/
theorem Occurrence.take_resolve (hp : p.pending = none) : (o.take p).bind Progress.resolve =
    match o.assignment with
    | none => .ok (p.louder o.verbose)
    | some assignment =>
        ((p.louder o.verbose).given.set assignment.setting assignment.text).map fun given =>
          { p with given } := by
  unfold take
  rw [Progress.resolve_of_pending_eq_none hp]
  show (o.begin p).bind _ = _
  obtain ⟨given, pending, escaped⟩ := p
  obtain rfl : pending = none := hp
  obtain ⟨verbose, _ | ⟨setting, text, _ | _⟩⟩ := o
  · rfl
  · -- A value in the word of its option is looked at with it.
    show ((((given.louder verbose).set setting text).map _).bind _ : Except _ _) =
      ((given.louder verbose).set setting text).map _
    cases (given.louder verbose).set setting text <;> rfl
  · rfl

/-- An occurrence whose value is taken gives it to an option that has none, and it reads. -/
theorem Occurrence.of_take_resolve (hp : p.pending = none)
    (h : (o.take p).bind Progress.resolve = .ok p') :
    p'.pending = none ∧
      (∀ assignment, o.assignment = some assignment →
        p.given.has assignment.setting = false ∧ assignment.setting.Reads assignment.text) ∧
      ∀ setting, p'.given.has setting = (p.given.has setting || setting ∈ settings [o]) := by
  rw [take_resolve hp] at h
  cases hassignment : o.assignment with
  | none =>
    rw [hassignment] at h
    cases h
    exact ⟨hp, nofun, by simp [settings, hassignment]⟩
  | some assignment =>
    rw [hassignment] at h
    obtain ⟨given, hset, rfl⟩ := map_eq_ok.mp h
    obtain ⟨hfree, hreads, hhas⟩ := Given.of_set hset
    rw [Progress.has_louder] at hfree
    refine ⟨hp, ?_, by simp [settings, hassignment, hhas]⟩
    rintro _ ⟨⟩
    exact ⟨hfree, hreads⟩

theorem Occurrence.exists_take_resolve (hp : p.pending = none)
    (h : ∀ assignment, o.assignment = some assignment →
      p.given.has assignment.setting = false ∧ assignment.setting.Reads assignment.text) :
    ∃ p', (o.take p).bind Progress.resolve = .ok p' := by
  rw [take_resolve hp]
  cases hassignment : o.assignment with
  | none => exact ⟨_, rfl⟩
  | some assignment =>
    obtain ⟨hfree, hreads⟩ := h _ hassignment
    rw [← p.has_louder o.verbose] at hfree
    exact exists_map_eq_ok.mpr (Given.exists_set hfree hreads)

theorem settings_cons (o : Occurrence) (os : List Occurrence) :
    settings (o :: os) = settings [o] ++ settings os :=
  List.filterMap_append (l := [o])

theorem mem_settings_singleton {setting : Setting} : setting ∈ settings [o] ↔
    ∃ assignment, o.assignment = some assignment ∧ assignment.setting = setting := by
  simp [settings]

theorem Sound.cons_iff : Sound (o :: os) ↔
    (∀ assignment, o.assignment = some assignment →
      assignment.setting.Reads assignment.text ∧ assignment.setting ∉ settings os) ∧ Sound os := by
  constructor
  · rintro ⟨honce, hreads⟩
    rw [settings_cons] at honce
    obtain ⟨ho, hos⟩ := List.forall_mem_cons.mp hreads
    obtain ⟨-, honce, hapart⟩ := List.nodup_append.mp honce
    refine ⟨fun assignment hassignment => ⟨ho _ hassignment, fun hmem => ?_⟩, honce, hos⟩
    exact hapart _ (mem_settings_singleton.mpr ⟨_, hassignment, rfl⟩) _ hmem rfl
  · rintro ⟨ho, honce, hos⟩
    refine ⟨?_, List.forall_mem_cons.mpr ⟨fun _ hassignment => (ho _ hassignment).1, hos⟩⟩
    rw [settings_cons]
    refine List.nodup_append.mpr ⟨?_, honce, ?_⟩
    · cases hassignment : o.assignment <;> simp [settings, hassignment]
    · rintro _ hmem _ hmem' rfl
      obtain ⟨assignment, hassignment, rfl⟩ := mem_settings_singleton.mp hmem
      exact (ho _ hassignment).2 hmem'

/-- What comes of occurrences that are taken, the last value included: they are sound, and none of
their options had a value. -/
theorem of_takeAll_resolve (hp : p.pending = none)
    (h : (takeAll os p).bind Progress.resolve = .ok p') :
    Sound os ∧ (∀ setting ∈ settings os, p.given.has setting = false) ∧
      ∀ setting, p'.given.has setting = (p.given.has setting || setting ∈ settings os) := by
  induction os generalizing p with
  | nil =>
    have heq : p.resolve = .ok p' := h
    rw [Progress.resolve_of_pending_eq_none hp] at heq
    cases heq
    exact ⟨⟨List.nodup_nil, nofun⟩, nofun, by simp [settings]⟩
  | cons o os ih =>
    rw [takeAll_cons_resolve] at h
    obtain ⟨q, hq, h⟩ := ok_of_bind_ok h
    obtain ⟨hpending, ho, hhas⟩ := Occurrence.of_take_resolve hp hq
    obtain ⟨hsound, hfree, hhas'⟩ := ih hpending h
    have hapart : ∀ setting ∈ settings os,
        p.given.has setting = false ∧ setting ∉ settings [o] := by
      intro setting hmem
      simpa using (hhas setting).symm.trans (hfree setting hmem)
    refine ⟨Sound.cons_iff.mpr ⟨fun assignment hassignment => ?_, hsound⟩, ?_, ?_⟩
    · refine ⟨(ho _ hassignment).2, fun hmem => (hapart _ hmem).2 ?_⟩
      exact mem_settings_singleton.mpr ⟨_, hassignment, rfl⟩
    · intro setting hmem
      rw [settings_cons] at hmem
      rcases List.mem_append.mp hmem with hmem | hmem
      · obtain ⟨assignment, hassignment, rfl⟩ := mem_settings_singleton.mp hmem
        exact (ho _ hassignment).1
      · exact (hapart _ hmem).1
    · intro setting
      rw [hhas', hhas, settings_cons o os]
      simp [Bool.or_assoc]

/-- Sound occurrences are taken if none of their options has a value. -/
theorem Sound.exists_takeAll_resolve (h : Sound os) (hp : p.pending = none)
    (hfree : ∀ setting ∈ settings os, p.given.has setting = false) :
    ∃ p', (takeAll os p).bind Progress.resolve = .ok p' := by
  induction os generalizing p with
  | nil => exact ⟨p, Progress.resolve_of_pending_eq_none hp⟩
  | cons o os ih =>
    obtain ⟨ho, hos⟩ := Sound.cons_iff.mp h
    rw [settings_cons] at hfree
    have hfirst : ∀ assignment, o.assignment = some assignment →
        p.given.has assignment.setting = false ∧ assignment.setting.Reads assignment.text := by
      intro assignment hassignment
      have hmem := mem_settings_singleton.mpr ⟨_, hassignment, rfl⟩
      exact ⟨hfree _ (List.mem_append_left _ hmem), (ho _ hassignment).1⟩
    obtain ⟨q, hq⟩ := Occurrence.exists_take_resolve hp hfirst
    obtain ⟨hpending, -, hhas⟩ := Occurrence.of_take_resolve hp hq
    rw [takeAll_cons_resolve, hq]
    refine ih hos hpending fun setting hmem => ?_
    have hother : setting ∉ settings [o] := by
      intro hfirst
      obtain ⟨assignment, hassignment, rfl⟩ := mem_settings_singleton.mp hfirst
      exact (ho _ hassignment).2 hmem
    simp [hhas, hother, hfree setting (List.mem_append_right _ hmem)]

/-- The last occurrence is taken when all values in front of it are looked at. -/
theorem takeAll_concat (os : List Occurrence) (o : Occurrence) (p : Progress) :
    takeAll (os ++ [o]) p = ((takeAll os p).bind Progress.resolve).bind o.begin := by
  induction os generalizing p with
  | nil =>
    show (o.take p).bind .ok = o.take p
    cases o.take p <;> rfl
  | cons first os ih =>
    rw [List.cons_append, takeAll, takeAll]
    cases first.take p with
    | error => rfl
    | ok q => exact ih q

/-- A value that is a word of its own is not looked at yet behind its occurrence. -/
theorem Occurrence.begin_apart {assignment : Assignment} (h : o.assignment = some assignment)
    (hapart : assignment.apart = true) : o.begin p = .ok
      { p.louder o.verbose with pending := some (assignment.setting, some assignment.text) } := by
  obtain ⟨setting, text, _ | _⟩ := assignment
  · cases hapart
  · unfold begin
    rw [h]

/-- Occurrences end with a repetition where the value that is looked at last is the first mistake,
and a conflict. -/
theorem endsWithRepetition_iff (hos : ∀ o ∈ os, o.IsGlobal) : EndsWithRepetition os ↔
    ∃ p, takeAll os .start = .ok p ∧ p.resolve = .error .argumentConflict := by
  have hstart : Progress.start.pending = none := rfl
  have hnothing : ∀ setting, Progress.start.given.has setting = false := by
    intro setting
    cases setting <;> rfl
  constructor
  · intro h
    cases h with
    | @of before last assignment hsound hlast hapart hrepeated =>
      obtain ⟨p, hp⟩ := hsound.exists_takeAll_resolve hstart fun setting _ => hnothing setting
      obtain ⟨-, -, hhas⟩ := of_takeAll_resolve hstart hp
      rw [takeAll_concat, hp]
      refine ⟨_, Occurrence.begin_apart hlast hapart, ?_⟩
      have hgiven : (p.louder last.verbose).given.has assignment.setting = true := by
        simp [hhas, hrepeated]
      exact congrArg (Except.map _) (Given.set_of_has hgiven)
  · rintro ⟨p, htake, hresolve⟩
    rcases os.eq_nil_or_concat with rfl | ⟨before, last, heq⟩
    · cases htake
      cases hresolve
    · rw [List.concat_eq_append] at heq
      subst heq
      rw [takeAll_concat] at htake
      obtain ⟨q, hq, hbegin⟩ := ok_of_bind_ok htake
      obtain ⟨hsound, -, hhas⟩ := of_takeAll_resolve hstart hq
      obtain ⟨r, -, hr⟩ := ok_of_bind_ok hq
      have hpending := (Progress.resolve_eq_ok hr).1
      obtain ⟨-, hnone | ⟨assignment, hlast, hapart, -⟩⟩ := Occurrence.of_begin hpending hbegin
      · rw [Progress.resolve_of_pending_eq_none hnone] at hresolve
        cases hresolve
      · rw [Occurrence.begin_apart hlast hapart] at hbegin
        cases hbegin
        have hset := map_eq_error.mp hresolve
        have hglobal := hos last (by simp) assignment hlast
        refine .of hsound hlast hapart ?_
        rcases Given.set_error hglobal hset with ⟨hgiven, -⟩ | ⟨-, heq⟩
        · simpa [hhas, hnothing] using hgiven
        · cases heq

end Repetition

end PagePilot.CommandLine
