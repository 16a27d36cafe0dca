import PagePilot.CommandLine.Reader
import PagePilot.Proofs.Result
/-!
# PagePilot.Proofs.CommandLine.Given

What becomes of what was given. An option takes a text exactly when it has none yet and the text
reads as a value of it (`Given.of_set`, `Given.exists_set`), and the global options go their own way
beside those of a command (`Given.beside`).
-/

namespace PagePilot.CommandLine

/-! ### Options and their values -/

/-- Whether a value was given for an option. -/
def Given.has (g : Given) : Setting → Bool
  | .endpoint => g.endpoint.isSome
  | .timeout => g.timeout.isSome
  | .target => g.target.isSome
  | .output => g.output.isSome
  | .format => g.format.isSome
  | .quality => g.quality.isSome

/-- A text reads as a value of an option. -/
def Setting.Reads (setting : Setting) (text : String) : Prop :=
  ∃ g, Given.nothing.set setting text = .ok g

/-- Whether an option may be given at both levels. -/
def Setting.isGlobal : Setting → Bool
  | .endpoint | .timeout | .target => true
  | _ => false

namespace Given

/-- What was given, with the value of one option from elsewhere. -/
def put (g other : Given) : Setting → Given
  | .endpoint => { g with endpoint := other.endpoint }
  | .timeout => { g with timeout := other.timeout }
  | .target => { g with target := other.target }
  | .output => { g with output := other.output }
  | .format => { g with format := other.format }
  | .quality => { g with quality := other.quality }

variable {g g' read : Given} {setting : Setting} {text : String} {e : UsageError}

theorem has_put (other : Setting) : (g.put read setting).has other =
    if other = setting then read.has setting else g.has other := by
  cases setting <;> cases other <;> rfl

/-- What is given twice is a conflict, whatever it says. -/
theorem set_of_has (h : g.has setting = true) :
    g.set setting text = .error .argumentConflict := by
  cases setting <;>
    (obtain ⟨value, hvalue⟩ := Option.isSome_iff_exists.mp h
     unfold set
     rw [hvalue]
     rfl)

/-- A first text is read as if nothing else was given. -/
theorem set_of_not_has (h : g.has setting = false) :
    g.set setting text = (nothing.set setting text).map fun read => g.put read setting := by
  have hnone : ∀ {α : Type} {o : Option α}, o.isSome = false → o = none := by simp
  cases setting with
  | endpoint =>
    unfold set
    rw [hnone h]
    cases readEndpoint text <;> rfl
  | timeout =>
    unfold set
    rw [hnone h]
    cases readTimeout text <;> rfl
  | target =>
    unfold set
    rw [hnone h]
    rfl
  | output =>
    unfold set
    rw [hnone h]
    cases readPath text <;> rfl
  | format =>
    unfold set
    rw [hnone h]
    cases readFormat text <;> rfl
  | quality =>
    unfold set
    rw [hnone h]
    cases readQuality text <;> rfl

theorem has_of_set_nothing (h : nothing.set setting text = .ok read) :
    read.has setting = true := by
  have hsome : ∀ {α : Type} {x : Except UsageError α} {o}, fill none x = .ok o → o.isSome := by
    intro α x o h
    obtain ⟨a, -, rfl⟩ := map_eq_ok.mp h
    rfl
  cases setting with
  | target =>
    cases h
    rfl
  | _ =>
    obtain ⟨o, ho, rfl⟩ := map_eq_ok.mp h
    exact hsome ho

/-- A text that is taken is the first one for its option, and reads as a value. -/
theorem of_set (h : g.set setting text = .ok g') :
    g.has setting = false ∧ setting.Reads text ∧
      ∀ other, g'.has other = (g.has other || other = setting) := by
  cases hhas : g.has setting with
  | true =>
    rw [set_of_has hhas] at h
    cases h
  | false =>
    rw [set_of_not_has hhas] at h
    obtain ⟨read, hread, rfl⟩ := map_eq_ok.mp h
    refine ⟨rfl, ⟨read, hread⟩, fun other => ?_⟩
    rw [has_put, has_of_set_nothing hread]
    by_cases hother : other = setting <;> simp [hother]

/-- An option takes its first text when that reads as a value. -/
theorem exists_set (h : g.has setting = false) (hreads : setting.Reads text) :
    ∃ g', g.set setting text = .ok g' := by
  obtain ⟨read, hread⟩ := hreads
  rw [set_of_not_has h, hread]
  exact ⟨_, rfl⟩

theorem readEndpoint_error (h : readEndpoint text = .error e) : e = .valueValidation := by
  unfold readEndpoint at h
  cases hread : Endpoint.read text <;> rw [hread] at h <;> cases h
  rfl

theorem readTimeout_error (h : readTimeout text = .error e) : e = .valueValidation := by
  unfold readTimeout at h
  split at h
  next => split at h <;> cases h; rfl
  next => cases h; rfl

/-- A global option that does not take a text has one, or the text does not read. -/
theorem set_error (hglobal : setting.isGlobal = true) (h : g.set setting text = .error e) :
    (g.has setting = true ∧ e = .argumentConflict) ∨
      (g.has setting = false ∧ e = .valueValidation) := by
  cases hhas : g.has setting with
  | true =>
    rw [set_of_has hhas] at h
    cases h
    exact .inl ⟨rfl, rfl⟩
  | false =>
    refine .inr ⟨rfl, ?_⟩
    rw [set_of_not_has hhas] at h
    have hnothing := map_eq_error.mp h
    cases setting with
    | endpoint => exact readEndpoint_error (map_eq_error.mp (map_eq_error.mp hnothing))
    | timeout => exact readTimeout_error (map_eq_error.mp (map_eq_error.mp hnothing))
    | target => cases hnothing
    | output | format | quality => cases hglobal

/-! ### Global options beside those of a command -/

/-- The global options of the one with the options of a command of the other. -/
def beside (g other : Given) : Given :=
  { other with
    verbose := g.verbose, endpoint := g.endpoint, timeout := g.timeout, target := g.target }

/-- No global option was given. -/
structure IsLocal (g : Given) : Prop where
  verbose : g.verbose = 0
  endpoint : g.endpoint = none
  timeout : g.timeout = none
  target : g.target = none

theorem IsLocal.nothing_beside (h : g.IsLocal) : nothing.beside g = g := by
  obtain ⟨hverbose, hendpoint, htimeout, htarget⟩ := h
  cases g
  simp_all [beside, nothing]

/-- A global option is taken in the same way beside other options. -/
theorem beside_set (hglobal : setting.isGlobal = true) (other : Given) (text : String) :
    (g.beside other).set setting text = (g.set setting text).map fun g => g.beside other := by
  cases setting with
  | endpoint =>
    show (fill g.endpoint _).map _ = ((fill g.endpoint _).map _).map _
    cases fill g.endpoint (readEndpoint text) <;> rfl
  | timeout =>
    show (fill g.timeout _).map _ = ((fill g.timeout _).map _).map _
    cases fill g.timeout (readTimeout text) <;> rfl
  | target =>
    show (fill g.target _).map _ = ((fill g.target _).map _).map _
    cases fill g.target (.ok text) <;> rfl
  | output | format | quality => cases hglobal

/-- An option of a command is no global one. -/
theorem IsLocal.set (h : g.IsLocal) (hlocal : setting.isGlobal = false)
    (hset : g.set setting text = .ok g') : g'.IsLocal := by
  cases setting with
  | endpoint | timeout | target => cases hlocal
  | output | format | quality =>
    obtain ⟨value, -, rfl⟩ := map_eq_ok.mp hset
    exact ⟨h.verbose, h.endpoint, h.timeout, h.target⟩

end Given

/-! ### The environment -/

/-- The values of an environment read. -/
structure Environment.Reads (env : Environment) : Prop where
  endpoint : ∀ text, env.endpoint = some text → Setting.endpoint.Reads text
  timeout : ∀ text, env.timeout = some text → Setting.timeout.Reads text

namespace Environment

variable {env : Environment} {g : Given} {e : UsageError}

theorem lookAt_error {α : Type} {given : Option α} {value : Option String}
    {read : String → Except UsageError α} (h : lookAt given value read = .error e) :
    ∃ text, value = some text ∧ read text = .error e := by
  unfold lookAt at h
  split at h
  next text => exact ⟨text, rfl, map_eq_error.mp h⟩
  next => cases h

/-- What is wrong in an environment is always a value. -/
theorem complete_error (h : env.complete g = .error e) : e = .valueValidation := by
  unfold complete at h
  cases hendpoint : lookAt g.endpoint env.endpoint readEndpoint with
  | error e' =>
    rw [hendpoint] at h
    cases h
    obtain ⟨text, -, hread⟩ := lookAt_error hendpoint
    exact Given.readEndpoint_error hread
  | ok endpoint =>
    rw [hendpoint] at h
    cases htimeout : lookAt g.timeout env.timeout readTimeout with
    | error e' =>
      rw [htimeout] at h
      cases h
      obtain ⟨text, -, hread⟩ := lookAt_error htimeout
      exact Given.readTimeout_error hread
    | ok timeout =>
      rw [htimeout] at h
      cases h

/-- The environment is looked at for what is not given. -/
theorem complete_eq {endpoint : Option Endpoint} {timeout : Option Nat}
    (h : env.complete .nothing = .ok (endpoint, timeout)) (g : Given) :
    env.complete g = .ok (if g.endpoint.isSome then none else endpoint,
      if g.timeout.isSome then none else timeout) := by
  have hlookAt : ∀ {α : Type} {value : Option String} {read : String → Except UsageError α}
      {found : Option α} (given : Option α), lookAt none value read = .ok found →
      lookAt given value read = .ok (if given.isSome then none else found) := by
    intro α value read found given h
    cases given with
    | none => exact h
    | some => rfl
  obtain ⟨_, hendpoint, h⟩ := ok_of_bind_ok h
  obtain ⟨_, htimeout, h⟩ := ok_of_bind_ok h
  cases h
  unfold complete
  rw [hlookAt g.endpoint hendpoint, hlookAt g.timeout htimeout]
  rfl

/-- Its values are read when nothing is given. -/
theorem exists_complete_iff : (∃ found, env.complete .nothing = .ok found) ↔ env.Reads := by
  have hlookAt : ∀ {α : Type} {value : Option String} {read : String → Except UsageError α},
      (∃ found, lookAt none value read = .ok found) ↔
        ∀ text, value = some text → ∃ a, read text = .ok a := by
    intro α value read
    cases value with
    | none => exact iff_of_true ⟨none, rfl⟩ nofun
    | some text =>
      simp only [Option.some.injEq, forall_eq']
      exact exists_map_eq_ok
  have hendpoint : ∀ text, Setting.endpoint.Reads text ↔ ∃ a, readEndpoint text = .ok a :=
    fun text => exists_map_eq_ok.trans exists_map_eq_ok
  have htimeout : ∀ text, Setting.timeout.Reads text ↔ ∃ a, readTimeout text = .ok a :=
    fun text => exists_map_eq_ok.trans exists_map_eq_ok
  constructor
  · rintro ⟨found, h⟩
    obtain ⟨endpoint, he, h⟩ := ok_of_bind_ok h
    obtain ⟨timeout, ht, -⟩ := ok_of_bind_ok h
    exact ⟨fun text htext => (hendpoint text).mpr (hlookAt.mp ⟨endpoint, he⟩ text htext),
      fun text htext => (htimeout text).mpr (hlookAt.mp ⟨timeout, ht⟩ text htext)⟩
  · intro h
    obtain ⟨endpoint, he⟩ :=
      hlookAt.mpr fun text htext => (hendpoint text).mp (h.endpoint text htext)
    obtain ⟨timeout, ht⟩ :=
      hlookAt.mpr fun text htext => (htimeout text).mp (h.timeout text htext)
    refine ⟨(endpoint, timeout), ?_⟩
    unfold complete
    show ((lookAt none env.endpoint readEndpoint >>= _) : Except UsageError _) = _
    rw [he]
    show ((lookAt none env.timeout readTimeout >>= _) : Except UsageError _) = _
    rw [ht]
    rfl

end Environment

end PagePilot.CommandLine
