import PagePilot.CommandLine.Reader
import PagePilot.Proofs.Result
import PagePilot.Proofs.Text.Runs
/-!
# PagePilot.Proofs.CommandLine.Options

How global options are read, in front of the command and behind it. There are many ways to spell
them (`Spells`), but what becomes of the reading depends on two things only: how often more words
are asked for, and which option gets which text, in a word of its own or not (`Occurrence.take`).
Both levels read every spelling in the same way (`Spelled.read`).
-/

namespace PagePilot.CommandLine

/-! ### Words that are read as options -/

namespace Progress

/-- What a level does with a word that is an option, or the value of one. -/
def step? (level : Level) (p : Progress) (word : String) : Option (Except UsageError Progress) :=
  match p.takeOption? level word with
  | some result => some result
  | none => if p.awaitsValue then some (.ok (p.takeValue word)) else none

/-- What it does with some such words. -/
def steps? (level : Level) : Progress → List String → Option (Except UsageError Progress)
  | p, [] => some (.ok p)
  | p, word :: rest =>
      match p.step? level word with
      | some (.ok p) => steps? level p rest
      | some (.error e) => some (.error e)
      | none => none

end Progress

/-- A reader goes on behind a word of an option as a level does. -/
def TakesSteps (level : Level) (read : Progress → List String → Except UsageError α) : Prop :=
  ∀ p word rest result, p.step? level word = some result →
    read p (word :: rest) = result.bind fun p => read p rest

theorem readFront_takesSteps (env : Environment) : TakesSteps .top (readFront env) := by
  intro p word rest result h
  rw [readFront]
  unfold Progress.step? at h
  split at h
  next hoption =>
    cases h
    rw [hoption]
    cases result <;> rfl
  next hoption =>
    split at h
    next hvalue =>
      cases h
      rw [hoption]
      exact if_pos hvalue
    next => cases h

theorem readBehind_takesSteps (verb : Verb) : TakesSteps (.behind verb) (readBehind verb) := by
  intro p word rest result h
  rw [readBehind]
  unfold Progress.step? at h
  split at h
  next hoption =>
    cases h
    rw [hoption]
    cases result <;> rfl
  next hoption =>
    split at h
    next hvalue =>
      cases h
      rw [hoption]
      exact if_pos hvalue
    next => cases h

/-- Words that are read as options are read before the others. -/
theorem TakesSteps.append {level : Level} {read : Progress → List String → Except UsageError α}
    (hread : TakesSteps level read) {p : Progress} {words : List String}
    {result : Except UsageError Progress} (h : p.steps? level words = some result)
    (rest : List String) : read p (words ++ rest) = result.bind fun p => read p rest := by
  induction words generalizing p with
  | nil =>
    cases h
    rfl
  | cons word words ih =>
    rw [Progress.steps?] at h
    split at h
    next p' hstep => exact (hread p word _ _ hstep).trans (ih h)
    next e hstep =>
      cases h
      exact hread p word _ _ hstep
    next => cases h

/-! ### Occurrences of global options -/

/-- A text for an option, and whether it is a word of its own. -/
structure Assignment where
  setting : Setting
  text : String
  apart : Bool

/-- What an occurrence of global options says: how often more words are asked for, and the text
for an option, if there is one. -/
structure Occurrence where
  verbose : Nat
  assignment : Option Assignment

/-- A word of short options that asks for more words some times, with what follows. -/
def clustered (count : Nat) (tail : List Char) : String :=
  String.ofList ('-' :: (List.replicate count 'v' ++ tail))

/-- The words in which an occurrence may be spelled. A text that is a word of its own does not look
like an option. -/
inductive Spells : Occurrence → List String → Prop
  | verbose : Spells ⟨1, none⟩ ["--verbose"]
  | cluster (more : Nat) : Spells ⟨more + 1, none⟩ [clustered (more + 1) []]
  | long {name text : String} {setting : Setting} (h : globalLong? name = some (.setting setting)) :
      Spells ⟨0, some ⟨setting, text, false⟩⟩ ["--" ++ name ++ "=" ++ text]
  | longApart {name text : String} {setting : Setting}
      (h : globalLong? name = some (.setting setting)) (htext : Shape.of text = .plain) :
      Spells ⟨0, some ⟨setting, text, true⟩⟩ ["--" ++ name, text]
  | equals {letter : Char} {setting : Setting} (count : Nat) (text : String)
      (h : globalShort? letter = some (.setting setting)) :
      Spells ⟨count, some ⟨setting, text, false⟩⟩ [clustered count (letter :: '=' :: text.toList)]
  | attached {letter : Char} {text : String} {setting : Setting} (count : Nat)
      (h : globalShort? letter = some (.setting setting)) (hsome : text ≠ "")
      (hmark : text.toList.head? ≠ some '=') :
      Spells ⟨count, some ⟨setting, text, false⟩⟩ [clustered count (letter :: text.toList)]
  | apart {letter : Char} {text : String} {setting : Setting} (count : Nat)
      (h : globalShort? letter = some (.setting setting)) (htext : Shape.of text = .plain) :
      Spells ⟨count, some ⟨setting, text, true⟩⟩ [clustered count [letter], text]

/-- Words in which some occurrences are spelled, one behind the other. -/
inductive Spelled : List Occurrence → List String → Prop
  | nil : Spelled [] []
  | cons {o : Occurrence} {os : List Occurrence} {words rest : List String} (h : Spells o words)
      (hrest : Spelled os rest) : Spelled (o :: os) (words ++ rest)

/-! ### What an occurrence does -/

/-- What was given, with more words asked for some times. -/
def Given.louder (g : Given) : Nat → Given
  | 0 => g
  | n + 1 => Given.louder { g with verbose := min countLimit (g.verbose + 1) } n

/-- A reading in which more words were asked for some times. -/
def Progress.louder (p : Progress) (count : Nat) : Progress :=
  { p with given := p.given.louder count }

/-- How an occurrence is taken when there is no value that is not looked at yet. -/
def Occurrence.begin (o : Occurrence) (p : Progress) : Except UsageError Progress :=
  let p := p.louder o.verbose
  match o.assignment with
  | none => .ok p
  | some ⟨setting, text, true⟩ => .ok { p with pending := some (setting, some text) }
  | some ⟨setting, text, false⟩ => (p.given.set setting text).map fun given => { p with given }

/-- How an occurrence is taken: the value in front of it is looked at first. -/
def Occurrence.take (o : Occurrence) (p : Progress) : Except UsageError Progress :=
  p.resolve.bind o.begin

/-- How some occurrences are taken, one behind the other. -/
def takeAll (os : List Occurrence) (p : Progress) : Except UsageError Progress :=
  match os with
  | [] => .ok p
  | o :: os => (o.take p).bind (takeAll os)

/-! ### Every spelling is taken in the same way -/

section Spelling

variable {level : Level} {p : Progress} {name text word : String} {setting : Setting}
  {letter : Char}

theorem Progress.resolve_of_pending_eq_none (h : p.pending = none) : p.resolve = .ok p := by
  unfold resolve
  rw [h]

theorem Progress.resolve_eq_ok {p' : Progress} (h : p.resolve = .ok p') :
    p'.pending = none ∧ p'.escaped = p.escaped := by
  unfold resolve at h
  split at h
  next hnone =>
    cases h
    exact ⟨hnone, rfl⟩
  next => cases h
  next =>
    obtain ⟨given, -, rfl⟩ := map_eq_ok.mp h
    exact ⟨rfl, rfl⟩

/-- A value is looked at once. -/
theorem Progress.resolve_resolved {p' : Progress} (h : p.resolve = .ok p') : p'.resolve = .ok p' :=
  resolve_of_pending_eq_none (resolve_eq_ok h).1

theorem long?_of_global {switch : Switch} (h : globalLong? name = some switch) (level : Level) :
    level.long? name = some switch := by
  unfold Level.long?
  rw [h]

theorem short?_of_global {switch : Switch} (h : globalShort? letter = some switch)
    (level : Level) : level.short? letter = some switch := by
  unfold Level.short?
  rw [h]

/-- The long names of options with a value are names without an equals sign. -/
theorem long_name (h : globalLong? name = some (.setting setting)) :
    '=' ∉ name.toList ∧ name.toList ≠ [] := by
  unfold globalLong? at h
  split at h <;> cases h <;> exact ⟨by decide, by decide⟩

theorem ne_hyphen (h : globalShort? letter = some (.setting setting)) : letter ≠ '-' := by
  rintro rfl
  cases h

/-- The name of a long option ends at the first equals sign. -/
theorem shape_hyphens {rest : List Char} (h : word.toList = '-' :: '-' :: rest)
    (hsome : rest ≠ []) : Shape.of word = .long (String.ofList (rest.takeWhile (· ≠ '=')))
      ((rest.dropWhile (· ≠ '=')).tail?.map String.ofList) := by
  unfold Shape.of
  rw [h]
  split
  next heq =>
    cases heq
    exact absurd rfl hsome
  next heq =>
    cases heq
    dsimp only
    split
    all_goals
      next hdrop =>
        rw [hdrop]
        rfl
  next hno heq =>
    cases heq
    exact (hno rfl).elim
  next hno _ => exact (hno rest rfl).elim

theorem shape_long (hname : '=' ∉ name.toList) (text : String) :
    Shape.of ("--" ++ name ++ "=" ++ text) = .long name (some text) := by
  have hword : ("--" ++ name ++ "=" ++ text).toList =
      '-' :: '-' :: (name.toList ++ '=' :: text.toList) := by
    simp [String.toList_append]
  have hfront := Text.ne_of_not_mem hname
  rw [shape_hyphens hword (by simp), Text.takeWhile_append_cons hfront (by decide),
    Text.dropWhile_append_cons hfront (by decide)]
  simp

theorem shape_longApart (hname : '=' ∉ name.toList) (hsome : name.toList ≠ []) :
    Shape.of ("--" ++ name) = .long name none := by
  have hword : ("--" ++ name).toList = '-' :: '-' :: name.toList := by
    simp [String.toList_append]
  have hfront := Text.ne_of_not_mem hname
  rw [shape_hyphens hword hsome, List.takeWhile_eq_self_iff.mpr hfront,
    List.dropWhile_eq_nil_iff.mpr hfront]
  simp

theorem shape_clustered {count : Nat} {c : Char} {tail rest : List Char}
    (h : List.replicate count 'v' ++ tail = c :: rest) (hc : c ≠ '-') :
    Shape.of (clustered count tail) = .short (c :: rest) := by
  unfold Shape.of clustered
  rw [String.toList_ofList, h]
  split <;> simp_all

/-- A long option is taken by its name. -/
theorem Progress.takeOption?_long (hp : p.escaped = false) {value : Option String}
    (hshape : Shape.of word = .long name value) :
    p.takeOption? level word = some (p.takeLong level name value) := by
  unfold takeOption?
  rw [hp, hshape]
  rfl

theorem Progress.takeOption?_short (hp : p.escaped = false) {names : List Char}
    (hshape : Shape.of word = .short names) :
    p.takeOption? level word = some (p.takeShort level names) := by
  unfold takeOption?
  rw [hp, hshape]
  rfl

/-- Flags that ask for more words are taken one by one, after the value in front of them was looked
at. -/
theorem Progress.takeShort_verbose (more : Nat) (tail : List Char) :
    p.takeShort level (List.replicate (more + 1) 'v' ++ tail) =
      p.resolve.bind fun p => (p.louder (more + 1)).takeShort level tail := by
  have hflag : ∀ (p : Progress) rest, p.takeShort level ('v' :: rest) =
      p.resolve.bind fun p => (p.louder 1).takeShort level rest := by
    intro p rest
    rw [takeShort, short?_of_global rfl]
    dsimp only
    unfold takeFlag
    cases p.resolve <;> rfl
  induction more generalizing p with
  | zero => exact hflag p tail
  | succ more ih =>
    rw [List.replicate_succ, List.cons_append, hflag]
    cases hresolve : p.resolve with
    | error => rfl
    | ok p' =>
      have hlouder : (p'.louder 1).resolve = .ok (p'.louder 1) :=
        resolve_of_pending_eq_none (resolve_eq_ok hresolve).1
      show (p'.louder 1).takeShort level _ = _
      rw [ih, hlouder]
      rfl

/-- The value in front of an option is looked at first. -/
theorem Progress.takeSetting_resolved (attached : Option String) :
    p.takeSetting setting attached = p.resolve.bind fun p => p.takeSetting setting attached := by
  unfold takeSetting
  cases hresolve : p.resolve with
  | error => rfl
  | ok p' =>
    show _ = (p'.resolve >>= _)
    rw [resolve_resolved hresolve]

/-- An option with a value takes all that follows it in its word, behind any number of flags. -/
theorem Progress.takeShort_setting (h : globalShort? letter = some (.setting setting))
    (count : Nat) (tail : List Char) :
    p.takeShort level (List.replicate count 'v' ++ letter :: tail) =
      p.resolve.bind fun p => (p.louder count).takeSetting setting (attachedValue tail) := by
  have hletter : ∀ p : Progress, p.takeShort level (letter :: tail) =
      p.takeSetting setting (attachedValue tail) := by
    intro p
    rw [takeShort, short?_of_global h]
  cases count with
  | zero => exact (hletter p).trans (takeSetting_resolved _)
  | succ more =>
    rw [takeShort_verbose]
    exact congrArg _ (funext fun p => hletter _)

/-- A value that comes in the word of its option is taken at once, -/
theorem Progress.takeSetting_attached (hp : p.pending = none) :
    p.takeSetting setting (some text) =
      (p.given.set setting text).map fun given => { p with given } := by
  unfold takeSetting
  rw [resolve_of_pending_eq_none hp]
  show (p.given.set setting text >>= _) = _
  cases p.given.set setting text <;> rfl

/-- and one in a word of its own is kept for later. -/
theorem Progress.takeSetting_apart (hp : p.pending = none) :
    p.takeSetting setting none = .ok { p with pending := some (setting, none) } := by
  unfold takeSetting
  rw [resolve_of_pending_eq_none hp]
  rfl

/-- Behind a resolved value, two readings are the same that are when there is no value left. -/
theorem Progress.resolve_bind_congr {f g : Progress → Except UsageError Progress}
    (h : ∀ p', p'.pending = none → p'.escaped = p.escaped → f p' = g p') :
    p.resolve.bind f = p.resolve.bind g := by
  cases hresolve : p.resolve with
  | error => rfl
  | ok p' =>
    obtain ⟨hpending, hescaped⟩ := resolve_eq_ok hresolve
    exact h p' hpending hescaped

theorem attachedValue_eq (hsome : text ≠ "") (hmark : text.toList.head? ≠ some '=') :
    Progress.attachedValue text.toList = some text := by
  unfold Progress.attachedValue
  split
  next heq => exact absurd (String.toList_eq_nil_iff.mp heq) hsome
  next heq => exact absurd (congrArg List.head? heq) hmark
  next => rw [String.ofList_toList]

/-- A cluster is taken letter by letter. -/
theorem Progress.takeOption?_clustered (hp : p.escaped = false)
    (h : globalShort? letter = some (.setting setting)) (count : Nat) (tail : List Char) :
    p.takeOption? level (clustered count (letter :: tail)) =
      some (p.resolve.bind fun p => (p.louder count).takeSetting setting (attachedValue tail)) := by
  rw [← takeShort_setting h]
  cases count with
  | zero => exact takeOption?_short hp (shape_clustered rfl (ne_hyphen h))
  | succ more => exact takeOption?_short hp (shape_clustered rfl (by decide))

theorem Progress.takeOption?_setting (hp : p.escaped = false)
    (h : globalLong? name = some (.setting setting)) {value : Option String}
    (hshape : Shape.of word = .long name value) :
    p.takeOption? level word =
      some (p.resolve.bind fun p => (p.louder 0).takeSetting setting value) := by
  rw [takeOption?_long hp hshape]
  unfold takeLong
  rw [long?_of_global h]
  exact congrArg some (takeSetting_resolved value)

/-! ### All spellings -/

theorem Progress.steps?_word {result : Except UsageError Progress}
    (h : p.takeOption? level word = some result) : p.steps? level [word] = some result := by
  have hstep : p.step? level word = some result := by
    unfold step?
    rw [h]
  unfold steps?
  rw [hstep]
  cases result <;> rfl

/-- A word that does not look like an option is the value of the option in front of it. -/
theorem Progress.steps?_apart (hp : p.escaped = false) {count : Nat}
    (hword : p.takeOption? level word =
      some (p.resolve.bind fun p => (p.louder count).takeSetting setting none))
    (htext : Shape.of text = .plain) :
    p.steps? level [word, text] =
      some (Occurrence.take ⟨count, some ⟨setting, text, true⟩⟩ p) := by
  have hstep : p.step? level word =
      some (p.resolve.bind fun p => (p.louder count).takeSetting setting none) := by
    unfold step?
    rw [hword]
  unfold steps?
  rw [hstep]
  unfold Occurrence.take
  cases hresolve : p.resolve with
  | error => rfl
  | ok p' =>
    obtain ⟨hpending, hescaped⟩ := resolve_eq_ok hresolve
    let awaiting : Progress := { p'.louder count with pending := some (setting, none) }
    have hfirst : (p'.louder count).takeSetting setting none = .ok awaiting :=
      takeSetting_apart hpending
    have hopen : awaiting.escaped = false := hescaped.trans hp
    have hsecond : awaiting.step? level text = some (.ok (awaiting.takeValue text)) := by
      have hplain : awaiting.takeOption? level text = none := by
        unfold takeOption?
        rw [hopen, htext]
        rfl
      unfold step?
      rw [hplain]
      refine if_pos ?_
      show (!awaiting.escaped) = true
      rw [hopen]
      rfl
    show (match some ((p'.louder count).takeSetting setting none) with
      | some (.ok p) => steps? level p [text]
      | some (.error e) => some (.error e)
      | none => none) = _
    rw [hfirst]
    show awaiting.steps? level [text] = _
    unfold steps?
    rw [hsecond]
    rfl

/-- One that comes in the word of its option is taken with it. -/
theorem Progress.takeSetting_begin (count : Nat) :
    p.resolve.bind (fun p => (p.louder count).takeSetting setting (some text)) =
      Occurrence.take ⟨count, some ⟨setting, text, false⟩⟩ p :=
  resolve_bind_congr fun _ hpending _ => takeSetting_attached hpending

end Spelling

/-- A spelling is read as its occurrence is taken. -/
theorem Spells.steps? {o : Occurrence} {words : List String} (h : Spells o words)
    {level : Level} {p : Progress} (hp : p.escaped = false) :
    p.steps? level words = some (o.take p) := by
  cases h with
  | verbose =>
    refine Progress.steps?_word ?_
    have hshape : Shape.of "--verbose" = .long "verbose" none := by decide
    rw [Progress.takeOption?_long hp hshape]
    unfold Progress.takeLong
    rw [long?_of_global rfl]
    rfl
  | cluster more =>
    refine Progress.steps?_word ?_
    have hshape : Shape.of (clustered (more + 1) []) =
        .short (List.replicate (more + 1) 'v' ++ []) := shape_clustered rfl (by decide)
    rw [Progress.takeOption?_short hp hshape]
    exact congrArg some (Progress.takeShort_verbose more [])
  | long h =>
    obtain ⟨hname, -⟩ := long_name h
    refine Progress.steps?_word ?_
    rw [Progress.takeOption?_setting hp h (shape_long hname _), Progress.takeSetting_begin]
  | longApart h htext =>
    obtain ⟨hname, hsome⟩ := long_name h
    exact Progress.steps?_apart hp
      (Progress.takeOption?_setting hp h (shape_longApart hname hsome)) htext
  | equals count text h =>
    refine Progress.steps?_word ?_
    have hvalue : Progress.attachedValue ('=' :: text.toList) = some text :=
      congrArg some String.ofList_toList
    rw [Progress.takeOption?_clustered hp h, hvalue, Progress.takeSetting_begin]
  | attached count h hsome hmark =>
    refine Progress.steps?_word ?_
    rw [Progress.takeOption?_clustered hp h, attachedValue_eq hsome hmark,
      Progress.takeSetting_begin]
  | apart count h htext =>
    exact Progress.steps?_apart hp (Progress.takeOption?_clustered hp h count []) htext

/-- What is not looked at yet behind an occurrence is its value, if that is a word of its own. -/
theorem Occurrence.of_begin {o : Occurrence} {p p' : Progress} (hp : p.pending = none)
    (h : o.begin p = .ok p') :
    p'.escaped = p.escaped ∧ (p'.pending = none ∨ ∃ assignment, o.assignment = some assignment ∧
      assignment.apart = true ∧ p'.pending = some (assignment.setting, some assignment.text)) := by
  unfold begin at h
  split at h
  next =>
    cases h
    exact ⟨rfl, .inl hp⟩
  next setting text hassignment =>
    cases h
    exact ⟨rfl, .inr ⟨_, hassignment, rfl, rfl⟩⟩
  next =>
    obtain ⟨given, -, rfl⟩ := map_eq_ok.mp h
    exact ⟨rfl, .inl hp⟩

theorem Occurrence.of_take {o : Occurrence} {p p' : Progress} (h : o.take p = .ok p') :
    p'.escaped = p.escaped ∧ (p'.pending = none ∨ ∃ assignment, o.assignment = some assignment ∧
      assignment.apart = true ∧ p'.pending = some (assignment.setting, some assignment.text)) := by
  obtain ⟨q, hresolve, hbegin⟩ := ok_of_bind_ok h
  obtain ⟨hpending, hescaped⟩ := Progress.resolve_eq_ok hresolve
  rw [← hescaped]
  exact of_begin hpending hbegin

/-- A value that is not looked at yet may as well be looked at in front of the occurrences. -/
theorem takeAll_resolve (os : List Occurrence) (p : Progress) :
    (takeAll os p).bind Progress.resolve =
      p.resolve.bind fun p => (takeAll os p).bind Progress.resolve := by
  cases hresolve : p.resolve with
  | error e =>
    cases os with
    | nil => exact hresolve
    | cons o os =>
      rw [takeAll, Occurrence.take, hresolve]
      rfl
  | ok q =>
    have hq := Progress.resolve_resolved hresolve
    cases os with
    | nil => exact hresolve.trans hq.symm
    | cons o os =>
      show _ = (takeAll (o :: os) q).bind _
      rw [takeAll, takeAll, Occurrence.take, Occurrence.take, hresolve, hq]

/-- Readers go on behind occurrences, however these are spelled, as they are taken. -/
theorem Spelled.read {os : List Occurrence} {words : List String} (h : Spelled os words)
    {level : Level} {read : Progress → List String → Except UsageError α}
    (hread : TakesSteps level read) {p : Progress} (hp : p.escaped = false) (rest : List String) :
    read p (words ++ rest) = (takeAll os p).bind fun p => read p rest := by
  induction h generalizing p with
  | nil => rfl
  | @cons o os words more h _ ih =>
    rw [List.append_assoc, hread.append (h.steps? hp), takeAll]
    cases htake : o.take p with
    | error => rfl
    | ok p' => exact ih ((Occurrence.of_take htake).1.trans hp)

end PagePilot.CommandLine
