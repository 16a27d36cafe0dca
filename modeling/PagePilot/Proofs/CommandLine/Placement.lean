import PagePilot.Proofs.CommandLine.Alone
import PagePilot.Proofs.CommandLine.Repetition
/-!
# PagePilot.Proofs.CommandLine.Placement

Global options may stand in front of a command or behind it. They are read by another level then,
with a state of its own, but come to the same. What differs is the order in which two things are
looked at that can both be wrong: in front of the command the values of the environment are looked
at before the last value among the options, and behind it that value is looked at before them. The
first mistake counts, so one sees the difference where a last value that is a word of its own is one
too many for its option, nothing in front of it is wrong, and the environment is (`Clash`);
everywhere else the placement makes no difference (`globalOptions_placed`).
-/

namespace PagePilot.CommandLine

/-! ### The two placements -/

/-- The invocation of what was given and of what the environment says. -/
def invocationOf (g : Given) (found : Option Endpoint × Option Nat) (command : Subcommand) :
    Invocation :=
  { verbose := g.verbose
    endpoint := (g.endpoint <|> found.1).getD defaultEndpoint
    timeout := (g.timeout <|> found.2).getD defaultTimeout
    target := g.target
    command }

section Placements

variable {env : Environment} {verb : Verb} {front back : Progress} {rest : List String}
  {command : Subcommand}

theorem or_or_isSome {α : Type} (a b : Option α) :
    (a <|> b <|> if a.isSome then none else b) = (a <|> b) := by
  cases a <;> cases b <;> rfl

theorem or_isSome_or {α : Type} (a b : Option α) :
    (a <|> (if a.isSome then none else b) <|> b) = (a <|> b) := by
  cases a <;> cases b <;> rfl

/-- In front of the command the environment is looked at before the last value. -/
theorem finish_front (hback : readBehind verb .start rest = .ok back)
    (hlocal : back.given.IsLocal) (hcommand : commandOf verb back.given = .ok command) :
    finish env front verb rest =
      (env.complete .nothing).bind fun found =>
        front.resolve.map fun p => invocationOf p.given found command := by
  have hinner : env.complete back.given = env.complete .nothing := by
    unfold Environment.complete
    rw [hlocal.endpoint, hlocal.timeout]
    rfl
  unfold finish
  simp only [hback, hinner, hcommand, bind, Except.bind]
  cases hfound : env.complete .nothing with
  | error => rfl
  | ok found =>
    dsimp only
    cases front.resolve with
    | error => rfl
    | ok p =>
      obtain ⟨endpoint, timeout⟩ := found
      simp only [Environment.complete_eq hfound p.given, hlocal.verbose, hlocal.endpoint,
        hlocal.timeout, hlocal.target, if_true]
      have hendpoint := congrArg (Option.getD · defaultEndpoint)
        (or_or_isSome p.given.endpoint endpoint)
      have htimeout := congrArg (Option.getD · defaultTimeout)
        (or_or_isSome p.given.timeout timeout)
      refine congrArg Except.ok ((Invocation.mk.injEq ..).mpr ?_)
      exact ⟨rfl, hendpoint, htimeout, rfl, rfl⟩

theorem commandOf_beside (g other : Given) :
    commandOf verb (g.beside other) = commandOf verb other := by
  cases verb <;> rfl

/-- Behind the command the last value is looked at before the environment. -/
theorem finish_behind {read : Except UsageError Progress} {other : Given} {words : List String}
    (hback : readBehind verb .start words = read.map fun p => p.beside other)
    (hcommand : commandOf verb other = .ok command) :
    finish env .start verb words =
      read.bind fun p =>
        (env.complete .nothing).map fun found => invocationOf p.given found command := by
  unfold finish
  rw [hback]
  cases read with
  | error => rfl
  | ok p =>
    have hinner : env.complete (p.beside other).given = env.complete p.given := rfl
    have hbeside : commandOf verb (p.beside other).given = .ok command :=
      (commandOf_beside p.given other).trans hcommand
    have hstart : Progress.start.resolve = .ok .start := rfl
    have houter : env.complete Progress.start.given = env.complete .nothing := rfl
    simp only [Except.map, bind, Except.bind, hinner, hbeside, hstart, houter]
    cases hfound : env.complete .nothing with
    | error e =>
      -- What is wrong in the environment is wrong there too, if it is looked at.
      cases hnear : env.complete p.given with
      | error e' => rw [Environment.complete_error hnear, Environment.complete_error hfound]
      | ok => rfl
    | ok found =>
      obtain ⟨endpoint, timeout⟩ := found
      simp only [Environment.complete_eq hfound p.given]
      have hendpoint := congrArg (Option.getD · defaultEndpoint)
        (or_isSome_or p.given.endpoint endpoint)
      have htimeout := congrArg (Option.getD · defaultTimeout)
        (or_isSome_or p.given.timeout timeout)
      have hverbose : (if p.given.verbose = 0 then 0 else p.given.verbose) = p.given.verbose := by
        split <;> simp_all
      have htarget : (p.given.target <|> none) = p.given.target := by
        cases p.given.target <;> rfl
      refine congrArg Except.ok ((Invocation.mk.injEq ..).mpr ?_)
      exact ⟨hverbose, hendpoint, htimeout, htarget, rfl⟩

theorem readFront_verb {word : String} (hverb : Verb.ofWord? word = some verb)
    (hpending : front.awaitsValue = false) (hescaped : front.escaped = false) :
    readFront env front (word :: rest) = finish env front verb rest := by
  have hshape : Shape.of word = .plain := by
    unfold Verb.ofWord? at hverb
    split at hverb <;> cases hverb <;> decide
  have hword : front.takeOption? .top word = none := by
    unfold Progress.takeOption?
    rw [hescaped, hshape]
    rfl
  rw [readFront, hword]
  simp [hpending, hescaped, hverb]

end Placements

/-- What is read of a command alone. -/
structure ReadAlone (words : List String) (word : String) (rest : List String) (verb : Verb)
    (back : Progress) (command : Subcommand) : Prop where
  words_eq : words = word :: rest
  ofWord : Verb.ofWord? word = some verb
  readBehind_eq : readBehind verb .start rest = .ok back
  isLocal : back.given.IsLocal
  commandOf_eq : commandOf verb back.given = .ok command
  more : ∃ p : Progress, p.escaped = false ∧ p.resolve = .ok (Progress.start.beside back.given) ∧
    ∀ more, readBehind verb .start (rest ++ more) = readBehind verb p more

theorem Alone.exists_read {words : List String} (h : Alone words) :
    ∃ word rest verb back command, ReadAlone words word rest verb back command := by
  obtain ⟨word, rest, verb, rfl, hverb⟩ := h.starts
  obtain ⟨invocation, hread⟩ := h.accepted
  have hfinish : finish .empty .start verb rest = .ok invocation :=
    (readFront_verb hverb rfl rfl).symm.trans hread
  obtain ⟨back, hback, hfinish⟩ := ok_of_bind_ok hfinish
  obtain ⟨found, hfound, hfinish⟩ := ok_of_bind_ok hfinish
  obtain ⟨command, hcommand, hfinish⟩ := ok_of_bind_ok hfinish
  obtain ⟨-, hrest⟩ := List.forall_mem_cons.mp h.noGlobal
  have hescape : "--" ∉ rest := fun hmem => h.unescaped (List.mem_cons_of_mem _ hmem)
  obtain ⟨p, hp, hresolve, hmore⟩ :=
    exists_of_readBehind Progress.start_isLocal hrest hescape hback
  obtain ⟨hpending, hescaped⟩ := Progress.resolve_eq_ok hresolve
  have hlocal := (hp.resolve hresolve).given
  have heq : back = Progress.start.beside back.given := by
    obtain ⟨given, pending, escaped⟩ := back
    obtain rfl : pending = none := hpending
    obtain rfl : escaped = false := hescaped.trans hp.unescaped
    unfold Progress.beside Progress.start
    rw [hlocal.nothing_beside]
  exact ⟨word, rest, verb, back, command, rfl, hverb, hback, hlocal, hcommand, p, hp.unescaped,
    hresolve.trans (congrArg _ heq), hmore⟩

section

variable {env : Environment} {words spelled : List String} {word : String} {rest : List String}
  {verb : Verb} {back p p' : Progress} {command : Subcommand} {o : Occurrence}
  {os : List Occurrence}

/-- Behind an occurrence no value is awaited. -/
theorem Occurrence.take_awaitsValue (h : o.take p = .ok p') : p'.awaitsValue = false := by
  unfold Progress.awaitsValue
  obtain ⟨-, hnone | ⟨assignment, -, -, hpending⟩⟩ := of_take h
  · rw [hnone]
  · rw [hpending]

theorem takeAll_open (hvalue : p.awaitsValue = false) (hescaped : p.escaped = false)
    (h : takeAll os p = .ok p') : p'.awaitsValue = false ∧ p'.escaped = false := by
  induction os generalizing p with
  | nil =>
    cases h
    exact ⟨hvalue, hescaped⟩
  | cons o os ih =>
    obtain ⟨q, htake, h⟩ := ok_of_bind_ok h
    exact ih (Occurrence.take_awaitsValue htake) ((Occurrence.of_take htake).1.trans hescaped) h

/-- Options in front of a command: first the environment, then the last value. -/
theorem ReadAlone.read_front (h : ReadAlone words word rest verb back command)
    (hspelled : Spelled os spelled) (env : Environment) :
    read env (spelled ++ words) =
      (takeAll os .start).bind fun p =>
        (env.complete .nothing).bind fun found =>
          p.resolve.map fun p => invocationOf p.given found command := by
  refine (hspelled.read (readFront_takesSteps env) rfl words).trans ?_
  cases htake : takeAll os .start with
  | error => rfl
  | ok p =>
    obtain ⟨hvalue, hescaped⟩ := takeAll_open rfl rfl htake
    rw [h.words_eq]
    exact (readFront_verb h.ofWord hvalue hescaped).trans
      (finish_front h.readBehind_eq h.isLocal h.commandOf_eq)

/-- Options behind it: first the last value, then the environment. -/
theorem ReadAlone.read_behind (h : ReadAlone words word rest verb back command)
    (hspelled : Spelled os spelled) (env : Environment) :
    read env (words ++ spelled) =
      (takeAll os .start).bind fun p =>
        p.resolve.bind fun p =>
          (env.complete .nothing).map fun found => invocationOf p.given found command := by
  obtain ⟨q, hq, hresolve, hmore⟩ := h.more
  have hback : readBehind verb .start (rest ++ spelled) =
      ((takeAll os .start).bind Progress.resolve).map fun p => p.beside back.given := by
    have hbeside := takeAll_beside hspelled.isGlobal Progress.start_isGlobal back.given
    have hread := hspelled.read (readBehind_takesSteps verb) hq []
    rw [List.append_nil] at hread
    rw [hmore, hread]
    show (takeAll os q).bind Progress.resolve = _
    rw [takeAll_resolve, hresolve]
    show (takeAll os (Progress.start.beside back.given)).bind Progress.resolve = _
    rw [hbeside]
    cases htake : takeAll os .start with
    | error => rfl
    | ok p =>
      have hp := takeAll_isGlobal hspelled.isGlobal Progress.start_isGlobal htake
      exact Progress.resolve_beside hp back.given
  rw [h.words_eq, List.cons_append]
  refine (readFront_verb h.ofWord rfl rfl).trans ((finish_behind hback h.commandOf_eq).trans ?_)
  cases takeAll os .start <;> rfl

end

/-! ### The placement of global options -/

/-- Both placements find a mistake, but not the same. -/
structure Clash (env : Environment) (os : List Occurrence) : Prop where
  repetition : EndsWithRepetition os
  unread : ¬ env.Reads

section

variable {env : Environment} {os : List Occurrence} {p : Progress} {e : UsageError}

/-- A value of a global option that is not taken does not read, or is a conflict. -/
theorem Progress.resolve_error (h : p.IsGlobal) (hvalue : p.awaitsValue = false)
    (hescaped : p.escaped = false) (hresolve : p.resolve = .error e) :
    e = .argumentConflict ∨ e = .valueValidation := by
  unfold resolve at hresolve
  split at hresolve
  next => cases hresolve
  next setting heq =>
    unfold awaitsValue at hvalue
    rw [heq, hescaped] at hvalue
    cases hvalue
  next setting text heq =>
    rcases Given.set_error (h _ _ heq) (map_eq_error.mp hresolve) with ⟨-, he⟩ | ⟨-, he⟩
    · exact .inl he
    · exact .inr he

/-- Options behind a command come to the same as in front of it, except that of two mistakes the
last value comes first. -/
theorem globalOptions_placed {words spelled : List String} (h : Alone words)
    (hspelled : Spelled os spelled) (env : Environment) :
    (¬ Clash env os → read env (spelled ++ words) = read env (words ++ spelled)) ∧
      (Clash env os → read env (spelled ++ words) = .error .valueValidation ∧
        read env (words ++ spelled) = .error .argumentConflict) := by
  obtain ⟨word, rest, verb, back, command, halone⟩ := h.exists_read
  have hfront := halone.read_front hspelled env
  have hbehind := halone.read_behind hspelled env
  have hrepetition := endsWithRepetition_iff hspelled.isGlobal
  cases htake : takeAll os .start with
  | error e =>
    rw [htake] at hfront hbehind
    refine ⟨fun _ => hfront.trans hbehind.symm, fun hclash => ?_⟩
    obtain ⟨p, hp, -⟩ := hrepetition.mp hclash.repetition
    cases htake.symm.trans hp
  | ok p =>
    rw [htake] at hfront hbehind
    cases hfound : env.complete .nothing with
    | ok found =>
      rw [hfound] at hfront hbehind
      refine ⟨fun _ => (hfront.trans ?_).trans hbehind.symm, fun hclash => ?_⟩
      · show p.resolve.map _ = p.resolve.bind _
        cases p.resolve <;> rfl
      · exact absurd (Environment.exists_complete_iff.mp ⟨found, hfound⟩) hclash.unread
    | error e =>
      obtain rfl := Environment.complete_error hfound
      rw [hfound] at hfront hbehind
      have hbehind : read env (words ++ spelled) =
          p.resolve.bind fun _ => .error .valueValidation := hbehind
      have hunread : ¬ env.Reads := by
        intro hreads
        obtain ⟨found, heq⟩ := Environment.exists_complete_iff.mpr hreads
        cases hfound.symm.trans heq
      refine ⟨fun hclash => ?_, fun hclash => ⟨hfront, ?_⟩⟩
      · refine hfront.trans (Eq.trans ?_ hbehind.symm)
        cases hresolve : p.resolve with
        | ok q => rfl
        | error e =>
          have hglobal := takeAll_isGlobal hspelled.isGlobal Progress.start_isGlobal htake
          obtain ⟨hvalue, hescaped⟩ := takeAll_open rfl rfl htake
          rcases Progress.resolve_error hglobal hvalue hescaped hresolve with rfl | rfl
          · exact absurd ⟨hrepetition.mpr ⟨p, htake, hresolve⟩, hunread⟩ hclash
          · rfl
      · obtain ⟨q, hq, hresolve⟩ := hrepetition.mp hclash.repetition
        cases htake.symm.trans hq
        rw [hbehind, hresolve]
        rfl

end

/-- Options in several spellings are read alike in front of a command and behind it. -/
theorem globalOptions_placed_mixed :
    Alone ["ss", "-o", "a"] ∧
      Spelled [⟨1, some ⟨.target, "T1", false⟩⟩, ⟨0, some ⟨.timeout, "5", true⟩⟩]
        ["-vtT1", "--timeout-ms", "5"] ∧
      read ⟨none, some "7"⟩ (["-vtT1", "--timeout-ms", "5"] ++ ["ss", "-o", "a"]) =
        read ⟨none, some "7"⟩ (["ss", "-o", "a"] ++ ["-vtT1", "--timeout-ms", "5"]) := by
  have halone : Alone ["ss", "-o", "a"] := ⟨⟨_, _, _, rfl, rfl⟩, by decide, by decide, _, rfl⟩
  have hname : globalLong? "timeout-ms" = some (.setting .timeout) := rfl
  have hspelled : Spelled [⟨1, some ⟨.target, "T1", false⟩⟩, ⟨0, some ⟨.timeout, "5", true⟩⟩]
      ["-vtT1", "--timeout-ms", "5"] :=
    .cons (.attached 1 rfl (by decide) (by decide)) (.cons (.longApart hname rfl) .nil)
  refine ⟨halone, hspelled, (globalOptions_placed halone hspelled ⟨none, some "7"⟩).1 ?_⟩
  rintro ⟨-, hunread⟩
  refine hunread ⟨nofun, ?_⟩
  rintro _ ⟨⟩
  exact ⟨_, rfl⟩

/-- A page that is named twice is a conflict behind the command, but in front of it a timeout from
the environment that does not read comes first. -/
theorem repeatedTarget_differs :
    Alone ["title"] ∧
      Spelled [⟨0, some ⟨.target, "a", true⟩⟩, ⟨0, some ⟨.target, "b", true⟩⟩]
        ["-t", "a", "-t", "b"] ∧
      read ⟨none, some "x"⟩ (["-t", "a", "-t", "b"] ++ ["title"]) = .error .valueValidation ∧
      read ⟨none, some "x"⟩ (["title"] ++ ["-t", "a", "-t", "b"]) = .error .argumentConflict := by
  refine ⟨⟨⟨_, _, _, rfl, rfl⟩, by decide, by decide, _, rfl⟩, ?_, rfl, rfl⟩
  exact .cons (.apart 0 rfl rfl) (.cons (.apart 0 rfl rfl) .nil)

end PagePilot.CommandLine
