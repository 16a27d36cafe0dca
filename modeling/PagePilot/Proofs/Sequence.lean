import PagePilot.Proofs.Sequence.Commands
/-!
# PagePilot.Proofs.Sequence

What a command on a page writes, in any run. Its requests are those of one sequence of methods
(`Invocation.methods`), in order and from the start, however far it gets. A request is written
when those before it have succeeded, and nothing after a failure. From the attachment on every
request carries the session that the browser has named.

* `Browser.run_page` takes the command apart into what comes before there is a page, and the
  rest. The errands of the rest depend on the page, so the two have a script each;
* `Run.CommandSequence` is what holds of the requests at every moment, and
  `Run.command_sequence` proves it of all runs.
-/

namespace PagePilot

open Wire Program

/-! ### Before there is a page -/

namespace Browser

/-- HasAttached to a page, and does nothing on it yet. -/
def opening (ctx : Context) (endpoint : Endpoint) (target : Option String) : CommandOp Page := do
  let id ← choose ctx endpoint target
  let session ← (execute ctx none (.attachToTarget id true)).asCommand
  let key ← CommandOp.perform (.openPage session)
  return { key, session := some session }

variable {ctx : Context} {endpoint : Endpoint} {target : Option String}

/-- A command attaches to a page, and does everything else on it. -/
theorem run_page (command : PageCommand) :
    (Subcommand.run ctx endpoint target (.page command)).run =
      (opening ctx endpoint target >>= fun page =>
        (page.enable ctx).asCommand >>= fun _ => command.run page ctx).run := by
  have hon : ∀ page : Page,
      ((page.enable ctx >>= fun _ => (pure page : Op Page)).asCommand >>= fun page =>
          command.run page ctx).run =
        ((page.enable ctx).asCommand >>= fun _ => command.run page ctx).run := by
    intro page
    have henable : (page.enable ctx >>= fun _ => (pure page : Op Page)).asCommand =
        (page.enable ctx).asCommand >>= fun _ => (pure page : Op Page).asCommand :=
      run_asCommand_bind _ _
    rw [henable]
    exact run_bind_assoc _ _ _
  refine (run_bind_assoc _ _ _).trans (Eq.trans ?_ (run_bind_assoc _ _ _).symm)
  refine congrArg (choose ctx endpoint target >>= ·) (funext ?_)
  intro id
  have hattach : (Page.attach ctx id).asCommand =
      (execute ctx none (.attachToTarget id true)).asCommand >>= fun session =>
        Op.asCommand (Op.perform (.openPage session) >>= fun key =>
          Page.enable ⟨key, some session⟩ ctx >>= fun _ => pure ⟨key, some session⟩) :=
    run_asCommand_bind _ _
  rw [hattach]
  refine (run_bind_assoc _ _ _).trans (Eq.trans ?_ (run_bind_assoc _ _ _).symm)
  refine congrArg ((execute ctx none (.attachToTarget id true)).asCommand >>= ·) (funext ?_)
  intro session
  exact Send.act_congr fun key => hon ⟨key, some session⟩

theorem opening_scripted :
    (opening ctx endpoint target).run.Scripted ctx (listing endpoint target ++ [attachment]) :=
  .op_bind (choose_scripted endpoint target) fun id =>
    .op_finish (.asCommand (.execute none (.attachToTarget id true))) fun _ =>
      .op_finish (.perform (fun _ => rfl) fun _ => rfl) fun _ => .known _

theorem rest_scripted (ctx : Context) (page : Page) (command : PageCommand) :
    ((page.enable ctx).asCommand >>= fun _ => command.run page ctx).run.Scripted ctx
      (page.enabling ++ command.script page) :=
  .op_bind (.asCommand Page.enable_scripted) fun _ => pageCommand_scripted command

end Browser

/-! ### The sequence -/

/-- The methods of the requests of a command on a page, in their order. -/
def PageCommand.methods : PageCommand → List String
  | .navigate _ => ["Page.navigate", "Runtime.evaluate"]
  | .reload _ => ["Page.reload", "Runtime.evaluate"]
  | .back | .forward =>
      ["Page.getNavigationHistory", "Page.navigateToHistoryEntry", "Runtime.evaluate"]
  | .history => ["Page.getNavigationHistory"]
  | .stop => ["Page.stopLoading"]
  | .screenshot .. => ["Page.captureScreenshot"]
  | .title | .location => ["Runtime.evaluate"]

/-- The methods of all requests of an invocation that runs a command on a page. -/
def Invocation.methods (endpoint : Endpoint) (target : Option String) (command : PageCommand) :
    List String :=
  (match endpoint, target with
    | .webSocket _, none => ["Target.getTargets"]
    | _, _ => [])
  ++ ["Target.attachToTarget", "Page.enable", "Page.setLifecycleEventsEnabled", "Page.getFrameTree"]
  ++ command.methods

namespace Invocation

variable {endpoint : Endpoint} {target : Option String} {command : PageCommand} {page : Page}

theorem script_methods : (script endpoint target command page).map Errand.method =
    methods endpoint target command := by
  cases endpoint <;> cases target <;> cases command <;> rfl

/-- Before there is a page, nothing is done on a session, and no page has to load. -/
theorem on_browser : ∀ e ∈ Browser.listing endpoint target ++ [Browser.attachment],
    e.session = none ∧ e.loads = none := by
  cases endpoint <;> cases target <;> simp [Browser.listing, Browser.attachment, Errand.of]

theorem listing_method : ∀ e ∈ Browser.listing endpoint target, e.method = "Target.getTargets" := by
  cases endpoint <;> cases target <;> simp [Browser.listing, Errand.of, Command.getTargets]

/-- All that is done on a page is done on its session, and waits for no other page. -/
theorem on_page : ∀ e ∈ page.enabling ++ command.script page,
    e.session = page.session ∧ ∀ key, e.loads = some key → key = page.key := by
  cases command <;>
    simp [Page.enabling, PageCommand.script, Page.moving, Page.whereabouts, Page.evaluation,
      Errand.of, Navigation.errand]

end Invocation

namespace Run

variable {r : Run} {ctx : Context} {endpoint : Endpoint} {target : Option String}
  {command : PageCommand} {page : Page} {task : TaskId} {i j k w : Nat}

variable (r) in
/-- A task has attached to a target before `k`, and opened the page on the session that the
answer of the browser names. -/
def HasAttached (ctx : Context) (task : TaskId) (i k : Nat) (page : Page) : Prop :=
  ∃ (id : TargetId) (a u d o n : Nat) (answer : Json) (session : SessionId),
    i ≤ a ∧ a < u ∧ d < u ∧ u < o ∧ o < k ∧
    r.Does a task (.write (Send.request none "Target.attachToTarget"
      (Command.attachToTarget id true).params n)) (.ok ()) ∧
    r.Answers d n (.ok answer) ∧ r.Does u task (.awaitReply (some ctx) n) (.ok answer) ∧
    (Command.attachToTarget id true).acknowledge answer = .ok session ∧
    r.Does o task (.openPage session) page.key ∧ page.session = some session

variable (r) in
/-- What a task writes that runs a command on a page, between the position `i` where it begins
and a position `j` where `q` is left of it. -/
structure CommandSequence (ctx : Context) (endpoint : Endpoint) (target : Option String)
    (command : PageCommand) (page : Page) (task : TaskId) (i j : Nat)
    (q : Program (Except CommandError Unit)) : Prop where
  /-- The requests are those of one sequence, in its order and from its start. -/
  order : (r.requests task i j).map Request.method <+: Invocation.methods endpoint target command
  /-- Before a request is written, the errands of those before it are done: they were answered,
  with an answer that is a success, and where one navigates its page has loaded. -/
  achieved : ∀ w w' request request' result result', i ≤ w → w < w' → w' < j →
    r.Does w task (.write request) result → r.Does w' task (.write request') result' →
      ∃ e, (Invocation.script endpoint target command page)[(r.requests task i w).length]? =
        some e ∧ r.Achieves ctx task e request w w'
  /-- After anything has failed nothing is written. -/
  silent : ∀ f w (d : Deed) request result, i ≤ f → f < w → w < j → r.Does f task d.act d.reply →
    d.fails = true → ¬ r.Does w task (.write request) result
  /-- Before it attaches to a target the task writes without a session, and after it with the
  one that the browser has named. -/
  session : ∀ w request result, i ≤ w → w < j → r.Does w task (.write request) result →
    (request.sessionId = none ∧
        ∀ earlier ∈ r.requests task i w, earlier.method ≠ "Target.attachToTarget") ∨
      (r.HasAttached ctx task i w page ∧ request.sessionId = page.session)
  /-- A success comes after the whole sequence, with every errand done. -/
  success : q = .done (.ok ()) →
    (r.requests task i j).map Request.method = Invocation.methods endpoint target command ∧
      ∀ w request result, i ≤ w → w < j → r.Does w task (.write request) result →
        ∃ e, (Invocation.script endpoint target command page)[(r.requests task i w).length]? =
          some e ∧ r.Achieves ctx task e request w j

/-! ### Sessions -/

theorem HasAttached.mono (h : r.HasAttached ctx task i k page) (hkw : k ≤ w) :
    r.HasAttached ctx task i w page := by
  obtain ⟨id, a, u, d, o, n, answer, session, hia, hau, hdu, huo, hok, hrest⟩ := h
  exact ⟨id, a, u, d, o, n, answer, session, hia, hau, hdu, huo, Nat.lt_of_lt_of_le hok hkw, hrest⟩

/-- Who has a page to work on has attached to a target, and the page is there. -/
theorem Runs.opened (hr : r.Admissible)
    (h : r.Runs task i (Browser.opening ctx endpoint target).run k (.done (.ok page))) :
    r.HasAttached ctx task i k page ∧ ((r.world k).board.listeners page.key).isSome := by
  obtain ⟨l, id, hchoose, h⟩ := h.of_except_bind_ok
  obtain ⟨y, session, hattach, h⟩ := h.of_except_bind_ok
  rcases h.of_act with ⟨-, hq⟩ | ⟨o, key, hyo, hok, -, hopens, hrest⟩
  · cases hq
  obtain ⟨-, hdone⟩ := hrest.of_done
  cases hdone
  rcases hattach.of_bind with ⟨_, _, -, hq⟩ | ⟨y', result, hcommand, hmapped⟩
  · cases hq
  have hresult := mapError_eq_ok.mp (Program.done.inj hmapped.of_done.2).symm
  subst hresult
  obtain ⟨n, a, u, d, answer, hla, hau, huy, hdu, hwrite, hanswers, hu, -, hack⟩ :=
    hcommand.acknowledged hr
  have hly := hchoose.le
  have hyy := hmapped.le
  refine ⟨⟨id, a, u, d, o, n, answer, session, by omega, hau, hdu, by omega, hok, hwrite, hanswers,
    hu, hack, hopens, rfl⟩, ?_⟩
  refine page_mono hr hok ?_
  simp [World.board, List.getElem?_eq_getElem hopens.opens]

/-- Before a task has a page to work on it writes without a session, and nothing after its
attachment. -/
theorem Pursues.sessionless
    (h : r.Pursues ctx task (Browser.listing endpoint target ++ [Browser.attachment]) i j)
    (hiw : i ≤ w) (hwj : w < j) {request : Request} {result : Except Error Unit}
    (hw : r.Does w task (.write request) result) :
    request.sessionId = none ∧
      ∀ earlier ∈ r.requests task i w, earlier.method ≠ "Target.attachToTarget" := by
  have horder := h.order
  rw [requests_at hiw hwj hw, List.map_append, List.map_cons, List.map_append] at horder
  -- What was written before is a part of the listing, since this request follows.
  have hbefore : (r.requests task i w).map Request.wire <+:
      (Browser.listing endpoint target).map Errand.wire := by
    rcases List.prefix_concat_iff.mp ((List.prefix_append _ _).trans horder) with heq | hprefix
    · have hlength := horder.length_le
      rw [heq] at hlength
      simp at hlength
    · exact hprefix
  constructor
  · obtain ⟨e, he, -, hsession⟩ := h.exists_errand hiw hwj hw
    exact hsession ▸ (Invocation.on_browser e he).1
  · intro earlier hearlier hmethod
    obtain ⟨e, he, heq⟩ := List.mem_map.mp (hbefore.subset (List.mem_map_of_mem hearlier))
    have hlisting := Invocation.listing_method e he
    rw [(Prod.mk.inj heq).1, hmethod] at hlisting
    exact absurd hlisting (by decide)

/-! ### All together -/

theorem CommandSequence.of_pursues {q : Program (Except CommandError Unit)}
    (h : r.Pursues ctx task (Invocation.script endpoint target command page) i j)
    (hfulfils : q = .done (.ok ()) →
      r.Fulfils ctx task (Invocation.script endpoint target command page) i j)
    (hsession : ∀ w request result, i ≤ w → w < j → r.Does w task (.write request) result →
      (request.sessionId = none ∧
          ∀ earlier ∈ r.requests task i w, earlier.method ≠ "Target.attachToTarget") ∨
        (r.HasAttached ctx task i w page ∧ request.sessionId = page.session)) :
    r.CommandSequence ctx endpoint target command page task i j q := by
  have hrequests : ((r.requests task i j).map Request.wire).map Prod.fst =
      (r.requests task i j).map Request.method := List.map_map
  have hscript : ((Invocation.script endpoint target command page).map Errand.wire).map Prod.fst =
      Invocation.methods endpoint target command :=
    List.map_map.trans Invocation.script_methods
  refine ⟨?_, h.achieved, h.silent, hsession, ?_⟩
  · rw [← hrequests, ← hscript]
    exact h.order.map Prod.fst
  · intro hq
    refine ⟨?_, (hfulfils hq).achieved⟩
    rw [← hrequests, ← hscript, (hfulfils hq).complete]

/-- A command that has attached to its page and written the next request. -/
def attachedAndAsking : Run where
  start := .initial [] .none
  transitions :=
    [.newScope none, .startReading,
      .spawn (Subcommand.run ⟨0, none⟩ (.webSocket "ws://h/") (some "T") (.page .title)).task,
      .step 0, .step 0, .step 0, .step 0, .step 0, .step 0,
      .inject (.object [("id", .int 0), ("result", .object [("sessionId", .string "S")])]),
      .receive, .read, .step 0, .step 0,
      .step 0, .step 0, .step 0, .step 0, .step 0, .step 0]

theorem attachedAndAsking_admissible : attachedAndAsking.Admissible := by
  refine admissible_of_admits ⟨trivial, trivial, ?_, trivial, trivial, trivial, trivial, trivial,
    trivial, trivial, trivial, trivial, trivial, trivial, trivial, trivial, trivial, trivial,
    trivial, trivial, trivial⟩
  refine .bind (.op_bind (Browser.attach_orderly ..) fun page => ?_) fun _ => .done _
  exact pageCommand_orderly page .title ⟨by decide, by decide⟩

-- The seven acts of the attachment, the opening of the page, and the next command up to its write.
theorem attachedAndAsking_runs : ∃ q, attachedAndAsking.Runs 0 3
    (Subcommand.run ⟨0, none⟩ (.webSocket "ws://h/") (some "T") (.page .title)).run 20 q :=
  ⟨_, ⟨_, rfl⟩, by decide,
    .cons (.cons (.cons (.cons (.cons (.cons (.cons (.cons (.cons (.cons (.cons (.cons (.cons
      (.cons (.nil _))))))))))))))⟩

end Run

end PagePilot
