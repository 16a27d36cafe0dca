import PagePilot.Proofs.Sequence.Scripted
/-!
# PagePilot.Proofs.Sequence.Commands

The scripts of the commands on a page, and of what comes before them: a target is chosen, the
program attaches to it, and the events of the page are switched on. Each operation has its
script by the rules of `Program.Scripted`.
-/

namespace PagePilot

open Wire Program

/-! ### Scripts -/

namespace Page

variable (page : Page)

/-- The errands of switching the page's events on. -/
def enabling : List Errand :=
  [.of .pageEnable page.session fun _ => true,
    .of (.setLifecycleEventsEnabled true) page.session fun _ => true,
    .of .getFrameTree page.session fun _ => true]

/-- The errand of evaluating an expression that has to come to a text. -/
def evaluation (expression : String) : Errand :=
  .of (.evaluate (.byValue expression)) page.session fun reply => (textOf expression reply).isOk

/-- The errands of a move in the history. The entry that is found has to be there; which one it
is shows only in the parameters of the second request. -/
def moving (choose : NavigationHistory → Except Error NavigationEntry) : List Errand :=
  [.of .getNavigationHistory page.session fun history => (choose history).isOk,
    (Navigation.entry 0).errand page]

end Page

/-- The errand of asking the page where it is. -/
def Page.whereabouts (page : Page) : Errand :=
  page.evaluation "document.location.toString()"

/-- The errands of a command on a page. -/
def PageCommand.script (page : Page) : PageCommand → List Errand
  | .navigate url => [(Navigation.navigate url).errand page, page.whereabouts]
  | .reload ignoreCache =>
      [(Navigation.reload { ignoreCache := if ignoreCache then some true else none }).errand page,
        page.whereabouts]
  | .back => page.moving History.previousEntry ++ [page.whereabouts]
  | .forward => page.moving History.nextEntry ++ [page.whereabouts]
  | .history => [.of .getNavigationHistory page.session fun _ => true]
  | .stop => [.of .stopLoading page.session fun _ => true]
  | .screenshot _ format quality =>
      [.of (.captureScreenshot (screenshotParams format quality)) page.session
        fun data => (Page.imageOf data).isOk]
  | .title => [page.evaluation "document.title"]
  | .location => [page.whereabouts]

namespace Browser

/-- The errand of looking for a target, if there is one: the browser itself is asked only where
no target is wanted, and where it has no discovery pages. -/
def listing : Endpoint → Option String → List Errand
  | .webSocket _, none => [.of .getTargets none fun targets => targets.any TargetInfo.isPage]
  | _, _ => []

/-- The errand of attaching to a target. Which target it is shows only in the parameters. -/
def attachment : Errand :=
  .of (.attachToTarget ⟨""⟩ true) none fun _ => true

end Browser

/-- The errands of an invocation that runs a command on a page. -/
def Invocation.script (endpoint : Endpoint) (target : Option String) (command : PageCommand)
    (page : Page) : List Errand :=
  (Browser.listing endpoint target ++ [Browser.attachment])
    ++ (page.enabling ++ command.script page)

/-! ### Operations on a page -/

namespace Page

variable {page : Page} {ctx : Context}

theorem enable_scripted : (page.enable ctx).run.Scripted ctx page.enabling :=
  .op_bind (.execute _ _) fun _ => .op_bind (.execute _ _) fun _ =>
    .op_finish (.execute _ _) fun _ => .perform (fun _ => rfl) fun _ => rfl

theorem move_scripted (choose : NavigationHistory → Except Error NavigationEntry) :
    (move choose page ctx).run.Scripted ctx (page.moving choose) := by
  have hrun : (move choose page ctx).run =
      ((page.entries ctx >>= fun history => Op.ofExcept (choose history)) >>= fun entry =>
        page.navigateToEntry ctx entry.id).run := (run_bind_assoc _ _ _).symm
  rw [hrun]
  exact .op_bind (.checked _ _ _) fun entry => .navigation (.entry entry.id) page

end Page

/-! ### Commands -/

section

variable {page : Page} {ctx : Context}

theorem print_scripted (text : String) :
    (CommandOp.perform (.print text)).run.Scripted ctx [] :=
  .perform (fun _ => rfl) fun _ => rfl

theorem inform_scripted (source message : String) (fields : List Log.Field) :
    (CommandOp.inform source message fields).run.Scripted ctx [] :=
  .perform (fun _ => rfl) fun _ => rfl

theorem reportLocation_scripted : (reportLocation page ctx).run.Scripted ctx [page.whereabouts] :=
  .op_finish (.asCommand (.checked _ _ _)) fun _ =>
    .op_finish (inform_scripted _ _ _) fun _ => print_scripted _

/-- Where the image goes is no matter between the program and the browser. -/
theorem saveScreenshot_scripted (output : String) (format : ScreenshotFormat)
    (quality : Option Int) :
    (saveScreenshot page ctx output format quality).run.Scripted ctx
      ((PageCommand.screenshot output format quality).script page) := by
  refine .op_finish (.asCommand (.checked _ _ _)) fun image => ?_
  refine .act (fun _ => rfl) ?_ ?_
  · intro saved hfails
    cases saved with
    | error cause => exact ⟨_, rfl⟩
    | ok _ => cases hfails
  · intro saved
    cases saved with
    | error cause => exact .failed _
    | ok _ => exact .op_finish (inform_scripted _ _ _) fun _ => print_scripted _

/-- Every command on a page has its script. -/
theorem pageCommand_scripted (command : PageCommand) :
    (command.run page ctx).run.Scripted ctx (command.script page) := by
  cases command with
  | navigate url =>
    exact .op_bind (.asCommand (.navigation (.navigate url) page)) fun _ => reportLocation_scripted
  | reload ignoreCache =>
    exact .op_bind (.asCommand (.navigation (.reload _) page)) fun _ => reportLocation_scripted
  | back | forward =>
    exact .op_bind (.asCommand (Page.move_scripted _)) fun _ => reportLocation_scripted
  | history => exact .op_finish (.asCommand (.execute _ _)) fun _ => print_scripted _
  | stop => exact .op_finish (.asCommand (.execute _ _)) fun _ => inform_scripted _ _ _
  | screenshot output format quality => exact saveScreenshot_scripted output format quality
  | title | location => exact .op_finish (.asCommand (.checked _ _ _)) fun _ => print_scripted _

end

/-! ### Attaching -/

namespace Discovery

/-- What is fetched, given the answer of the server. -/
def fetched (form : Form α) (url : String) (u : Url) (answer : Option HttpAnswer) :
    Except CommandError α :=
  match answer.map (readAnswer form) with
  | some (.ok x) => .ok x
  | some (.error f) => .error (.discovery url f.message)
  | none => .error (.discovery url (Failure.noAnswer u.text).message)

theorem readAnswer_of_fetched {form : Form α} {url : String} {u : Url}
    {answer : Option HttpAnswer} {x : α} (h : fetched form url u answer = .ok x) :
    answer.map (readAnswer form) = some (.ok x) := by
  unfold fetched at h
  split at h
  next heq =>
    cases h
    exact heq
  all_goals cases h

theorem error_of_fetched {form : Form α} {url : String} {u : Url}
    {answer : Option HttpAnswer} {error : CommandError}
    (h : fetched form url u answer = .error error) : ∃ text, error = .discovery url text := by
  unfold fetched at h
  split at h
  · cases h
  all_goals
    cases h
    exact ⟨_, rfl⟩

/-- A server is asked once when its address is that of a page. -/
theorem fetch_of_read (form : Form α) {url : String} {u : Url} (hread : Url.read? url = some u)
    (hpage : ¬ (u.scheme = .ws ∨ u.scheme = .wss)) : (fetch form url).run =
      .act (.get (origin u) (target u)) fun answer => .done (fetched form url u answer) := by
  unfold fetch
  simp only [hread, if_neg hpage]
  refine Send.act_congr ?_
  intro answer
  cases answer with
  | none => rfl
  | some answer =>
    simp only [Function.comp, bind_done, ExceptT.bindCont, fetched, Option.map_some]
    cases readAnswer form answer <;> rfl

/-- A server is asked once, if its address can be asked at all. -/
theorem fetch_run (form : Form α) (url : String) :
    (∃ text, (fetch form url).run = .done (.error (.discovery url text))) ∨
      ∃ u, (fetch form url).run =
        .act (.get (origin u) (target u)) fun answer => .done (fetched form url u answer) := by
  cases hread : Url.read? url with
  | none =>
    unfold fetch
    rw [hread]
    exact .inl ⟨_, rfl⟩
  | some u =>
    by_cases hpage : u.scheme = .ws ∨ u.scheme = .wss
    · unfold fetch
      simp only [hread, if_pos hpage]
      exact .inl ⟨_, rfl⟩
    · exact .inr ⟨u, fetch_of_read form hread hpage⟩

end Discovery

namespace Browser

variable {ctx : Context}

/-- The target to attach to, of those that are listed. -/
def pick (endpoint : Endpoint) (targets : List TargetInfo) : Except CommandError TargetId :=
  match targets.filter TargetInfo.isPage with
  | first :: _ => .ok first.id
  | [] => .error (.noPageTarget endpoint.text)

theorem any_isPage_of_pick {endpoint : Endpoint} {targets : List TargetInfo} {id : TargetId}
    (h : pick endpoint targets = .ok id) : targets.any TargetInfo.isPage = true := by
  unfold pick at h
  split at h
  next first rest hfilter =>
    have hmem : first ∈ targets.filter TargetInfo.isPage := hfilter ▸ List.mem_cons_self
    obtain ⟨hmem, hpage⟩ := List.mem_filter.mp hmem
    exact List.any_eq_true.mpr ⟨first, hmem, hpage⟩
  next => cases h

/-- The targets that a browser lists. -/
def listed (ctx : Context) : Endpoint → CommandOp (List TargetInfo)
  | .http host port secure =>
      Discovery.fetch Discovery.targetsForm
        ((Endpoint.http host port secure).text ++ "/json/list")
  | .webSocket _ => (execute ctx none .getTargets).asCommand

/-- The pages are those targets that are listed as such. -/
theorem pages_run (endpoint : Endpoint) : (pages ctx endpoint).run =
    (listed ctx endpoint).run.bind fun targets =>
      .done (targets.map (·.filter TargetInfo.isPage)) := by
  cases endpoint with
  | http | webSocket =>
    refine (run_bind _ _).trans (congrArg (Program.bind _) (funext ?_))
    intro targets
    cases targets <;> rfl

/-- Without a wanted target one is picked among those that are listed. -/
theorem choose_run (endpoint : Endpoint) :
    (choose ctx endpoint none).run =
      (listed ctx endpoint).run.bind fun targets => .done (targets.bind (pick endpoint)) := by
  refine (run_bind _ _).trans ?_
  rw [pages_run, bind_assoc]
  refine congrArg (Program.bind _) (funext ?_)
  intro targets
  cases targets with
  | error error => rfl
  | ok targets =>
    show carry _ (.ok (targets.filter TargetInfo.isPage)) = .done (pick endpoint targets)
    unfold pick
    cases targets.filter TargetInfo.isPage <;> rfl

/-- The listing of a browser that has discovery pages writes nothing. -/
theorem pick_scripted_http (host : String) (port : Nat) (secure : Bool) :
    ((listed ctx (.http host port secure)).run.bind fun targets =>
      .done (targets.bind (pick (.http host port secure)))).Scripted ctx [] := by
  simp only [listed]
  rcases Discovery.fetch_run Discovery.targetsForm _ with ⟨text, hfetch⟩ | ⟨u, hfetch⟩
  · rw [hfetch]
    exact .failed _
  rw [hfetch]
  refine .act (fun _ => rfl) ?_ fun answer => .known _
  intro answer hfails
  rw [bind_done]
  cases hpick : Except.bind _ (pick (.http host port secure)) with
  | error error => exact ⟨error, rfl⟩
  | ok id =>
    obtain ⟨targets, htargets, hpick⟩ := ok_of_bind_ok hpick
    have hlists : Discovery.listsPage answer = true := by
      unfold Discovery.listsPage
      rw [Discovery.readAnswer_of_fetched htargets]
      exact any_isPage_of_pick hpick
    simp [Deed.fails, hlists] at hfails

/-- A browser without discovery pages is asked itself. -/
theorem pick_scripted_webSocket (url : String) :
    ((listed ctx (.webSocket url)).run.bind fun targets =>
      .done (targets.bind (pick (.webSocket url)))).Scripted ctx
        (listing (.webSocket url) none) := by
  have hrun : ((listed ctx (.webSocket url)).run.bind fun targets =>
        .done (targets.bind (pick (.webSocket url)))) =
      (send (some ctx) none (Command.getTargets).method (Command.getTargets).params).run.bind
        fun reply => .done (((reply.bind (Command.getTargets).acknowledge).mapError .command).bind
          (pick (.webSocket url))) := by
    have hcommand : (listed ctx (.webSocket url)).run =
        (execute ctx none .getTargets).run.bind fun r => .done (r.mapError .command) := rfl
    rw [hcommand, execute_run, bind_assoc, bind_assoc]
    rfl
  rw [hrun]
  refine .command ?_
  intro reply id hid
  obtain ⟨targets, htargets, hpick⟩ := ok_of_bind_ok hid
  obtain ⟨answer, rfl, hack⟩ := ok_of_bind_ok (mapError_eq_ok.mp htargets)
  exact ⟨answer, targets, rfl, hack, any_isPage_of_pick hpick⟩

theorem choose_scripted (endpoint : Endpoint) (target : Option String) :
    (choose ctx endpoint target).run.Scripted ctx (listing endpoint target) := by
  cases target with
  | some id => cases endpoint <;> exact .known _
  | none =>
    rw [choose_run]
    cases endpoint with
    | http host port secure => exact pick_scripted_http host port secure
    | webSocket url => exact pick_scripted_webSocket url

end Browser

end PagePilot
