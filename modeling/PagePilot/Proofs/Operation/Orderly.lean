import PagePilot.Proofs.Program.Conduct
import PagePilot.Scenario.Run
/-!
# PagePilot.Proofs.Operation.Orderly

Every operation of the library is orderly, and so is every task of a script and every
invocation of the program.
-/

namespace PagePilot

open Wire Program

variable {known : ScopeId → Prop}

/-! ### Commands -/

open Send in
theorem send_follows (ctx : Option Context) (session : Option SessionId) (method : String)
    (params : Json) : (send ctx session method params).run.Follows .idle := by
  have hyielding : ∀ id e, (yielding id e).Follows (.yielding id) :=
    fun id e => ⟨rfl, fun _ => rfl⟩
  have hwriting : ∀ c id, (writing c session method params id).Follows (.writing id) := by
    refine fun c id => ⟨⟨_, rfl, rfl⟩, fun r => ?_⟩
    cases r with
    | error e => exact hyielding id e
    | ok _ => exact ⟨⟨c, rfl⟩, fun _ => rfl⟩
  have hlookingAgain :
      ∀ c id, (lookingAgain c session method params id).Follows (.parked id) := by
    refine fun c id => ⟨rfl, fun r => ?_⟩
    cases r with
    | true => exact hyielding id _
    | false => exact hwriting c id
  have hlooking : ∀ c, (looking c session method params).Follows .idle := by
    refine fun c => ⟨rfl, fun r => ?_⟩
    cases r with
    | true => exact rfl
    | false => exact ⟨rfl, fun id => ⟨rfl, fun _ => hlookingAgain c id⟩⟩
  rw [send_run]
  cases ctx with
  | none => exact hlooking none
  | some c =>
    refine ⟨rfl, fun r => ?_⟩
    cases r with
    | some e => exact rfl
    | none => exact hlooking (some c)

open Send in
theorem send_within (ctx : Option Context) (session : Option SessionId) (method : String)
    (params : Json) : (send ctx session method params).run.Within known := by
  have hyielding : ∀ id e, (yielding id e).Within known :=
    fun id e => ⟨nofun, fun _ => trivial⟩
  have hlooking : ∀ c, (looking c session method params).Within known := by
    refine fun c => ⟨nofun, fun r => ?_⟩
    cases r with
    | true => exact trivial
    | false =>
      refine ⟨nofun, fun id => ⟨nofun, fun _ => ⟨nofun, fun r => ?_⟩⟩⟩
      cases r with
      | true => exact hyielding id _
      | false =>
        refine ⟨nofun, fun r => ?_⟩
        cases r with
        | error e => exact hyielding id e
        | ok _ => exact ⟨nofun, fun _ => trivial⟩
  rw [send_run]
  cases ctx with
  | none => exact hlooking none
  | some c =>
    refine ⟨nofun, fun r => ?_⟩
    cases r with
    | some e => exact trivial
    | none => exact hlooking (some c)

/-- A send is orderly: the stages are those of a send. -/
theorem send_orderly (ctx : Option Context) (session : Option SessionId) (method : String)
    (params : Json) : (send ctx session method params).run.Orderly known :=
  ⟨send_follows .., send_within ..⟩

/-- One act that has nothing to do with requests. -/
theorem perform_orderly {a : Act} (ha : a.ofExchange = false) (hclosed : a ≠ .isClosed)
    (harm : ∀ page ctx m, a ≠ .arm page ctx m) :
    (ExceptT.lift (ε := ε) (Program.perform a)).run.Orderly known :=
  .act ha hclosed harm fun _ => .done _

theorem execute_orderly (ctx : Context) (session : Option SessionId) (command : Command α) :
    (execute ctx session command).run.Orderly known :=
  .op_bind (send_orderly ..) fun _ => .done _

theorem runWithin_orderly (ctx : Context) (delay : Option Nat) (value : Except Error α) :
    (runWithin ctx delay value).run.Orderly known := by
  refine .act rfl nofun nofun fun ended => ?_
  cases ended with
  | some e => exact .done _
  | none =>
    match delay with
    | none => exact .act rfl nofun nofun fun _ => .done _
    | some 0 => exact .done _
    | some (n + 1) =>
      refine .act rfl nofun nofun fun now => .act rfl nofun nofun fun reached => ?_
      cases reached with
      | error e => exact .done _
      | ok _ => exact .done _

theorem readConnection_orderly : readConnection.run.Orderly known := by
  refine .act rfl nofun nofun fun first => ?_
  cases first with
  | true => exact .act rfl nofun nofun fun _ => .done _
  | false => exact .act rfl nofun nofun fun _ => .done _

/-! ### Operations on a page -/

namespace Page

/-- Whatever is done between the arming and the wait, a load is orderly if that is. -/
theorem loadAfter_orderly {page : Page} {ctx : Context} {trigger : Op α}
    (hctx : known ctx.scope) (h : trigger.run.Orderly known) :
    (page.loadAfter ctx trigger).run.Orderly known := by
  refine .arm hctx fun barrier => .op_bind (.op_lift h) fun result => ?_
  cases result with
  | error e => exact .act rfl nofun nofun fun _ => .done _
  | ok acknowledged =>
    refine .act rfl nofun nofun fun loaded => .act rfl nofun nofun fun _ => ?_
    cases loaded with
    | error e => exact .done _
    | ok _ => exact .done _

theorem navigate_orderly (page : Page) {ctx : Context} (url : String) (hctx : known ctx.scope) :
    (page.navigate ctx url).run.Orderly known :=
  .act rfl nofun nofun fun _ =>
    loadAfter_orderly hctx (.op_bind (execute_orderly ..) fun _ => .done _)

theorem reload_orderly (page : Page) {ctx : Context} (params : ReloadParams)
    (hctx : known ctx.scope) : (page.reload ctx params).run.Orderly known :=
  .act rfl nofun nofun fun _ => loadAfter_orderly hctx (execute_orderly ..)

theorem navigateToEntry_orderly (page : Page) {ctx : Context} (entryId : Int)
    (hctx : known ctx.scope) : (page.navigateToEntry ctx entryId).run.Orderly known :=
  .act rfl nofun nofun fun _ => loadAfter_orderly hctx (execute_orderly ..)

theorem move_orderly (choose : NavigationHistory → Except Error NavigationEntry) (page : Page)
    {ctx : Context} (hctx : known ctx.scope) : (move choose page ctx).run.Orderly known :=
  .op_bind (execute_orderly ..) fun _ => .op_bind (.done _) fun entry =>
    navigateToEntry_orderly page entry.id hctx

theorem screenshot_orderly (page : Page) (ctx : Context) (params : ScreenshotParams) :
    (page.screenshot ctx params).run.Orderly known :=
  .op_bind (execute_orderly ..) fun _ => .done _

theorem evaluateText_orderly (page : Page) (ctx : Context) (expression : String) :
    (page.evaluateText ctx expression).run.Orderly known :=
  .op_bind (execute_orderly ..) fun _ => .done _

theorem enable_orderly (page : Page) (ctx : Context) : (page.enable ctx).run.Orderly known :=
  .op_bind (execute_orderly ..) fun _ => .op_bind (execute_orderly ..) fun _ =>
    .op_bind (execute_orderly ..) fun _ => .act rfl nofun nofun fun _ => .done _

theorem attach_orderly (ctx : Context) (target : TargetId) :
    (attach ctx target).run.Orderly known :=
  .op_bind (execute_orderly ..) fun _ => .act rfl nofun nofun fun _ =>
    .op_bind (enable_orderly ..) fun _ => .done _

end Page

/-! ### Tasks of a script -/

namespace Scenario

theorem task_orderly {op : Op α} (h : op.run.Orderly known) (value : α → Value) :
    (op.task value).Orderly known :=
  h.bind fun _ => .done _

theorem pageCall_orderly (page : Page) {ctx : Context} (call : PageCall)
    (hctx : known ctx.scope) : (call.task page ctx).Orderly known := by
  cases call with
  | navigate url => exact task_orderly (page.navigate_orderly url hctx) _
  | reload params => exact task_orderly (page.reload_orderly params hctx) _
  | navigateToEntry entryId => exact task_orderly (page.navigateToEntry_orderly entryId hctx) _
  | back => exact task_orderly (Page.move_orderly _ page hctx) _
  | forward => exact task_orderly (Page.move_orderly _ page hctx) _
  | entries => exact task_orderly (execute_orderly ..) _
  | stop => exact task_orderly (execute_orderly ..) _
  | screenshot params =>
    exact task_orderly (.op_bind (.done _) fun params => page.screenshot_orderly ctx params) _
  | title => exact task_orderly (page.evaluateText_orderly ctx _) _
  | location => exact task_orderly (page.evaluateText_orderly ctx _) _
  | enable => exact task_orderly (page.enable_orderly ctx) _

theorem awaitEndOf_orderly (ctx : Context) : (awaitEndOf ctx).run.Orderly known :=
  .act rfl nofun nofun fun _ => .done _

theorem awaitMatchOf_orderly (key : BarrierKey) : (awaitMatchOf key).run.Orderly known :=
  .act rfl nofun nofun fun _ => .done _

theorem attachAndHandOver_orderly (ctx : Context) (target : TargetId) :
    (attachAndHandOver ctx target).run.Orderly known :=
  .op_bind (Page.attach_orderly ..) fun _ => .act rfl nofun nofun fun _ => .done _

end Scenario

/-! ### Invocations -/

/-- An operation as part of an invocation. -/
theorem asCommand_orderly {op : Op α} (h : op.run.Orderly known) :
    op.asCommand.run.Orderly known :=
  h.bind fun _ => .done _

theorem fetch_orderly (form : Discovery.Form α) (url : String) :
    (Discovery.fetch form url).run.Orderly known := by
  unfold Discovery.fetch
  cases Url.read? url with
  | none => exact .done _
  | some u =>
    dsimp only
    split
    · exact .done _
    · refine .op_bind (perform_orderly rfl nofun nofun) fun answer => ?_
      cases answer with
      | none => exact .done _
      | some answer =>
        dsimp only
        split
        · exact .done _
        · exact .done _

namespace Browser

theorem pages_orderly (ctx : Context) (endpoint : Endpoint) :
    (pages ctx endpoint).run.Orderly known := by
  cases endpoint with
  | http => exact .op_bind (fetch_orderly ..) fun _ => .done _
  | webSocket url => exact .op_bind (asCommand_orderly (execute_orderly ..)) fun _ => .done _

theorem choose_orderly (ctx : Context) (endpoint : Endpoint) (target : Option String) :
    (choose ctx endpoint target).run.Orderly known := by
  cases target with
  | some id => exact .done _
  | none =>
    refine .op_bind (pages_orderly ..) fun targets => ?_
    cases targets with
    | nil => exact .done _
    | cons first rest => exact .done _

theorem attach_orderly (ctx : Context) (endpoint : Endpoint) (target : Option String) :
    (attach ctx endpoint target).run.Orderly known :=
  .op_bind (choose_orderly ..) fun _ => asCommand_orderly (Page.attach_orderly ..)

theorem openSocket_orderly (ctx : Context) (endpoint : Endpoint) :
    (openSocket ctx endpoint).run.Orderly known := by
  have hsocket : (socketOf endpoint).run.Orderly known := by
    cases endpoint with
    | http => exact .op_bind (fetch_orderly ..) fun _ => .done _
    | webSocket url => exact .done _
  have hconnect : ∀ url, (connect ctx url).run.Orderly known := by
    refine fun url => .act rfl nofun nofun fun ended => ?_
    cases ended with
    | some e => exact .done _
    | none =>
      refine .act rfl nofun nofun fun opened => ?_
      cases opened with
      | ok _ => exact .done _
      | error refusal => exact .done _
  exact .op_bind hsocket fun url => .op_bind (asCommand_orderly (hconnect url)) fun _ =>
    .act rfl nofun nofun fun _ => .act rfl nofun nofun fun _ => .done _

end Browser

theorem reportLocation_orderly (page : Page) (ctx : Context) :
    (reportLocation page ctx).run.Orderly known :=
  .op_bind (asCommand_orderly (page.evaluateText_orderly ..)) fun _ =>
    .act rfl nofun nofun fun _ => .act rfl nofun nofun fun _ => .done _

theorem saveScreenshot_orderly (page : Page) (ctx : Context) (output : String)
    (format : ScreenshotFormat) (quality : Option Int) :
    (saveScreenshot page ctx output format quality).run.Orderly known := by
  refine .op_bind (asCommand_orderly (page.screenshot_orderly ..)) fun image =>
    .act rfl nofun nofun fun saved => ?_
  cases saved with
  | error cause => exact .done _
  | ok _ => exact .act rfl nofun nofun fun _ => .act rfl nofun nofun fun _ => .done _

theorem pageCommand_orderly (page : Page) {ctx : Context} (command : PageCommand)
    (hctx : known ctx.scope) : (command.run page ctx).run.Orderly known := by
  cases command with
  | navigate url =>
    exact .op_bind (asCommand_orderly (page.navigate_orderly url hctx)) fun _ =>
      reportLocation_orderly ..
  | reload ignoreCache =>
    exact .op_bind (asCommand_orderly (page.reload_orderly _ hctx)) fun _ =>
      reportLocation_orderly ..
  | back =>
    exact .op_bind (asCommand_orderly (Page.move_orderly _ page hctx)) fun _ =>
      reportLocation_orderly ..
  | forward =>
    exact .op_bind (asCommand_orderly (Page.move_orderly _ page hctx)) fun _ =>
      reportLocation_orderly ..
  | history =>
    exact .op_bind (asCommand_orderly (execute_orderly ..)) fun _ =>
      .act rfl nofun nofun fun _ => .done _
  | stop =>
    exact .op_bind (asCommand_orderly (execute_orderly ..)) fun _ =>
      .act rfl nofun nofun fun _ => .done _
  | screenshot output format quality => exact saveScreenshot_orderly ..
  | title =>
    exact .op_bind (asCommand_orderly (page.evaluateText_orderly ..)) fun _ =>
      .act rfl nofun nofun fun _ => .done _
  | location =>
    exact .op_bind (asCommand_orderly (page.evaluateText_orderly ..)) fun _ =>
      .act rfl nofun nofun fun _ => .done _

theorem printTargets_orderly (targets : List TargetInfo) :
    (printTargets targets).run.Orderly known := by
  induction targets with
  | nil => exact .done _
  | cons t rest ih => exact .op_bind (.act rfl nofun nofun fun _ => .done _) fun _ => ih

theorem runOpen_orderly (i : Invocation) (endpoint : Endpoint) {ctx : Context}
    (hctx : known ctx.scope) : (i.runOpen endpoint ctx).run.Orderly known := by
  unfold Invocation.runOpen
  cases i.command with
  | targets => exact .op_bind (Browser.pages_orderly ..) fun _ => printTargets_orderly _
  | page command =>
    exact .op_bind (Browser.attach_orderly ..) fun page => pageCommand_orderly page command hctx

/-- Every invocation is orderly, whatever it was given. -/
theorem invocation_orderly (i : Invocation) {ctx : Context} (hctx : known ctx.scope) :
    (i.run ctx).run.Orderly known :=
  .op_bind (Browser.openSocket_orderly ..) fun _ => runOpen_orderly i _ hctx

theorem runLogged_orderly (i : Invocation) {ctx : Context} (hctx : known ctx.scope) :
    (i.runLogged ctx).run.Orderly known := by
  refine .op_bind (.op_lift (invocation_orderly i hctx)) fun result => ?_
  cases result with
  | ok _ => exact .done _
  | error e => exact .act rfl nofun nofun fun _ => .done _

end PagePilot
