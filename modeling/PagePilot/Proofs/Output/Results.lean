import PagePilot.Proofs.Attachment
import PagePilot.Proofs.Navigation
import PagePilot.Proofs.Output.Printing
/-!
# PagePilot.Proofs.Output.Results

What a command has to print. `Run.Complete` says of texts that they are the complete result of
a command: everything that it depends on has happened before, namely the answers of the
browser, and for a navigation the load of the page, after which the page was asked where it is.
`Run.Runs.complete` proves it of what a command finds out, in any run.
-/

namespace PagePilot

open Wire Program

/-- A request that was waited for was parked. -/
theorem Send.park_mem_of_wait {ctx : Context} {session : Option SessionId} {method : String}
    {params : Json} {path : List Deed} {q : Program Reply} {id : Nat} {reply : Reply}
    (h : (send (some ctx) session method params).run.Leads path q)
    (hmem : ⟨.awaitReply (some ctx) id, reply⟩ ∈ path) : ⟨.park id, ()⟩ ∈ path := by
  cases sending_of_leads h with
  | answered id' reply' =>
    obtain rfl : id = id' := by
      simp [looked, written, parked] at hmem
      exact hmem.1
    simp [written, parked]
  | _ => simp [looked, written, parked] at hmem

namespace Run

variable (r : Run)

/-! ### What a task gets from the browser -/

/-- A task has sent a command and has learned of the answer between two positions, and has read
it as `x`. The answer was given after the first of them as well. -/
def Obtains (ctx : Context) (session : Option SessionId) (command : Command α) (task : TaskId)
    (i j : Nat) (x : α) : Prop :=
  ∃ id w u d answer, i ≤ w ∧ i < d ∧ w < u ∧ d < u ∧ u < j ∧
    r.Does w task (.write (Send.request session command.method command.params id)) (.ok ()) ∧
    r.Answers d id (.ok answer) ∧ r.Does u task (.awaitReply (some ctx) id) (.ok answer) ∧
    command.acknowledge answer = .ok x

/-- A task has asked a page for the text that an expression comes to. -/
def Evaluates (page : Page) (ctx : Context) (expression : String) (task : TaskId) (i j : Nat)
    (text : String) : Prop :=
  ∃ reply, r.Obtains ctx page.session (.evaluate (.byValue expression)) task i j reply ∧
    Page.textOf expression reply = .ok text

/-- A task has navigated on a page: the command was acknowledged, and the load of the frame that
was current when the barrier was armed is what the task has gone on with. -/
def Arrives (n : Navigation) (page : Page) (ctx : Context) (task : TaskId) (i j : Nat) : Prop :=
  ∃ m key z x, i ≤ m ∧ m < z ∧ z < j ∧
    r.Does m task (.arm page.key ctx Page.loadMilestone) key ∧
    r.Obtains ctx page.session n.command task (m + 1) j x ∧ n.failure x = none ∧
    r.Does z task (.awaitMatch key) (.ok ()) ∧ r.Loads m z page.key ctx

/-- The targets that a task has found listed, by way of the discovery pages or from the browser
itself. -/
inductive Lists (ctx : Context) (task : TaskId) (i j : Nat) : Endpoint → List TargetInfo → Prop
  | fetched {host : String} {port : Nat} {secure : Bool} {u : Url} {answer : Option HttpAnswer}
      {targets : List TargetInfo} {g : Nat} (hig : i ≤ g) (hgj : g < j)
      (hasks : r.Does g task (.get (Discovery.origin u) (Discovery.target u)) answer)
      (hreads : answer.map (Discovery.readAnswer Discovery.targetsForm) =
        some (.ok targets)) : Lists ctx task i j (.http host port secure) targets
  | told {url : String} {targets : List TargetInfo}
      (h : r.Obtains ctx none .getTargets task i j targets) :
      Lists ctx task i j (.webSocket url) targets

/-- The target that a task attaches to: the one that is wanted, or the first page. -/
inductive Chooses (ctx : Context) (endpoint : Endpoint) (task : TaskId) (i j : Nat) :
    Option String → TargetId → Prop
  | wanted (id : String) : Chooses ctx endpoint task i j (some id) ⟨id⟩
  | first {targets : List TargetInfo} {t : TargetInfo} {rest : List TargetInfo}
      (h : r.Lists ctx task i j endpoint targets)
      (hpages : targets.filter TargetInfo.isPage = t :: rest) :
      Chooses ctx endpoint task i j none t.id

/-- A task has attached to a target and has opened a page on the session. -/
def AttachedTo (ctx : Context) (id : TargetId) (task : TaskId) (i j : Nat) (page : Page) : Prop :=
  ∃ session o, r.Obtains ctx none (.attachToTarget id true) task i o session ∧ o < j ∧
    r.Does o task (.openPage session) page.key ∧ page.session = some session

/-! ### Complete results -/

/-- The navigation that a command comes to. Back and forward look for it in the history. -/
inductive Undertakes (page : Page) (ctx : Context) (task : TaskId) (i j : Nat) :
    PageCommand → Navigation → Prop
  | navigate (url : String) : Undertakes page ctx task i j (.navigate url) (.navigate url)
  | reload (ignoreCache : Bool) :
      Undertakes page ctx task i j (.reload ignoreCache)
        (.reload { ignoreCache := if ignoreCache then some true else none })
  | back {history : NavigationHistory} {entry : NavigationEntry}
      (h : r.Obtains ctx page.session .getNavigationHistory task i j history)
      (hentry : History.previousEntry history = .ok entry) :
      Undertakes page ctx task i j .back (.entry entry.id)
  | forward {history : NavigationHistory} {entry : NavigationEntry}
      (h : r.Obtains ctx page.session .getNavigationHistory task i j history)
      (hentry : History.nextEntry history = .ok entry) :
      Undertakes page ctx task i j .forward (.entry entry.id)

/-- The complete result of a command on a page, in the texts that it is printed in. -/
inductive CompleteOn (page : Page) (ctx : Context) (task : TaskId) (i j : Nat) :
    PageCommand → List String → Prop
  /-- Where the page is, asked after it has loaded. -/
  | moved {command : PageCommand} {n : Navigation} {location : String} {k l : Nat}
      (hik : i ≤ k) (hn : r.Undertakes page ctx task i k command n)
      (hload : r.Arrives n page ctx task k l)
      (hlocation : r.Evaluates page ctx "document.location.toString()" task l j location) :
      CompleteOn page ctx task i j command [location ++ "\n"]
  | history {history : NavigationHistory}
      (h : r.Obtains ctx page.session .getNavigationHistory task i j history) :
      CompleteOn page ctx task i j .history [History.render history]
  | stop (h : r.Obtains ctx page.session .stopLoading task i j ()) :
      CompleteOn page ctx task i j .stop []
  /-- The path of the image, which was written there. -/
  | screenshot {output data : String} {format : ScreenshotFormat} {quality : Option Int}
      {bytes : List UInt8} {s : Nat} (hsj : s < j)
      (h : r.Obtains ctx page.session (.captureScreenshot (screenshotParams format quality)) task
        i s data)
      (hbytes : Page.imageOf data = .ok bytes)
      (hsaves : r.Does s task (.save output bytes) (.ok ())) :
      CompleteOn page ctx task i j (.screenshot output format quality) [output ++ "\n"]
  | title {title : String} (h : r.Evaluates page ctx "document.title" task i j title) :
      CompleteOn page ctx task i j .title [title ++ "\n"]
  | location {location : String}
      (h : r.Evaluates page ctx "document.location.toString()" task i j location) :
      CompleteOn page ctx task i j .location [location ++ "\n"]

/-- The complete result of a command, in the texts that it is printed in. -/
inductive Complete (ctx : Context) (endpoint : Endpoint) (target : Option String) (task : TaskId)
    (i j : Nat) : Subcommand → List String → Prop
  /-- A line for each page, in the order of the listing: its id, its address and its title. -/
  | targets {targets : List TargetInfo} (h : r.Lists ctx task i j endpoint targets) :
      Complete ctx endpoint target task i j .targets
        ((targets.filter TargetInfo.isPage).map fun t =>
          t.id.text ++ "  " ++ t.url ++ "  " ++ t.title ++ "\n")
  | page {command : PageCommand} {id : TargetId} {page : Page} {texts : List String} {k l : Nat}
      (hik : i ≤ k) (hkl : k ≤ l) (hchooses : r.Chooses ctx endpoint task i k target id)
      (hattached : r.AttachedTo ctx id task k l page)
      (h : r.CompleteOn page ctx task l j command texts) :
      Complete ctx endpoint target task i j (.page command) texts

variable {r} {ctx : Context} {endpoint : Endpoint} {target : Option String} {page : Page}
  {task : TaskId} {i j k : Nat}

theorem Obtains.mono {session : Option SessionId} {command : Command α} {x : α}
    (h : r.Obtains ctx session command task i j x) (hjk : j ≤ k) :
    r.Obtains ctx session command task i k x := by
  obtain ⟨id, w, u, d, answer, hiw, hid, hwu, hdu, huj, hrest⟩ := h
  exact ⟨id, w, u, d, answer, hiw, hid, hwu, hdu, Nat.lt_of_lt_of_le huj hjk, hrest⟩

theorem Evaluates.mono {expression text : String}
    (h : r.Evaluates page ctx expression task i j text) (hjk : j ≤ k) :
    r.Evaluates page ctx expression task i k text := by
  obtain ⟨reply, hreply, htext⟩ := h
  exact ⟨reply, hreply.mono hjk, htext⟩

theorem Lists.mono {targets : List TargetInfo} (h : r.Lists ctx task i j endpoint targets)
    (hjk : j ≤ k) : r.Lists ctx task i k endpoint targets := by
  cases h with
  | fetched hig hgj hasks hreads =>
    exact .fetched hig (Nat.lt_of_lt_of_le hgj hjk) hasks hreads
  | told h => exact .told (h.mono hjk)

theorem CompleteOn.mono {command : PageCommand} {texts : List String}
    (h : r.CompleteOn page ctx task i j command texts) (hjk : j ≤ k) :
    r.CompleteOn page ctx task i k command texts := by
  cases h with
  | moved hil hn hload hlocation => exact .moved hil hn hload (hlocation.mono hjk)
  | history h => exact .history (h.mono hjk)
  | stop h => exact .stop (h.mono hjk)
  | screenshot hsj h hbytes hsaves =>
    exact .screenshot (Nat.lt_of_lt_of_le hsj hjk) h hbytes hsaves
  | title h => exact .title (h.mono hjk)
  | location h => exact .location (h.mono hjk)

/-- A result that is complete stays so. -/
theorem Complete.mono {command : Subcommand} {texts : List String}
    (h : r.Complete ctx endpoint target task i j command texts) (hjk : j ≤ k) :
    r.Complete ctx endpoint target task i k command texts := by
  cases h with
  | targets h => exact .targets (h.mono hjk)
  | page hil hlm hchooses hattached h => exact .page hil hlm hchooses hattached (h.mono hjk)

/-! ### What commands find out -/

theorem Runs.of_asCommand_ok {op : Op α} {x : α}
    (h : r.Runs task i op.asCommand.run j (.done (.ok x))) :
    r.Runs task i op.run j (.done (.ok x)) := by
  rcases h.of_bind with ⟨_, _, -, hq⟩ | ⟨k, result, hop, hmapped⟩
  · cases hq
  obtain ⟨hquiet, hdone⟩ := hmapped.of_done
  have hresult := mapError_eq_ok.mp (Program.done.inj hdone).symm
  exact hresult ▸ hop.extend hmapped.le hquiet

/-- A command that is acknowledged has got its answer from the browser. -/
theorem Runs.obtains (hr : r.Admissible) {session : Option SessionId} {command : Command α} {x : α}
    (h : r.Runs task i (execute ctx session command).run j (.done (.ok x))) :
    r.Obtains ctx session command task i j x := by
  obtain ⟨id, w, u, d, answer, hiw, hwu, huj, hdu, hw, hanswers, hu, -, hack⟩ := h.acknowledged hr
  obtain ⟨q, hsend⟩ := send_of_execute h.leads
  have hwaits : ⟨.awaitReply (some ctx) id, .ok answer⟩ ∈ r.deeds task i j :=
    mem_deeds.mpr ⟨u, Nat.le_trans hiw (Nat.le_of_lt hwu), huj, hu⟩
  obtain ⟨p, hip, -, hpark⟩ := mem_deeds.mp (Send.park_mem_of_wait hsend hwaits)
  obtain ⟨hpd, -⟩ := first_of_answers hr ⟨task, hpark⟩ hanswers
  have hid : i < d := Nat.lt_of_le_of_lt hip hpd
  exact ⟨id, w, u, d, answer, hiw, hid, hwu, hdu, huj, hw, hanswers, hu, hack⟩

theorem Runs.evaluates (hr : r.Admissible) {expression text : String}
    (h : r.Runs task i (page.evaluateText ctx expression).run j (.done (.ok text))) :
    r.Evaluates page ctx expression task i j text := by
  obtain ⟨k, reply, hreply, h⟩ := h.of_except_bind_ok
  exact ⟨reply, (hreply.obtains hr).mono h.le, (Program.done.inj h.of_done.2).symm⟩

theorem Runs.arrives (hr : r.Admissible) {n : Navigation} {x : n.Result}
    (hpage : ((r.world i).board.listeners page.key).isSome)
    (h : r.Runs task i (n.op page ctx).run j (.done (.ok x))) :
    r.Arrives n page ctx task i j := by
  obtain ⟨m, key, y, ack, him, hmj, hyj, harm, hcommand, hends⟩ := h.navigation_ends hr hpage
  -- The other ends of a navigation are failures.
  cases hends with
  | @loaded _ z hfailure hyz hzj hwait hload =>
    have hmy := hcommand.le
    exact ⟨m, key, z, x, him, by omega, hzj, harm, (hcommand.obtains hr).mono hyj, hfailure, hwait,
      hload⟩

theorem Runs.lists (hr : r.Admissible) {targets : List TargetInfo}
    (h : r.Runs task i (Browser.listed ctx endpoint).run j (.done (.ok targets))) :
    r.Lists ctx task i j endpoint targets := by
  cases endpoint with
  | webSocket url => exact .told (h.of_asCommand_ok.obtains hr)
  | http host port secure =>
    simp only [Browser.listed] at h
    rcases Discovery.fetch_run Discovery.targetsForm _ with ⟨text, hfetch⟩ | ⟨u, hfetch⟩
    · rw [hfetch] at h
      cases h.of_done.2
    rw [hfetch] at h
    rcases h.of_act with ⟨-, hq⟩ | ⟨g, answer, hig, hgj, -, hasks, hrest⟩
    · cases hq
    exact .fetched hig hgj hasks
      (Discovery.readAnswer_of_fetched (Program.done.inj hrest.of_done.2).symm)

/-- What is made of a listing is made of listed targets. -/
theorem Runs.lists_bind (hr : r.Admissible) {g : List TargetInfo → Except CommandError α} {x : α}
    (h : r.Runs task i ((Browser.listed ctx endpoint).run.bind fun targets =>
      .done (targets.bind g)) j (.done (.ok x))) :
    ∃ targets, r.Lists ctx task i j endpoint targets ∧ g targets = .ok x := by
  rcases h.of_bind with ⟨_, _, -, hq⟩ | ⟨k, result, hlisted, hrest⟩
  · cases hq
  obtain ⟨hquiet, hdone⟩ := hrest.of_done
  obtain ⟨targets, rfl, hx⟩ := ok_of_bind_ok (Program.done.inj hdone).symm
  exact ⟨targets, (hlisted.extend hrest.le hquiet).lists hr, hx⟩

theorem Runs.chooses (hr : r.Admissible) {id : TargetId}
    (h : r.Runs task i (Browser.choose ctx endpoint target).run j (.done (.ok id))) :
    r.Chooses ctx endpoint task i j target id := by
  cases target with
  | some wanted =>
    cases h.of_done.2
    exact .wanted wanted
  | none =>
    rw [Browser.choose_run] at h
    obtain ⟨targets, hlists, hpick⟩ := h.lists_bind hr
    unfold Browser.pick at hpick
    split at hpick
    next first rest hpages =>
      cases hpick
      exact .first hlists hpages
    next => cases hpick

/-- Who has attached to a target has a page that is there. -/
theorem Runs.attachedTo (hr : r.Admissible) {id : TargetId}
    (h : r.Runs task i (Page.attach ctx id).run j (.done (.ok page))) :
    r.AttachedTo ctx id task i j page ∧ ((r.world j).board.listeners page.key).isSome := by
  obtain ⟨k, session, hasks, h⟩ := h.of_except_bind_ok
  obtain ⟨l, key, hopened, h⟩ := h.of_except_bind_ok
  obtain ⟨m, _, henabled, h⟩ := h.of_except_bind_ok
  obtain ⟨o, _, hko, hol, hopens, -, -, hkey⟩ := hopened.of_perform_done
  cases hkey
  cases h.of_done.2
  have hlj : l ≤ j := Nat.le_trans henabled.le h.le
  refine ⟨⟨session, o, (hasks.obtains hr).mono hko, Nat.lt_of_lt_of_le hol hlj, hopens, rfl⟩, ?_⟩
  exact World.isSome_listeners.mpr (pages_mono hr (Nat.le_trans hol hlj) hopens.opens)

theorem Runs.located (hr : r.Admissible) {texts : List String}
    (h : r.Runs task i (located page ctx).run j (.done (.ok texts))) :
    ∃ location, r.Evaluates page ctx "document.location.toString()" task i j location ∧
      texts = [location ++ "\n"] := by
  obtain ⟨k, location, hlocation, h⟩ := h.of_except_bind_ok
  obtain ⟨l, _, hlogs, h⟩ := h.of_except_bind_ok
  cases h.of_done.2
  exact ⟨location, (hlocation.of_asCommand_ok.evaluates hr).mono (Nat.le_trans hlogs.le h.le), rfl⟩

/-- What is found out after a navigation is where the page is. -/
theorem Runs.moved (hr : r.Admissible) {command : PageCommand} {n : Navigation} {x : n.Result}
    {texts : List String} {l : Nat} (hik : i ≤ k) (hn : r.Undertakes page ctx task i k command n)
    (hpage : ((r.world k).board.listeners page.key).isSome)
    (hop : r.Runs task k (n.op page ctx).run l (.done (.ok x)))
    (h : r.Runs task l (PagePilot.located page ctx).run j (.done (.ok texts))) :
    r.CompleteOn page ctx task i j command texts := by
  obtain ⟨location, hlocation, rfl⟩ := h.located hr
  exact .moved hik hn (hop.arrives hr hpage) hlocation

theorem Runs.of_move (hr : r.Admissible)
    {choose : NavigationHistory → Except Error NavigationEntry}
    (h : r.Runs task i (Page.move choose page ctx).run j (.done (.ok ()))) :
    ∃ k history entry, i ≤ k ∧ r.Obtains ctx page.session .getNavigationHistory task i k history ∧
      choose history = .ok entry ∧
        r.Runs task k ((Navigation.entry entry.id).op page ctx).run j (.done (.ok ())) := by
  obtain ⟨k, history, hhistory, h⟩ := h.of_except_bind_ok
  obtain ⟨l, entry, hentry, h⟩ := h.of_except_bind_ok
  obtain ⟨hquiet, hdone⟩ := hentry.of_done
  have hhistory := hhistory.extend hentry.le hquiet
  exact ⟨l, history, entry, hhistory.le, hhistory.obtains hr, (Program.done.inj hdone).symm, h⟩

/-- What a command on a page finds out is its complete result. -/
theorem Runs.completeOn (hr : r.Admissible) {command : PageCommand} {texts : List String}
    (hpage : ((r.world i).board.listeners page.key).isSome)
    (h : r.Runs task i (command.result page ctx).run j (.done (.ok texts))) :
    r.CompleteOn page ctx task i j command texts := by
  cases command with
  | navigate url =>
    obtain ⟨l, reply, hop, h⟩ := h.of_except_bind_ok
    exact Runs.moved hr (Nat.le_refl i) (.navigate url) hpage hop.of_asCommand_ok h
  | reload ignoreCache =>
    obtain ⟨l, _, hop, h⟩ := h.of_except_bind_ok
    exact Runs.moved hr (Nat.le_refl i) (.reload ignoreCache) hpage hop.of_asCommand_ok h
  | back =>
    obtain ⟨l, _, hmove, h⟩ := h.of_except_bind_ok
    obtain ⟨k, history, entry, hik, hhistory, hentry, hop⟩ := hmove.of_asCommand_ok.of_move hr
    exact Runs.moved hr hik (.back hhistory hentry) (page_mono hr hik hpage) hop h
  | forward =>
    obtain ⟨l, _, hmove, h⟩ := h.of_except_bind_ok
    obtain ⟨k, history, entry, hik, hhistory, hentry, hop⟩ := hmove.of_asCommand_ok.of_move hr
    exact Runs.moved hr hik (.forward hhistory hentry) (page_mono hr hik hpage) hop h
  | history =>
    obtain ⟨k, history, hhistory, h⟩ := h.of_except_bind_ok
    cases h.of_done.2
    exact .history ((hhistory.of_asCommand_ok.obtains hr).mono h.le)
  | stop =>
    obtain ⟨k, _, hstop, h⟩ := h.of_except_bind_ok
    obtain ⟨l, _, hlogs, h⟩ := h.of_except_bind_ok
    cases h.of_done.2
    exact .stop ((hstop.of_asCommand_ok.obtains hr).mono (Nat.le_trans hlogs.le h.le))
  | screenshot output format quality =>
    obtain ⟨k, bytes, himage, h⟩ := h.of_except_bind_ok
    obtain ⟨l, data, hdata, hdecode⟩ := himage.of_asCommand_ok.of_except_bind_ok
    rcases h.of_act with ⟨-, hq⟩ | ⟨s, written, hks, hsj, -, hsaves, h⟩
    · cases hq
    cases written with
    | error cause => cases h.of_done.2
    | ok _ =>
      obtain ⟨o, _, hlogs, h⟩ := h.of_except_bind_ok
      cases h.of_done.2
      exact .screenshot hsj ((hdata.obtains hr).mono (Nat.le_trans hdecode.le hks))
        (Program.done.inj hdecode.of_done.2).symm hsaves
  | title =>
    obtain ⟨k, title, htitle, h⟩ := h.of_except_bind_ok
    cases h.of_done.2
    exact .title ((htitle.of_asCommand_ok.evaluates hr).mono h.le)
  | location =>
    obtain ⟨k, location, hlocation, h⟩ := h.of_except_bind_ok
    cases h.of_done.2
    exact .location ((hlocation.of_asCommand_ok.evaluates hr).mono h.le)

/-- What a command finds out is its complete result. -/
theorem Runs.complete (hr : r.Admissible) {command : Subcommand} {texts : List String}
    (h : r.Runs task i (command.result ctx endpoint target).run j (.done (.ok texts))) :
    r.Complete ctx endpoint target task i j command texts := by
  cases command with
  | targets =>
    obtain ⟨k, found, hpages, h⟩ := h.of_except_bind_ok
    obtain ⟨hquiet, hdone⟩ := h.of_done
    cases hdone
    have hpages := hpages.extend h.le hquiet
    rw [Browser.pages_run] at hpages
    obtain ⟨targets, hlists, hfilter⟩ :=
      hpages.lists_bind hr (g := fun targets => .ok (targets.filter TargetInfo.isPage))
    cases hfilter
    exact .targets hlists
  | page command =>
    obtain ⟨l, page, hattach, h⟩ := h.of_except_bind_ok
    obtain ⟨k, id, hchoose, hattach⟩ := hattach.of_except_bind_ok
    obtain ⟨hattached, hpage⟩ := hattach.of_asCommand_ok.attachedTo hr
    exact .page hchoose.le hattach.le (hchoose.chooses hr) hattached (h.completeOn hr hpage)

end Run

end PagePilot
