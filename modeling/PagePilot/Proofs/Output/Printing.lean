import PagePilot.Proofs.Operation.Composed
import PagePilot.Proofs.Output.Outside
import PagePilot.Proofs.Sequence.Commands
/-!
# PagePilot.Proofs.Output.Printing

When a command prints. Each command is the same as one that finds out first all that there is
to print (`Subcommand.result`), and prints it then (`announce`), text by text. The first part
may fail and prints nothing; the second prints everything and cannot fail. So in no run is
anything printed before the result is complete (`Run.Runs.output`).
-/

namespace PagePilot

open Wire Program

/-! ### Programs that spare acts of a kind -/

/-- A program that does no act of a kind. -/
def Program.Spares (kind : Act → Bool) (p : Program α) : Prop :=
  ∀ path q, p.Leads path q → ∀ d ∈ path, kind d.act = false

/-- An act that prints. -/
def Act.prints : Act → Bool
  | .print _ => true
  | _ => false

/-- An act that writes a file. -/
def Act.saves : Act → Bool
  | .save .. => true
  | _ => false

/-- An act that shows outside of the program. -/
def Act.shows (a : Act) : Bool :=
  a.prints || a.saves

theorem Act.shows_of_prints (a : Act) (h : a.prints = true) : a.shows = true := by
  rw [shows, h, Bool.true_or]

theorem Act.shows_of_saves (a : Act) (h : a.saves = true) : a.shows = true := by
  rw [shows, h, Bool.or_true]

theorem Act.shows_of_ofSend {a : Act} (h : a.ofSend = true) : a.shows = false := by
  cases a <;> first | rfl | cases h

namespace Program.Spares

variable {kind kind' : Act → Bool}

theorem mono {p : Program α} (h : p.Spares kind') (hkind : ∀ a, kind a = true → kind' a = true) :
    p.Spares kind := by
  intro path q hpath d hd
  refine Bool.eq_false_iff.mpr fun hact => ?_
  exact Bool.false_ne_true ((h path q hpath d hd).symm.trans (hkind _ hact))

theorem done (x : α) : (Program.done x).Spares kind := by
  intro path q hpath d hd
  rw [hpath.of_done.1] at hd
  cases hd

theorem act {a : Act} {next : a.Reply → Program α} (ha : kind a = false)
    (h : ∀ reply, (next reply).Spares kind) : (Program.act a next).Spares kind := by
  intro path q hpath d hd
  rcases hpath.of_act with ⟨rfl, -⟩ | ⟨reply, rest, rfl, hrest⟩
  · cases hd
  · rcases List.mem_cons.mp hd with rfl | hd
    · exact ha
    · exact h reply rest q hrest d hd

theorem bind {p : Program α} {f : α → Program β} (h : p.Spares kind)
    (hf : ∀ x, (f x).Spares kind) : (p.bind f).Spares kind := by
  intro path q hpath d hd
  rcases hpath.of_bind with ⟨p', hp', -⟩ | ⟨path₁, x, path₂, rfl, hx, hrest⟩
  · exact h path p' hp' d hd
  · rcases List.mem_append.mp hd with hd | hd
    · exact h path₁ _ hx d hd
    · exact hf x path₂ q hrest d hd

theorem op_bind {x : ExceptT ε Program α} {f : α → ExceptT ε Program β} (h : x.run.Spares kind)
    (hf : ∀ a, (f a).run.Spares kind) : (x >>= f).run.Spares kind := by
  rw [run_bind]
  refine h.bind fun result => ?_
  cases result with
  | ok a => exact hf a
  | error e => exact done _

theorem asCommand {op : Op α} (h : op.run.Spares kind) : op.asCommand.run.Spares kind :=
  h.bind fun _ => done _

theorem perform {a : Act} (ha : kind a = false) : (CommandOp.perform a).run.Spares kind :=
  act ha fun _ => done _

/-! ### What is done with the browser shows nowhere -/

variable {page : Page} {ctx : Context} {endpoint : Endpoint}

theorem execute (session : Option SessionId) (command : Command α) :
    (execute ctx session command).run.Spares Act.shows := by
  intro path q hpath d hd
  obtain ⟨q', hsend⟩ := send_of_execute hpath
  exact Act.shows_of_ofSend (Send.ofSend_of_leads hsend hd)

theorem navigation (n : Navigation) : (n.op page ctx).run.Spares Act.shows := by
  rw [n.op_run]
  refine act rfl fun _ => act rfl fun barrier => bind (execute _ _) fun x => ?_
  intro path q hpath d hd
  rcases (Navigation.acts_of_afterCommand hpath).2 d hd with hact | hact <;>
    exact hact ▸ rfl

theorem composed {n : Nat} {op : Op α} (h : page.Composed ctx n op) : op.run.Spares Act.shows := by
  induction h with
  | known => exact done _
  | command => exact execute _ _
  | setFrame => exact act rfl fun _ => done _
  | navigation n => exact navigation n
  | andThen _ _ ihx ihf => exact op_bind ihx ihf

theorem offered {op : Op α} (h : page.Offers ctx op) : op.run.Spares Act.shows :=
  let ⟨_, _, hcomposed⟩ := h.composed
  composed hcomposed

theorem fetch (form : Discovery.Form α) (url : String) :
    (Discovery.fetch form url).run.Spares Act.shows := by
  rcases Discovery.fetch_run form url with ⟨text, hfetch⟩ | ⟨u, hfetch⟩
  · rw [hfetch]
    exact done _
  · rw [hfetch]
    exact act rfl fun _ => done _

theorem listed (endpoint : Endpoint) : (Browser.listed ctx endpoint).run.Spares Act.shows := by
  cases endpoint with
  | http => exact fetch _ _
  | webSocket => exact asCommand (execute _ _)

theorem pages (endpoint : Endpoint) : (Browser.pages ctx endpoint).run.Spares Act.shows := by
  rw [Browser.pages_run]
  exact bind (listed endpoint) fun _ => done _

theorem choose (endpoint : Endpoint) (target : Option String) :
    (Browser.choose ctx endpoint target).run.Spares Act.shows := by
  cases target with
  | some id => exact done _
  | none =>
    rw [Browser.choose_run]
    exact bind (listed endpoint) fun _ => done _

theorem attach (endpoint : Endpoint) (target : Option String) :
    (Browser.attach ctx endpoint target).run.Spares Act.shows :=
  op_bind (choose endpoint target) fun _ => asCommand <|
    op_bind (execute _ _) fun _ => op_bind (act rfl fun _ => done _) fun _ =>
      op_bind (offered .enable) fun _ => done _

end Program.Spares

/-! ### The result of a command -/

/-- Prints texts, one after the other. -/
def announce : List String → CommandOp Unit
  | [] => return ()
  | text :: rest => do
      CommandOp.perform (.print text)
      announce rest

/-- What is printed of where a page is. -/
def located (page : Page) (ctx : Context) : CommandOp (List String) := do
  let location ← (page.location ctx).asCommand
  CommandOp.inform navigationSource "loaded" [.plain "location" location]
  return [location ++ "\n"]

/-- What is printed of a screenshot that was taken to a file. -/
def pictured (page : Page) (ctx : Context) (output : String) (format : ScreenshotFormat)
    (quality : Option Int) : CommandOp (List String) := do
  let image ← (page.screenshot ctx (screenshotParams format quality)).asCommand
  match ← CommandOp.perform (.save output image) with
  | .error cause => throw (.write output cause)
  | .ok () =>
      CommandOp.inform "cdpnav_cli::commands::screenshot" "screenshot saved"
        [.plain "path" output, .plain "bytes" (toString image.length)]
      return [output ++ "\n"]

/-- What a command on a page has to print. -/
def PageCommand.result (page : Page) (ctx : Context) : PageCommand → CommandOp (List String)
  | .navigate url => do
      let _ ← (page.navigate ctx url).asCommand
      located page ctx
  | .reload ignoreCache => do
      (page.reload ctx { ignoreCache := if ignoreCache then some true else none }).asCommand
      located page ctx
  | .back => do
      (page.back ctx).asCommand
      located page ctx
  | .forward => do
      (page.forward ctx).asCommand
      located page ctx
  | .history => do
      let history ← (page.entries ctx).asCommand
      return [History.render history]
  | .stop => do
      (page.stop ctx).asCommand
      CommandOp.inform navigationSource "stopped loading" []
      return []
  | .screenshot output format quality => pictured page ctx output format quality
  | .title => do
      let title ← (page.title ctx).asCommand
      return [title ++ "\n"]
  | .location => do
      let location ← (page.location ctx).asCommand
      return [location ++ "\n"]

/-- What a command has to print. -/
def Subcommand.result (ctx : Context) (endpoint : Endpoint) (target : Option String) :
    Subcommand → CommandOp (List String)
  | .targets => do
      let targets ← Browser.pages ctx endpoint
      return targets.map fun t => targetLine t ++ "\n"
  | .page command => do
      let page ← Browser.attach ctx endpoint target
      command.result page ctx

theorem announce_spares (texts : List String) : (announce texts).run.Spares Act.saves := by
  induction texts with
  | nil => exact .done _
  | cons text rest ih => exact .op_bind (.perform rfl) fun _ => ih

theorem announce_single (text : String) :
    announce [text] = CommandOp.perform (.print text) :=
  Send.act_congr fun _ => rfl

theorem announce_targets (targets : List TargetInfo) :
    announce (targets.map fun t => targetLine t ++ "\n") = printTargets targets := by
  induction targets with
  | nil => rfl
  | cons t rest ih => exact congrArg (fun p => CommandOp.printLine (targetLine t) >>= fun _ => p) ih

section

variable {page : Page} {ctx : Context}

theorem reportLocation_eq : reportLocation page ctx = located page ctx >>= announce := by
  refine Eq.trans ?_ (run_bind_assoc _ _ _).symm
  refine congrArg ((page.location ctx).asCommand >>= ·) (funext fun location => ?_)
  exact Send.act_congr fun _ => (announce_single _).symm

theorem saveScreenshot_eq (output : String) (format : ScreenshotFormat) (quality : Option Int) :
    saveScreenshot page ctx output format quality =
      pictured page ctx output format quality >>= announce := by
  refine Eq.trans ?_ (run_bind_assoc _ _ _).symm
  refine congrArg ((page.screenshot ctx _).asCommand >>= ·) (funext fun image => ?_)
  refine Send.act_congr fun written => ?_
  cases written with
  | error cause => rfl
  | ok _ => exact Send.act_congr fun _ => (announce_single _).symm

/-- A command on a page finds out what it has to print, and prints it. -/
theorem pageCommand_eq (command : PageCommand) :
    command.run page ctx = command.result page ctx >>= announce := by
  cases command with
  | navigate | reload | back | forward =>
    refine Eq.trans ?_ (run_bind_assoc _ _ _).symm
    exact congrArg (_ >>= ·) (funext fun _ => reportLocation_eq)
  | history | title | location =>
    refine Eq.trans ?_ (run_bind_assoc _ _ _).symm
    exact congrArg (_ >>= ·) (funext fun _ => (announce_single _).symm)
  | stop =>
    refine Eq.trans ?_ (run_bind_assoc _ _ _).symm
    exact congrArg (_ >>= ·) (funext fun _ => Send.act_congr fun _ => rfl)
  | screenshot output format quality => exact saveScreenshot_eq output format quality

/-- A command finds out what it has to print, and prints it. -/
theorem subcommand_eq (endpoint : Endpoint) (target : Option String) (command : Subcommand) :
    command.run ctx endpoint target = command.result ctx endpoint target >>= announce := by
  cases command with
  | targets =>
    refine Eq.trans ?_ (run_bind_assoc _ _ _).symm
    exact congrArg (_ >>= ·) (funext fun targets => (announce_targets targets).symm)
  | page command =>
    refine Eq.trans ?_ (run_bind_assoc _ _ _).symm
    exact congrArg (_ >>= ·) (funext fun page => pageCommand_eq command)

/-! ### Nothing is printed before the result is there -/

theorem located_spares : (located page ctx).run.Spares Act.shows :=
  .op_bind (.asCommand (.offered (.evaluateText _))) fun _ =>
    .op_bind (.perform rfl) fun _ => .done _

theorem pictured_spares (output : String) (format : ScreenshotFormat) (quality : Option Int) :
    (pictured page ctx output format quality).run.Spares Act.prints := by
  have himage : (page.screenshot ctx (screenshotParams format quality)).asCommand.run.Spares
      Act.prints := .mono (.asCommand (.offered (.screenshot _))) Act.shows_of_prints
  refine .op_bind himage fun image => .act rfl fun written => ?_
  cases written with
  | error cause => exact .done _
  | ok _ => exact .op_bind (.perform rfl) fun _ => .done _

/-- Only a screenshot writes a file. -/
theorem pageCommand_spares (command : PageCommand)
    (h : ∀ output format quality, command ≠ .screenshot output format quality) :
    (command.result page ctx).run.Spares Act.shows := by
  have hmoves : ∀ {α : Type} {op : Op α}, page.Offers ctx op →
      (op.asCommand >>= fun _ => located page ctx).run.Spares Act.shows :=
    fun hop => .op_bind (.asCommand (.offered hop)) fun _ => located_spares
  cases command with
  | navigate url => exact hmoves (.navigate url)
  | reload ignoreCache => exact hmoves (.reload _)
  | back => exact hmoves .back
  | forward => exact hmoves .forward
  | history => exact .op_bind (.asCommand (.offered .entries)) fun _ => .done _
  | title | location =>
    exact .op_bind (.asCommand (.offered (.evaluateText _))) fun _ => .done _
  | stop =>
    exact .op_bind (.asCommand (.offered .stop)) fun _ =>
      .op_bind (.perform rfl) fun _ => .done _
  | screenshot output format quality => exact absurd rfl (h output format quality)

theorem subcommand_spares (endpoint : Endpoint) (target : Option String) (command : Subcommand) :
    (command.result ctx endpoint target).run.Spares Act.prints := by
  cases command with
  | targets =>
    exact .mono (.op_bind (.pages endpoint) fun _ => .done _) Act.shows_of_prints
  | page command =>
    refine .op_bind (.mono (.attach endpoint target) Act.shows_of_prints) fun page => ?_
    by_cases h : ∃ output format quality, command = .screenshot output format quality
    · obtain ⟨output, format, quality, rfl⟩ := h
      exact pictured_spares output format quality
    · refine .mono (pageCommand_spares command ?_) Act.shows_of_prints
      exact fun output format quality heq => h ⟨output, format, quality, heq⟩

end

/-! ### Runs -/

namespace Run

variable {r : Run} {ctx : Context} {endpoint : Endpoint} {target : Option String}
  {command : Subcommand} {task : TaskId} {i j k : Nat}

theorem Runs.not_does_of_spares {kind : Act → Bool} {p q : Program α} (hp : p.Spares kind)
    (h : r.Runs task i p j q) (hik : i ≤ k) (hkj : k < j) {a : Act} {reply : a.Reply}
    (ha : kind a = true) : ¬ r.Does k task a reply := by
  intro hdoes
  have hspared := hp _ _ h.leads ⟨a, reply⟩ (mem_deeds.mpr ⟨k, hik, hkj, hdoes⟩)
  exact Bool.false_ne_true (hspared.symm.trans ha)

theorem Runs.printed_of_spares {p q : Program α} (hp : p.Spares Act.prints)
    (h : r.Runs task i p j q) : r.printed task i j = [] := by
  refine List.filterMap_eq_nil_iff.mpr fun d hd => ?_
  have hspared := hp _ _ h.leads d hd
  obtain ⟨a, reply⟩ := d
  cases a <;> first | rfl | cases hspared

/-- What is announced is printed in order, and all of it at the end, which is a success. -/
theorem Runs.announced {texts : List String} {q : Program (Except CommandError Unit)}
    (h : r.Runs task i (announce texts).run j q) :
    r.printed task i j <+: texts ∧ ∀ result, q = .done result →
      result = .ok () ∧ r.printed task i j = texts := by
  induction texts generalizing i with
  | nil =>
    obtain ⟨hquiet, rfl⟩ := h.of_done
    have hprinted : r.printed task i j = [] := by rw [printed, hquiet, List.filterMap_nil]
    refine ⟨hprinted ▸ List.prefix_rfl, fun result hresult => ?_⟩
    exact ⟨(Program.done.inj hresult).symm, hprinted⟩
  | cons text rest ih =>
    rcases h.of_act with ⟨hquiet, rfl⟩ | ⟨k, _, hik, hkj, hquiet, hdoes, hrest⟩
    · rw [printed, hquiet]
      exact ⟨List.nil_prefix, fun _ hresult => by cases hresult⟩
    obtain ⟨hbegins, hdone⟩ := ih hrest
    have hprinted : r.printed task i j = text :: r.printed task (k + 1) j := by
      rw [printed, deeds_at (d := ⟨.print text, ()⟩) hik hkj hdoes, hquiet]
      rfl
    rw [hprinted]
    refine ⟨List.cons_prefix_cons.mpr ⟨rfl, hbegins⟩, fun result hresult => ?_⟩
    obtain ⟨hok, hall⟩ := hdone result hresult
    exact ⟨hok, by rw [hall]⟩

/-- A command has printed nothing, and not succeeded; or it has all that it has to print, prints
that, and cannot fail. -/
theorem Runs.output {q : Program (Except CommandError Unit)}
    (h : r.Runs task i (command.run ctx endpoint target).run j q) :
    (r.printed task i j = [] ∧ ∀ x, q ≠ .done (.ok x)) ∨
      ∃ k texts, r.Runs task i (command.result ctx endpoint target).run k (.done (.ok texts)) ∧
        k ≤ j ∧ r.printed task i k = [] ∧ r.printed task i j = r.printed task k j ∧
        r.Runs task k (announce texts).run j q := by
  have hspares : (command.result ctx endpoint target).run.Spares Act.prints :=
    subcommand_spares endpoint target command
  rw [subcommand_eq] at h
  rcases h.of_except_bind with ⟨⟨q', hfinds⟩, hno⟩ | ⟨k, texts, hfinds, hannounce⟩
  · exact .inl ⟨hfinds.printed_of_spares hspares, hno⟩
  · have hnothing := hfinds.printed_of_spares hspares
    refine .inr ⟨k, texts, hfinds, hannounce.le, hnothing, ?_, hannounce⟩
    rw [printed_append hfinds.le hannounce.le, hnothing, List.nil_append]

end Run

end PagePilot
