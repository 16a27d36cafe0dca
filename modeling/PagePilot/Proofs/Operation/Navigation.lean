import PagePilot.Proofs.Operation.Load
/-!
# PagePilot.Proofs.Operation.Navigation

The three operations that navigate, as one. They differ in the command that they send, in
what they log, and in what their acknowledgment can say besides that the command was
taken; `Navigation.op_run` is the chain of acts that they have in common.
-/

namespace PagePilot

open Wire Program

/-! ### Commands -/

/-- An acknowledgment is what a send gives, read. -/
theorem execute_run (ctx : Context) (session : Option SessionId) (command : Command α) :
    (execute ctx session command).run =
      (send (some ctx) session command.method command.params).run.bind
        fun answer => .done (answer.bind command.acknowledge) := by
  refine (run_bind _ _).trans ?_
  refine congrArg (Program.bind _) (funext ?_)
  intro answer
  cases answer <;> rfl

/-- The path of a command is that of its send. -/
theorem send_of_execute {ctx : Context} {session : Option SessionId} {command : Command α}
    {path : List Deed} {q : Program (Except Error α)}
    (h : (execute ctx session command).run.Leads path q) :
    ∃ q', (send (some ctx) session command.method command.params).run.Leads path q' := by
  rw [execute_run] at h
  rcases h.of_bind with ⟨q', hq', -⟩ | ⟨path₁, answer, path₂, rfl, hanswer, hrest⟩
  · exact ⟨q', hq'⟩
  · obtain ⟨rfl, -⟩ := hrest.of_done
    rw [List.append_nil]
    exact ⟨_, hanswer⟩

/-- A call that has got a reply is over, and what it gives is that reply, read. -/
theorem done_of_wait_execute {ctx : Context} {session : Option SessionId} {command : Command α}
    {path : List Deed} {q : Program (Except Error α)} {id : Nat} {reply : Reply}
    (h : (execute ctx session command).run.Leads path q)
    (hmem : ⟨.awaitReply (some ctx) id, reply⟩ ∈ path) :
    q = .done (reply.bind command.acknowledge) := by
  rw [execute_run] at h
  rcases h.of_bind with ⟨p', hp', rfl⟩ | ⟨path₁, x, path₂, rfl, hx, hrest⟩
  · rw [Send.done_of_wait hp' hmem]
    rfl
  · obtain ⟨rfl, rfl⟩ := hrest.of_done
    rw [List.append_nil] at hmem
    cases Send.done_of_wait hx hmem
    rfl

/-- An act of a send. -/
def Act.ofSend : Act → Bool
  | .endOf _ | .isClosed | .allocate | .park _ | .unpark _ | .write _ | .awaitReply .. => true
  | _ => false

/-- A request is written. -/
def Deed.isWrite (d : Deed) : Bool :=
  match d.act with
  | .write _ => true
  | _ => false

namespace Send

variable {ctx : Context} {session : Option SessionId} {method : String} {params : Json}
  {path : List Deed} {q : Program Reply}

/-- A send does nothing to barriers. -/
theorem ofSend_of_leads (h : (send (some ctx) session method params).run.Leads path q)
    {d : Deed} (hd : d ∈ path) : d.act.ofSend = true := by
  have hall : path.all (·.act.ofSend) = true := by
    cases sending_of_leads h <;> rfl
  exact List.all_eq_true.mp hall d hd

/-- A send writes one request at most, and only after it has found its context alive. -/
theorem writes_of_leads (h : (send (some ctx) session method params).run.Leads path q) :
    path.filter Deed.isWrite = [] ∨
      (∃ rest, path = ⟨.endOf ctx, none⟩ :: rest) ∧ ∃ id result,
        path.filter Deed.isWrite = [⟨.write (request session method params id), result⟩] := by
  cases sending_of_leads h with
  | failing id e | failed id e => exact .inr ⟨⟨_, rfl⟩, id, .error e, rfl⟩
  | awaiting id | answered id reply => exact .inr ⟨⟨_, rfl⟩, id, .ok (), rfl⟩
  | start | ended | looking | refused | numbering | parking | lookingAgain | turningBack
      | turnedBack | writing =>
    exact .inl rfl

end Send

/-! ### Navigations -/

/-- An operation that navigates. -/
inductive Navigation
  | navigate (url : String)
  | reload (params : ReloadParams)
  /-- To an entry of the history. -/
  | entry (entryId : Int)

namespace Navigation

/-- What its command is acknowledged with, and what it gives then. -/
@[reducible]
def Result : Navigation → Type
  | .navigate _ => NavigateReply
  | .reload _ => Unit
  | .entry _ => Unit

/-- The operation. -/
def op (page : Page) (ctx : Context) : (n : Navigation) → Op n.Result
  | .navigate url => page.navigate ctx url
  | .reload params => page.reload ctx params
  | .entry entryId => page.navigateToEntry ctx entryId

/-- Its command. -/
def command : (n : Navigation) → Command n.Result
  | .navigate url => .navigate { url }
  | .reload params => .reload params
  | .entry entryId => .navigateToHistoryEntry entryId

/-- What it logs. -/
def record : Navigation → Log.Record
  | .navigate url =>
      { level := .info, source := Page.source, message := "navigate", fields := [.quoted "url" url] }
  | .reload params =>
      { level := .info, source := Page.source, message := "reload"
        fields := [.plain "ignore_cache" (Page.shownFlag params.ignoreCache)] }
  | .entry entryId =>
      { level := .info, source := Page.source, message := "navigate to history entry"
        fields := [.plain "entry_id" (toString entryId)] }

/-- Why the load could not start, if the acknowledgment says that it could not. -/
def failure : (n : Navigation) → n.Result → Option String
  | .navigate _, reply => reply.errorText.filter (!·.isEmpty)
  | .reload _, _ => none
  | .entry _, _ => none

/-- What a navigation makes of its acknowledgment. -/
def verdict (n : Navigation) (x : n.Result) : Except Error n.Result :=
  match n.failure x with
  | some text => .error (.navigationFailed text)
  | none => .ok x

/-- A navigation after its command. -/
def afterCommand (n : Navigation) (barrier : BarrierKey) (acknowledged : Except Error n.Result) :
    Program (Except Error n.Result) :=
  Load.triggered barrier (acknowledged.bind n.verdict)

theorem started_eq_verdict (url : String) (reply : NavigateReply) :
    Page.started reply = (Navigation.navigate url).verdict reply := by
  obtain ⟨frameId, loaderId, errorText⟩ := reply
  cases errorText with
  | none => rfl
  | some text =>
    simp only [Page.started, verdict, failure, Option.filter]
    by_cases h : text.isEmpty = true
    · rw [if_pos h, if_neg (by simp [h])]
    · rw [if_neg h, if_pos (by simpa using h)]

/-- A load of which the trigger is a command, and a look at its acknowledgment. -/
theorem load_run {page : Page} {ctx : Context} {trigger : Op α} {command : Command α}
    {verdict : α → Except Error α}
    (h : trigger.run = (page.call ctx command).run.bind fun x => .done (x.bind verdict)) :
    (page.loadAfter ctx trigger).run = .act (.arm page.key ctx Page.loadMilestone) fun barrier =>
      (page.call ctx command).run.bind fun x => Load.triggered barrier (x.bind verdict) := by
  rw [Load.loadAfter_run]
  refine Send.act_congr ?_
  intro barrier
  rw [h, bind_assoc]
  rfl

theorem bind_done_right (p : Program α) : p.bind .done = p := by
  induction p with
  | done x => rfl
  | act a next ih => simp [ih]

/-- A navigation logs, arms its barrier, sends its command, and goes on with that. -/
theorem op_run (n : Navigation) (page : Page) (ctx : Context) :
    (n.op page ctx).run = .act (.log n.record) fun _ =>
      .act (.arm page.key ctx Page.loadMilestone) fun barrier =>
        (page.call ctx n.command).run.bind (n.afterCommand barrier) := by
  cases n with
  | navigate url =>
    refine Send.act_congr fun _ => load_run ((run_bind _ _).trans ?_)
    refine congrArg (Program.bind _) (funext ?_)
    intro x
    cases x with
    | error e => rfl
    | ok reply => exact congrArg Program.done (started_eq_verdict url reply)
  | reload | entry =>
    refine Send.act_congr fun _ => load_run ((bind_done_right _).symm.trans ?_)
    refine congrArg (Program.bind _) (funext ?_)
    intro x
    cases x <;> rfl

/-! ### The paths of a navigation -/

variable {n : Navigation} {page : Page} {ctx : Context} {barrier : BarrierKey}
  {acknowledged : Except Error n.Result} {path : List Deed} {q : Program (Except Error n.Result)}

/-- After its command a navigation waits for its barrier at most, and lets go of it. -/
theorem acts_of_afterCommand (h : (n.afterCommand barrier acknowledged).Leads path q) :
    path.length ≤ 2 ∧ ∀ d ∈ path, d.act = .awaitMatch barrier ∨ d.act = .disarm barrier := by
  have hletting : ∀ {result : Except Error n.Result} {path q},
      (Load.letting barrier result).Leads path q →
        path.length ≤ 1 ∧ ∀ d ∈ path, d.act = .awaitMatch barrier ∨ d.act = .disarm barrier := by
    intro result path q h
    rcases h.of_act with ⟨rfl, -⟩ | ⟨_, rest, rfl, hrest⟩
    · exact ⟨Nat.zero_le _, fun _ hd => absurd hd List.not_mem_nil⟩
    · obtain ⟨rfl, -⟩ := hrest.of_done
      exact ⟨Nat.le_refl _, fun d hd => .inr (by rw [List.mem_singleton.mp hd])⟩
  unfold afterCommand at h
  generalize acknowledged.bind n.verdict = result at h
  cases result with
  | error e =>
    obtain ⟨hlength, hacts⟩ := hletting h
    exact ⟨Nat.le_succ_of_le hlength, hacts⟩
  | ok x =>
    rcases h.of_act with ⟨rfl, -⟩ | ⟨loaded, rest, rfl, hrest⟩
    · exact ⟨Nat.zero_le _, fun _ hd => absurd hd List.not_mem_nil⟩
    · obtain ⟨hlength, hacts⟩ := hletting hrest
      refine ⟨Nat.succ_le_succ hlength, ?_⟩
      intro d hd
      rcases List.mem_cons.mp hd with rfl | hd
      · exact .inl rfl
      · exact hacts d hd

/-- A navigation writes one request at most, that of its command, and only after it has found
its context alive. -/
theorem writes_of_leads
    (h : ((page.call ctx n.command).run.bind (n.afterCommand barrier)).Leads path q) :
    path.filter Deed.isWrite = [] ∨
      (∃ rest, path = ⟨.endOf ctx, none⟩ :: rest) ∧ ∃ id result, path.filter Deed.isWrite =
        [⟨.write (Send.request page.session n.command.method n.command.params id), result⟩] := by
  rcases h.of_bind with ⟨p', hp', -⟩ | ⟨path₁, x, path₂, rfl, hx, hrest⟩
  · obtain ⟨q', hq'⟩ := send_of_execute hp'
    exact Send.writes_of_leads hq'
  · obtain ⟨q', hq'⟩ := send_of_execute hx
    have hnone : path₂.filter Deed.isWrite = [] := by
      refine List.filter_eq_nil_iff.mpr ?_
      intro d hd hwrite
      rcases (acts_of_afterCommand hrest).2 d hd with hact | hact <;>
        simp [Deed.isWrite, hact] at hwrite
    rw [List.filter_append, hnone, List.append_nil]
    rcases Send.writes_of_leads hq' with hnothing | ⟨⟨rest, rfl⟩, id, result, hone⟩
    · exact .inl hnothing
    · exact .inr ⟨⟨rest ++ path₂, rfl⟩, id, result, hone⟩

/-- A navigation arms one barrier. -/
theorem not_arm_of_leads
    (h : ((page.call ctx n.command).run.bind (n.afterCommand barrier)).Leads path q) {d : Deed}
    (hd : d ∈ path) (page' : PageKey) (ctx' : Context) (milestone : String) :
    d.act ≠ .arm page' ctx' milestone := by
  have hsend : ∀ {path q'}, (page.call ctx n.command).run.Leads path q' → d ∈ path →
      d.act ≠ .arm page' ctx' milestone := by
    intro path q' hleads hd heq
    obtain ⟨q', hq'⟩ := send_of_execute hleads
    have hact := Send.ofSend_of_leads hq' hd
    simp [heq, Act.ofSend] at hact
  rcases h.of_bind with ⟨p', hp', -⟩ | ⟨path₁, x, path₂, rfl, hx, hrest⟩
  · exact hsend hp' hd
  · rcases List.mem_append.mp hd with hd | hd
    · exact hsend hx hd
    · intro heq
      rcases (acts_of_afterCommand hrest).2 d hd with hact | hact <;> cases heq.symm.trans hact

end Navigation

end PagePilot
