import PagePilot.Proofs.Connection.Governed
import PagePilot.Proofs.Sequence.Commands
/-!
# PagePilot.Proofs.Operation.Approach

What is done with the browser before there is a page (`Approach`): its socket is opened, its
pages are listed, one of them is attached to. Each has two ways, by the discovery pages of an
endpoint or by its socket, and `Run.approach_under_ended` says what becomes of them under a
context that has ended.

* Without discovery the first act is a look at the context (`Program.Heeds`), so nothing but
  that look is done, and the error of the context is the result (`Run.FailsAtLook`).
* The discovery is given no context. A server is asked whatever has become of the context, and
  the context is looked at after its answer, if at all (`Run.Discovers`).
-/

namespace PagePilot

open Wire Program

/-! ### Operations that look first -/

namespace Program.Heeds

variable {ctx : Context}

theorem asCommand {op : Op α} (h : op.run.Heeds ctx id) : op.asCommand.run.Heeds ctx .command := by
  obtain ⟨next, hop, hnext⟩ := h
  refine ⟨fun ended => (next ended).bind fun r => .done (r.mapError .command), ?_, fun e => ?_⟩
  · show op.run.bind _ = _
    rw [hop, bind_act]
  · show (next (some e)).bind _ = _
    rw [hnext]
    rfl

theorem connect (url : String) : (Browser.connect ctx url).run.Heeds ctx id :=
  ⟨_, rfl, fun _ => rfl⟩

theorem attach (target : TargetId) : (Page.attach ctx target).run.Heeds ctx id :=
  bind (.execute ..)

end Program.Heeds

/-! ### Approaches -/

/-- What is done with a browser before there is a page. -/
inductive Approach
  | openSocket
  | pages
  | attach (target : Option String)

namespace Approach

/-- What it gives. -/
@[reducible] def Result : Approach → Type
  | .openSocket => Unit
  | .pages => List TargetInfo
  | .attach _ => Page

/-- What is done. -/
def op (ctx : Context) (endpoint : Endpoint) : (a : Approach) → CommandOp a.Result
  | .openSocket => Browser.openSocket ctx endpoint
  | .pages => Browser.pages ctx endpoint
  | .attach target => Browser.attach ctx endpoint target

/-- Whether it goes by a discovery page. -/
def discovers (endpoint : Endpoint) (a : Approach) : Bool :=
  match endpoint, a with
  | .webSocket _, _ | .http .., .attach (some _) => false
  | .http .., .openSocket | .http .., .pages | .http .., .attach none => true

/-- What a discovery page tells. -/
@[reducible] def Finding : Approach → Type
  | .openSocket => VersionInfo
  | .pages | .attach _ => List TargetInfo

/-- The path of its discovery page. -/
def path : Approach → String
  | .openSocket => "/json/version"
  | .pages | .attach _ => "/json/list"

/-- How its discovery page is read. -/
def form : (a : Approach) → Discovery.Form a.Finding
  | .openSocket => Discovery.versionForm
  | .pages | .attach _ => Discovery.targetsForm

/-- What is done with what the discovery page tells. -/
def sequel (ctx : Context) (endpoint : Endpoint) : (a : Approach) → a.Finding → CommandOp a.Result
  | .openSocket, info => Browser.openSocket ctx (.webSocket info.webSocketDebuggerUrl)
  | .pages, targets => return targets.filter TargetInfo.isPage
  | .attach _, targets => do
      let id ← ExceptT.mk (.done (Browser.pick endpoint targets))
      (Page.attach ctx id).asCommand

variable {ctx : Context} {endpoint : Endpoint} {a : Approach}

theorem heeds (h : a.discovers endpoint = false) : (a.op ctx endpoint).run.Heeds ctx .command := by
  cases a with
  | openSocket =>
    cases endpoint with
    | http => cases h
    | webSocket url =>
      exact Heeds.bind (x := (Browser.connect ctx url).asCommand) (.asCommand (.connect url))
  | pages =>
    cases endpoint with
    | http => cases h
    | webSocket url => exact .bind (.asCommand (.execute ..))
  | attach target =>
    cases target with
    | some id => exact .asCommand (.attach ⟨id⟩)
    | none =>
      cases endpoint with
      | http => cases h
      | webSocket url => exact .bind (.bind (.bind (.asCommand (.execute ..))))

/-- By way of discovery, a page is fetched first, and no context has a part in that. -/
theorem op_run (h : a.discovers endpoint = true) : (a.op ctx endpoint).run =
    (Discovery.fetch a.form (endpoint.text ++ a.path)).run.bind
      (carry (a.sequel ctx endpoint)) := by
  cases endpoint with
  | webSocket url => cases h
  | http host port secure =>
    cases a with
    | openSocket =>
      refine (run_bind_assoc _ _ _).trans ?_
      exact run_bind ..
    | pages => exact run_bind ..
    | attach target =>
      cases target with
      | some id => cases h
      | none =>
        refine (run_bind _ _).trans ?_
        rw [Browser.choose_run, bind_assoc]
        refine congrArg (Program.bind _) (funext ?_)
        intro targets
        cases targets with
        | error error => rfl
        | ok targets => exact (run_bind (ExceptT.mk (.done (Browser.pick _ targets))) _).symm

end Approach

/-! ### In runs -/

namespace Run

variable (r : Run)

/-- What is done with what a discovery page has told, under a context that has ended. -/
inductive Aftermath (ctx : Context) (endpoint : Endpoint) (task : TaskId) (i j : Nat) :
    (a : Approach) → a.Finding → Program (Except CommandError a.Result) → Prop
  | openSocket {info : VersionInfo} {q : Program (Except CommandError Unit)}
      (h : r.FailsAtLook ctx .command task i j q) :
      Aftermath ctx endpoint task i j .openSocket info q
  /-- The pages are listed, and no context is looked at. -/
  | pages {targets : List TargetInfo} (hquiet : r.deeds task i j = []) :
      Aftermath ctx endpoint task i j .pages targets
        (.done (.ok (targets.filter TargetInfo.isPage)))
  | noPage {target : Option String} {targets : List TargetInfo}
      (hnone : targets.filter TargetInfo.isPage = []) (hquiet : r.deeds task i j = []) :
      Aftermath ctx endpoint task i j (.attach target) targets
        (.done (.error (.noPageTarget endpoint.text)))
  | attach {target : Option String} {targets : List TargetInfo}
      {q : Program (Except CommandError Page)} (hsome : targets.filter TargetInfo.isPage ≠ [])
      (h : r.FailsAtLook ctx .command task i j q) :
      Aftermath ctx endpoint task i j (.attach target) targets q

/-- What comes of an approach by way of a discovery page, under a context that has ended. -/
inductive Discovers (ctx : Context) (endpoint : Endpoint) (task : TaskId) (i j : Nat)
    (a : Approach) : Program (Except CommandError a.Result) → Prop
  /-- The address of the page is none that can be asked. -/
  | unasked {text : String} (hquiet : r.deeds task i j = []) :
      Discovers ctx endpoint task i j a (.done (.error (.discovery (endpoint.text ++ a.path) text)))
  /-- It is about to ask. -/
  | asking {u : Url} {next : Option HttpAnswer → Program (Except CommandError a.Result)}
      (hquiet : r.deeds task i j = []) :
      Discovers ctx endpoint task i j a (.act (.get (Discovery.origin u) (Discovery.target u)) next)
  /-- It has asked, and there is no answer, or none that reads. -/
  | failed {u : Url} {answer : Option HttpAnswer} {text : String}
      (hdeeds : r.deeds task i j = [⟨.get (Discovery.origin u) (Discovery.target u), answer⟩])
      (hfound : Discovery.fetched a.form (endpoint.text ++ a.path) u answer =
        .error (.discovery (endpoint.text ++ a.path) text)) :
      Discovers ctx endpoint task i j a (.done (.error (.discovery (endpoint.text ++ a.path) text)))
  /-- It has asked, and goes on with the answer. -/
  | found {u : Url} {answer : Option HttpAnswer} {k : Nat} {finding : a.Finding}
      {q : Program (Except CommandError a.Result)} (hik : i ≤ k) (hkj : k ≤ j)
      (hdeeds : r.deeds task i k = [⟨.get (Discovery.origin u) (Discovery.target u), answer⟩])
      (hfound : Discovery.fetched a.form (endpoint.text ++ a.path) u answer = .ok finding)
      (hrest : r.Aftermath ctx endpoint task k j a finding q) :
      Discovers ctx endpoint task i j a q

/-- An approach under a context that had ended when it began. -/
structure ApproachUnderEnded (ctx : Context) (endpoint : Endpoint) (task : TaskId) (i j : Nat)
    (a : Approach) (q : Program (Except CommandError a.Result)) : Prop where
  /-- Without discovery it fails with the end of the context, and nobody is contacted. -/
  governed : a.discovers endpoint = false → r.FailsAtLook ctx .command task i j q
  /-- With discovery a server is asked all the same. -/
  ungoverned : a.discovers endpoint = true → r.Discovers ctx endpoint task i j a q
  /-- Either way it has its result after two acts at most, of which none has to wait. That goes
  for the world of a run, in which a server answers at once or not at all (`Network`): a request
  to one that is slow may take up to the two seconds that it is given. -/
  prompt : (r.deeds task i j).length ≤ 2 ∧
    ∀ act next, q = .act act next → ((r.world j).perform task act).isSome

variable {r : Run} {ctx : Context} {endpoint : Endpoint} {a : Approach}
  {task : TaskId} {i j k : Nat}

/-- What was found is used under the context, or not at all. -/
theorem Runs.aftermath (hr : r.Admissible) {finding : a.Finding}
    {q : Program (Except CommandError a.Result)} (hended : ((r.world i).endOf ctx).isSome)
    (h : r.Runs task i (a.sequel ctx endpoint finding).run j q) :
    r.Aftermath ctx endpoint task i j a finding q := by
  cases a with
  | openSocket =>
    exact .openSocket (h.failsAtLook hr (Approach.heeds (a := .openSocket) rfl) hended)
  | pages =>
    obtain ⟨hquiet, rfl⟩ := h.of_done
    exact .pages hquiet
  | attach target =>
    unfold Approach.sequel at h
    rw [run_bind] at h
    cases hfilter : finding.filter TargetInfo.isPage with
    | nil =>
      simp only [Browser.pick, hfilter] at h
      obtain ⟨hquiet, rfl⟩ := h.of_done
      exact .noPage hfilter hquiet
    | cons first rest =>
      simp only [Browser.pick, hfilter] at h
      exact .attach (by simp [hfilter]) (h.failsAtLook hr (.asCommand (.attach first.id)) hended)

theorem Aftermath.prompt {finding : a.Finding} {q : Program (Except CommandError a.Result)}
    (h : r.Aftermath ctx endpoint task i j a finding q) :
    (r.deeds task i j).length ≤ 1 ∧
      ∀ act next, q = .act act next → ((r.world j).perform task act).isSome := by
  cases h with
  | openSocket h | attach _ h => exact h.prompt
  | pages hquiet | noPage _ hquiet => exact ⟨by simp [hquiet], nofun⟩

theorem Runs.discovers (hr : r.Admissible) {q : Program (Except CommandError a.Result)}
    (hdiscovers : a.discovers endpoint = true) (hended : ((r.world i).endOf ctx).isSome)
    (h : r.Runs task i (a.op ctx endpoint).run j q) :
    r.Discovers ctx endpoint task i j a q := by
  rw [Approach.op_run hdiscovers] at h
  rcases Discovery.fetch_run a.form (endpoint.text ++ a.path) with ⟨text, hfetch⟩ | ⟨u, hfetch⟩
  · rw [hfetch] at h
    obtain ⟨hquiet, rfl⟩ := h.of_done
    exact .unasked hquiet
  rw [hfetch, bind_act] at h
  rcases h.of_act with ⟨hquiet, rfl⟩ | ⟨k, answer, hik, hkj, hquiet, hdoes, hrest⟩
  · exact .asking hquiet
  have hasked := deeds_succ_of_does (d := ⟨_, answer⟩) hik hdoes
  rw [hquiet, List.nil_append] at hasked
  rw [bind_done] at hrest
  cases hfound : Discovery.fetched a.form (endpoint.text ++ a.path) u answer with
  | error error =>
    obtain ⟨text, rfl⟩ := Discovery.error_of_fetched hfound
    rw [hfound] at hrest
    obtain ⟨hafter, rfl⟩ := hrest.of_done
    refine .failed ?_ hfound
    rw [deeds_append (Nat.le_succ_of_le hik) hkj, hasked, hafter, List.append_nil]
  | ok finding =>
    rw [hfound] at hrest
    have hlater := ended_mono hr (Nat.le_succ_of_le hik) hended
    exact .found (Nat.le_succ_of_le hik) hkj hasked hfound (hrest.aftermath hr hlater)

theorem Discovers.prompt {q : Program (Except CommandError a.Result)}
    (h : r.Discovers ctx endpoint task i j a q) :
    (r.deeds task i j).length ≤ 2 ∧
      ∀ act next, q = .act act next → ((r.world j).perform task act).isSome := by
  cases h with
  | unasked hquiet => exact ⟨by simp [hquiet], nofun⟩
  | asking hquiet =>
    refine ⟨by simp [hquiet], fun act next hq => ?_⟩
    cases hq
    rfl
  | failed hdeeds => exact ⟨by simp [hdeeds], nofun⟩
  | found hik hkj hdeeds _ hrest =>
    obtain ⟨hlength, hgoes⟩ := hrest.prompt
    refine ⟨?_, hgoes⟩
    rw [deeds_append hik hkj, hdeeds, List.length_append]
    exact Nat.add_le_add_left hlength 1

/-- Under a context that has ended, opening the socket, listing the pages and attaching fail with
its end and contact nobody where no discovery is needed; where one is, a server is asked first. -/
theorem approach_under_ended (hr : r.Admissible) {q : Program (Except CommandError a.Result)}
    (hended : ((r.world i).endOf ctx).isSome)
    (h : r.Runs task i (a.op ctx endpoint).run j q) :
    r.ApproachUnderEnded ctx endpoint task i j a q where
  governed hgoverned := h.failsAtLook hr (Approach.heeds hgoverned) hended
  ungoverned hdiscovers := h.discovers hr hdiscovers hended
  prompt := by
    cases hdiscovers : a.discovers endpoint with
    | true => exact (h.discovers hr hdiscovers hended).prompt
    | false =>
      obtain ⟨hlength, hgoes⟩ := (h.failsAtLook hr (Approach.heeds hdiscovers) hended).prompt
      exact ⟨Nat.le_succ_of_le hlength, hgoes⟩

/-- Whether every approach under a context that has ended fails with its end and contacts
nobody. -/
def ApproachesGoverned (r : Run) : Prop :=
  ∀ (ctx : Context) (endpoint : Endpoint) (task : TaskId) (i j : Nat) (a : Approach)
    (q : Program (Except CommandError a.Result)), ((r.world i).endOf ctx).isSome →
      r.Runs task i (a.op ctx endpoint).run j q → r.FailsAtLook ctx .command task i j q

/-- An endpoint with discovery pages. -/
def localEndpoint : Endpoint :=
  .http "[::1]" 9222 false

/-- The address at which it lists its targets. -/
def localListing : Url where
  scheme := .http
  user := []
  password := []
  host := .ipv6 [0, 0, 0, 0, 0, 0, 0, 1]
  port := some 9222
  path := ["json".toList, "list".toList]
  query := none
  fragment := none

/-- A listing of the targets by way of discovery, under a context that was cancelled before. -/
def cancelledListing : Run where
  start := .initial [] .none
  transitions :=
    [.newScope none, .cancel 0,
      .spawn (Browser.pages ⟨0, none⟩ localEndpoint >>= printTargets).task, .step 0]

theorem cancelledListing_admissible : cancelledListing.Admissible := by
  refine admissible_of_admits ⟨trivial, ⟨by decide, nofun⟩, ?_, trivial, trivial⟩
  exact .bind (.op_bind (Browser.pages_orderly ..) fun _ => printTargets_orderly _) fun _ =>
    .done _

theorem localListing_fetch : ((Approach.pages).op ⟨0, none⟩ localEndpoint).run =
    .act (.get (Discovery.origin localListing) (Discovery.target localListing)) fun answer =>
      (Program.done (Discovery.fetched (Approach.pages).form
        (localEndpoint.text ++ (Approach.pages).path) localListing answer)).bind
          (carry (Approach.sequel ⟨0, none⟩ localEndpoint .pages)) := by
  rw [Approach.op_run rfl, Discovery.fetch_of_read _ (u := localListing) (by decide +kernel)
    (by decide)]
  rfl

theorem cancelledListing_runs : ∃ text, cancelledListing.Runs 0 3
    ((Approach.pages).op ⟨0, none⟩ localEndpoint).run 4
      (.done (.error (.discovery (localEndpoint.text ++ "/json/list") text))) := by
  have hbegins : (cancelledListing.world 3).tasks[0]? =
      some (.running (((Approach.pages).op ⟨0, none⟩ localEndpoint).run.bind fun found =>
        (carry printTargets found).bind fun r => .done (.invocation r))) := by
    rw [← bind_assoc, ← run_bind]
    rfl
  have hdoes : cancelledListing.Does 3 0
      (.get (Discovery.origin localListing) (Discovery.target localListing)) none := by
    rw [localListing_fetch] at hbegins
    show (cancelledListing.world 3).deed? (.step 0) = _
    simp only [World.deed?, hbegins, bind_act]
    rfl
  refine ⟨(Discovery.Failure.noAnswer localListing.text).message, ⟨_, hbegins⟩, by decide, ?_⟩
  have hdeeds := deeds_succ_of_does (i := 3)
    (d := ⟨.get (Discovery.origin localListing) (Discovery.target localListing), none⟩)
    (Nat.le_refl 3) hdoes
  rw [hdeeds, deeds_self, localListing_fetch]
  exact .cons (.nil _)

theorem approach_under_ended_cancelledListing : cancelledListing.Admissible ∧
    ((cancelledListing.world 3).endOf ⟨0, none⟩).isSome ∧ ∃ text,
      cancelledListing.ApproachUnderEnded ⟨0, none⟩ localEndpoint 0 3 4 .pages
        (.done (.error (.discovery (localEndpoint.text ++ "/json/list") text))) := by
  obtain ⟨text, hruns⟩ := cancelledListing_runs
  exact ⟨cancelledListing_admissible, by decide, text,
    approach_under_ended cancelledListing_admissible (by decide) hruns⟩

/-- The server is asked, and what it does not answer is the error, though the context was
cancelled long before. -/
theorem cancelledListing_asks :
    cancelledListing.Admissible ∧ ¬ cancelledListing.ApproachesGoverned := by
  obtain ⟨text, hruns⟩ := cancelledListing_runs
  refine ⟨cancelledListing_admissible, fun h => ?_⟩
  have hfails := h _ _ _ _ _ _ _ (by decide) hruns
  generalize hq : Program.done (Except.error (CommandError.discovery _ text)) = q at hfails
  cases hfails with
  | looking => cases hq
  | failed => cases hq

end Run

end PagePilot
