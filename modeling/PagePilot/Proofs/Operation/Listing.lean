import PagePilot.Proofs.Connection.Issuing
import PagePilot.Proofs.Discovery
import PagePilot.Proofs.Operation.Approach
import PagePilot.Proofs.Output.Printing
import PagePilot.Proofs.Wire.Target
/-!
# PagePilot.Proofs.Operation.Listing

Listing targets, and attaching to one, in any run. A browser lists its targets by its discovery
pages or by its socket; `Run.Listing` says that a task has been given the same descriptions either
way. Both are read as the same targets, or both are not read (`Run.listings_agree`), and what is
made of them does not depend on the way either: the pages are those that are listed as such, and
the first of them is the one that is attached to when no target is wanted.
-/

namespace PagePilot

open Wire Program

/-! ### Acts of a kind -/

/-- An act that asks a server for a page. -/
def Act.gets : Act → Bool
  | .get .. => true
  | _ => false

/-- An act that writes a request of a method. -/
def Act.requests (method : String) : Act → Bool
  | .write request => request.method = method
  | _ => false

namespace Program.Spares

variable {ctx : Context} {page : Page} {method : String}

theorem requests_execute (session : Option SessionId) {command : Command α}
    (h : command.method ≠ method) :
    (PagePilot.execute ctx session command).run.Spares (Act.requests method) := by
  intro path q hpath d hd
  obtain ⟨q', hsend⟩ := send_of_execute hpath
  refine Bool.eq_false_iff.mpr ?_
  intro hrequests
  have hmem : d.act.requests method = true → d ∈ path.filter Deed.isWrite := by
    intro hact
    refine List.mem_filter.mpr ⟨hd, ?_⟩
    obtain ⟨a, reply⟩ := d
    cases a <;> first | rfl | cases hact
  rcases Send.writes_of_leads hsend with hnone | ⟨-, id, result, hone⟩
  · have hd := hmem hrequests
    rw [hnone] at hd
    cases hd
  · have hd := hmem hrequests
    rw [hone, List.mem_singleton] at hd
    subst hd
    exact h (of_decide_eq_true hrequests)

theorem gets_execute (session : Option SessionId) (command : Command α) :
    (PagePilot.execute ctx session command).run.Spares Act.gets := by
  intro path q hpath d hd
  obtain ⟨q', hsend⟩ := send_of_execute hpath
  have hact := Send.ofSend_of_leads hsend hd
  obtain ⟨a, reply⟩ := d
  cases a <;> first | rfl | cases hact

theorem requests_listed (endpoint : Endpoint) (h : method ≠ "Target.getTargets") :
    (Browser.listed ctx endpoint).run.Spares (Act.requests method) := by
  cases endpoint with
  | webSocket url => exact .asCommand (requests_execute none h.symm)
  | http host port secure =>
    simp only [Browser.listed]
    rcases Discovery.fetch_run Discovery.targetsForm _ with ⟨text, hfetch⟩ | ⟨u, hfetch⟩
    · rw [hfetch]
      exact .done _
    · rw [hfetch]
      exact .act rfl fun _ => .done _

end Program.Spares

/-! ### Attaching -/

namespace Browser

variable {ctx : Context}

/-- Without a wanted target, what is done with the targets that are listed. -/
def attachListed (ctx : Context) (endpoint : Endpoint)
    (targets : Except CommandError (List TargetInfo)) : Program (Except CommandError Page) :=
  match targets.bind (pick endpoint) with
  | .error e => .done (.error e)
  | .ok id => (Page.attach ctx id).asCommand.run

theorem attach_run (endpoint : Endpoint) : (attach ctx endpoint none).run =
    (listed ctx endpoint).run.bind (attachListed ctx endpoint) := by
  refine (run_bind _ _).trans ?_
  rw [choose_run, bind_assoc]
  refine congrArg (Program.bind _) (funext ?_)
  intro targets
  show carry _ (targets.bind (pick endpoint)) = attachListed ctx endpoint targets
  unfold attachListed
  cases targets.bind (pick endpoint) <;> rfl

theorem attachListed_ok (endpoint : Endpoint) (targets : List TargetInfo) :
    attachListed ctx endpoint (.ok targets) =
      match targets.filter TargetInfo.isPage with
      | target :: _ => (Page.attach ctx target.id).asCommand.run
      | [] => .done (.error (.noPageTarget endpoint.text)) := by
  unfold attachListed Except.bind pick
  dsimp only
  cases targets.filter TargetInfo.isPage <;> rfl

theorem attach_run_some (endpoint : Endpoint) (id : String) :
    (attach ctx endpoint (some id)).run = (Page.attach ctx ⟨id⟩).asCommand.run :=
  rfl

end Browser

/-- What is done on a session. -/
def Page.opening (ctx : Context) (session : SessionId) : Op Page := do
  let key ← Op.perform (.openPage session)
  let page : Page := { key, session := some session }
  page.enable ctx
  return page

/-- What is done with the answer to an attachment. -/
def Page.attached (ctx : Context) (answer : Except Error SessionId) :
    Program (Except CommandError Page) :=
  (carry (Page.opening ctx) answer).bind fun result => .done (result.mapError .command)

theorem Page.attach_asCommand_run (ctx : Context) (id : TargetId) :
    (Page.attach ctx id).asCommand.run =
      (execute ctx none (.attachToTarget id true)).run.bind (Page.attached ctx) := by
  show (Page.attach ctx id).run.bind _ = _
  rw [Page.attach, run_bind, bind_assoc]
  rfl

namespace Program.Spares

variable {ctx : Context}

theorem attached {kind : Act → Bool} (h : ∀ session, (Page.opening ctx session).run.Spares kind)
    (answer : Except Error SessionId) : (Page.attached ctx answer).Spares kind := by
  refine bind ?_ fun _ => done _
  cases answer with
  | error e => exact done _
  | ok session => exact h session

/-- Once there is a session nobody attaches again, nor lists the targets. -/
theorem requests_opening {method : String} (hpage : "Page.enable" ≠ method)
    (hlifecycle : "Page.setLifecycleEventsEnabled" ≠ method) (htree : "Page.getFrameTree" ≠ method)
    (session : SessionId) : (Page.opening ctx session).run.Spares (Act.requests method) :=
  op_bind (act rfl fun _ => done _) fun _ => op_bind
    (op_bind (requests_execute _ hpage) fun _ => op_bind (requests_execute _ hlifecycle) fun _ =>
      op_bind (requests_execute _ htree) fun _ => act rfl fun _ => done _)
    fun _ => done _

theorem gets_opening (session : SessionId) : (Page.opening ctx session).run.Spares Act.gets :=
  op_bind (act rfl fun _ => done _) fun _ => op_bind
    (op_bind (gets_execute _ _) fun _ => op_bind (gets_execute _ _) fun _ =>
      op_bind (gets_execute _ _) fun _ => act rfl fun _ => done _)
    fun _ => done _

theorem gets_attach (id : TargetId) : (Page.attach ctx id).asCommand.run.Spares Act.gets := by
  rw [Page.attach_asCommand_run]
  exact bind (gets_execute _ _) fun answer => attached gets_opening answer

end Program.Spares

/-! ### In runs -/

namespace Run

variable (r : Run)

/-- The descriptions that a browser lists to a task between two positions. A discovery page has
them as they are; an answer that comes by the socket has them with the other key for the id, and
like all that comes that way with the members of objects in key order. -/
inductive Listing (ctx : Context) (task : TaskId) (i j : Nat) (items : List Json) : Endpoint → Prop
  | served {host : String} {port : Nat} {secure : Bool} {origin path text : String}
      {answer : HttpAnswer} {g : Nat} (hig : i ≤ g) (hgj : g < j)
      (hget : r.Does g task (.get origin path) (some answer))
      (hstatus : 200 ≤ answer.status ∧ answer.status < 300)
      (htext : String.fromUTF8? ⟨answer.body.toArray⟩ = some text)
      (hreads : Json.readRaw text.toList = .ok (.array items)) :
      Listing ctx task i j items (.http host port secure)
  | told {url : String} {id u : Nat} {members : List (String × Json)} (hiu : i ≤ u) (huj : u < j)
      (hreply : r.FirstReply ctx task i u id (.ok (Json.object members).canonical))
      (hkeys : (members.map Prod.fst).Nodup)
      (hinfos : ("targetInfos", .array (items.map TargetInfo.retold)) ∈ members) :
      Listing ctx task i j items (.webSocket url)

variable {r} {ctx : Context} {endpoint : Endpoint} {task : TaskId} {i j k : Nat}
  {items : List Json}

/-- What a discovery page lists is read as the targets that its descriptions read as. -/
theorem readAnswer_eq_ok {answer : HttpAnswer} {text : String} {targets : List TargetInfo}
    (hstatus : 200 ≤ answer.status ∧ answer.status < 300)
    (htext : String.fromUTF8? ⟨answer.body.toArray⟩ = some text)
    (hreads : Json.readRaw text.toList = .ok (.array items)) :
    Discovery.readAnswer Discovery.targetsForm answer = .ok targets ↔
      TargetInfo.AreRead items targets := by
  rw [Discovery.readAnswer, if_pos hstatus, Discovery.readBody_of_read _ htext hreads,
    TargetInfo.AreRead, ← Decoder.items_eq_ok]
  exact mapError_eq_ok

/-- A listing that has asked a server is over. -/
theorem Runs.done_of_get {host : String} {port : Nat} {secure : Bool}
    {q : Program (Except CommandError (List TargetInfo))}
    (h : r.Runs task i (Browser.listed ctx (.http host port secure)).run j q) {g : Nat}
    (hig : i ≤ g) (hgj : g < j) {origin path : String} {answer : Option HttpAnswer}
    (hget : r.Does g task (.get origin path) answer) :
    ∃ url u, q = .done (Discovery.fetched Discovery.targetsForm url u answer) := by
  simp only [Browser.listed] at h
  rcases Discovery.fetch_run Discovery.targetsForm _ with ⟨text, hfetch⟩ | ⟨u, hfetch⟩
  · rw [hfetch] at h
    exact absurd hget (not_does_of_quiet h.of_done.1 hig hgj)
  rw [hfetch] at h
  rcases h.of_act with ⟨hquiet, -⟩ | ⟨k, answer', hik, hkj, hquiet, hdoes, hrest⟩
  · exact absurd hget (not_does_of_quiet hquiet hig hgj)
  obtain ⟨hafter, rfl⟩ := hrest.of_done
  have hkg : k ≤ g := Nat.le_of_not_lt fun hgk => not_does_of_quiet hquiet hig hgk hget
  have hgk : g ≤ k := Nat.le_of_not_lt fun hkg => not_does_of_quiet hafter hkg hgj hget
  obtain rfl := Nat.le_antisymm hkg hgk
  cases hdoes.symm.trans hget
  exact ⟨_, u, rfl⟩

/-- Whoever is given a listing has read it, and goes on with what it reads as. -/
theorem Runs.given (hr : r.Admissible) (hitems : ∀ item ∈ items, TargetInfo.Distinct item)
    (hlisting : r.Listing ctx task i j items endpoint)
    {f : Except CommandError (List TargetInfo) → Program β} {q : Program β}
    (h : r.Runs task i ((Browser.listed ctx endpoint).run.bind f) j q)
    (hstops : ∀ e, ∃ y, f (.error e) = .done y) (hgets : ∀ x, (f x).Spares Act.gets) :
    ∃ l x, r.Runs task i (Browser.listed ctx endpoint).run l (.done x) ∧ r.Runs task l (f x) j q ∧
      ∀ targets, x = .ok targets ↔ TargetInfo.AreRead items targets := by
  cases hlisting with
  | @served host port secure origin path text answer g hig hgj hget hstatus htext hreads =>
    rcases h.of_bind with ⟨a, next, hlisted, -⟩ | ⟨l, x, hlisted, hrest⟩
    · obtain ⟨_, _, hdone⟩ := hlisted.done_of_get hig hgj hget
      cases hdone
    -- What comes after the listing asks no server.
    have hgl : g < l := by
      refine Nat.lt_of_not_le ?_
      intro hlg
      exact hrest.not_does_of_spares (hgets x) hlg hgj rfl hget
    obtain ⟨url, u, hdone⟩ := hlisted.done_of_get hig hgl hget
    cases hdone
    refine ⟨l, _, hlisted, hrest, ?_⟩
    intro targets
    rw [← readAnswer_eq_ok hstatus htext hreads]
    constructor
    · intro hok
      exact Option.some.inj (Discovery.readAnswer_of_fetched hok)
    · intro hok
      rw [Discovery.fetched, Option.map_some, hok]
  | @told url id u members hiu huj hreply hkeys hinfos =>
    have hasks : r.Runs task i ((execute ctx none .getTargets).run.bind fun answer =>
        f (answer.mapError .command)) j q := by
      have hassoc := bind_assoc (execute ctx none .getTargets).run
        (fun answer => .done (answer.mapError CommandError.command)) f
      exact hassoc ▸ h
    have hgot := hasks.first_reply hr (fun e => hstops _) hiu huj hreply
    rcases h.of_bind with ⟨a, next, hlisted, -⟩ | ⟨l, x, hlisted, hrest⟩
    · rcases hlisted.of_bind with ⟨_, _, hcall, -⟩ | ⟨k, answer, -, hmapped⟩
      · cases hgot.stays hcall huj
      · cases hmapped.of_done.2
    refine ⟨l, x, hlisted, hrest, ?_⟩
    rcases hlisted.of_bind with ⟨_, _, -, hq⟩ | ⟨k, answer, hcall, hmapped⟩
    · cases hq
    cases hmapped.of_done.2
    have hanswer : answer = Command.getTargets.acknowledge (Json.object members).canonical := by
      rcases Nat.le_total k (u + 1) with hle | hle
      · exact (hcall.done_unique hgot hle).1.symm
      · exact (hgot.done_unique hcall hle).1
    intro targets
    rw [← TargetInfo.acknowledge_getTargets hkeys hinfos hitems, hanswer]
    exact mapError_eq_ok

/-- An operation as part of an invocation fails with its own error. -/
theorem Runs.asCommand_error {op : Op α} {e : CommandError}
    (h : r.Runs task i op.asCommand.run j (.done (.error e))) : ∃ cause, e = .command cause := by
  rcases h.of_bind with ⟨_, _, -, hq⟩ | ⟨k, result, -, hmapped⟩
  · cases hq
  exact error_of_mapError (Program.done.inj hmapped.of_done.2).symm

/-- What a browser fails to list with is not that there is no page. -/
theorem Runs.listed_error {e : CommandError}
    (h : r.Runs task i (Browser.listed ctx endpoint).run j (.done (.error e))) (text : String) :
    e ≠ .noPageTarget text := by
  cases endpoint with
  | http host port secure =>
    simp only [Browser.listed] at h
    rcases Discovery.fetch_run Discovery.targetsForm _ with ⟨t, hfetch⟩ | ⟨u, hfetch⟩
    · rw [hfetch] at h
      cases h.of_done.2
      intro heq
      cases heq
    rw [hfetch] at h
    rcases h.of_act with ⟨-, hq⟩ | ⟨k, answer, -, -, -, -, hrest⟩
    · cases hq
    obtain ⟨t, rfl⟩ := Discovery.error_of_fetched (Program.done.inj hrest.of_done.2).symm
    intro heq
    cases heq
  | webSocket url =>
    obtain ⟨cause, rfl⟩ := h.asCommand_error
    intro heq
    cases heq

/-! ### Attachments -/

variable (r) in
/-- All that a task asks to attach to between two positions is one target. -/
def AttachesOnly (id : TargetId) (task : TaskId) (i j : Nat) : Prop :=
  ∀ w request result, i ≤ w → w < j → r.Does w task (.write request) result →
    request.method = "Target.attachToTarget" → ∃ n, request =
      Send.request none "Target.attachToTarget" (Command.attachToTarget id true).params n

variable (r) in
/-- A task asks to attach to nothing between two positions. -/
def AttachesNowhere (task : TaskId) (i j : Nat) : Prop :=
  ∀ w request result, i ≤ w → w < j → r.Does w task (.write request) result →
    request.method ≠ "Target.attachToTarget"

theorem Runs.attachesNowhere {p q : Program α} (h : r.Runs task i p j q)
    (hp : p.Spares (Act.requests "Target.attachToTarget")) : r.AttachesNowhere task i j := by
  intro w request result hiw hwj hw hmethod
  exact h.not_does_of_spares hp hiw hwj (a := .write request) (decide_eq_true hmethod) hw

theorem AttachesNowhere.append (h : r.AttachesNowhere task i k) (h' : r.AttachesNowhere task k j) :
    r.AttachesNowhere task i j := by
  intro w request result hiw hwj hw
  rcases Nat.lt_or_ge w k with hwk | hkw
  · exact h w request result hiw hwk hw
  · exact h' w request result hkw hwj hw

theorem AttachesNowhere.andThen (h : r.AttachesNowhere task i k) {id : TargetId}
    (h' : r.AttachesOnly id task k j) : r.AttachesOnly id task i j := by
  intro w request result hiw hwj hw hmethod
  rcases Nat.lt_or_ge w k with hwk | hkw
  · exact absurd hmethod (h w request result hiw hwk hw)
  · exact h' w request result hkw hwj hw hmethod

/-- An attachment asks for its target, once. -/
theorem Runs.attachesOnly (hr : r.Admissible) {id : TargetId}
    {q : Program (Except CommandError Page)}
    (h : r.Runs task i (Page.attach ctx id).asCommand.run j q) : r.AttachesOnly id task i j := by
  rw [Page.attach_asCommand_run] at h
  intro w request result hiw hwj hw hmethod
  have hcall : ∀ {l p}, r.Runs task i (execute ctx none (.attachToTarget id true)).run l p →
      w < l → ∃ n, request =
        Send.request none "Target.attachToTarget" (Command.attachToTarget id true).params n := by
    intro l p hasks hwl
    obtain ⟨⟨n, hrequest, -⟩, -⟩ := hasks.call_writes hr hiw hwl hw
    exact ⟨n, hrequest⟩
  rcases h.of_bind with ⟨a, next, hasks, -⟩ | ⟨l, answer, hasks, hrest⟩
  · exact hcall hasks hwj
  rcases Nat.lt_or_ge w l with hwl | hlw
  · exact hcall hasks hwl
  · have hspares : (Page.attached ctx answer).Spares (Act.requests "Target.attachToTarget") :=
      .attached (.requests_opening (by decide) (by decide) (by decide)) answer
    exact absurd hw (hrest.not_does_of_spares hspares hlw hwj (decide_eq_true hmethod))

theorem Runs.issues_attach {id : TargetId} {q : Program (Except CommandError Page)}
    (h : r.Runs task i (Page.attach ctx id).asCommand.run j q) :
    r.Issues ctx none (.attachToTarget id true) 5 task i j q := by
  rw [Page.attach_asCommand_run] at h
  exact h.issues_first

/-! ### All together -/

/-- What is left of two programs that list the same descriptions: both have the pages among the
targets that these read as, in the order of the listing, or both have failed, since one of them
does not read. -/
inductive SamePages (items : List Json) : Program (Except CommandError (List TargetInfo)) →
    Program (Except CommandError (List TargetInfo)) → Prop
  | listed {targets : List TargetInfo} (h : TargetInfo.AreRead items targets) :
      SamePages items (.done (.ok (targets.filter (·.kind = "page"))))
        (.done (.ok (targets.filter (·.kind = "page"))))
  | unread {item : Json} {e e' : CommandError} (hmem : item ∈ items)
      (h : ∀ target, TargetInfo.decode item ≠ .ok target) :
      SamePages items (.done (.error e)) (.done (.error e'))

variable (r) in
/-- An attachment to the first page of those that are listed. -/
structure AttachesFirst (ctx : Context) (endpoint : Endpoint) (task : TaskId) (i j : Nat)
    (items : List Json) (q : Program (Except CommandError Page)) : Prop where
  /-- Where there is a page, the first is asked for, unless the context has ended or the
  connection is closed by then, and no other is. -/
  first : ∀ targets target rest, TargetInfo.AreRead items targets →
    targets.filter (·.kind = "page") = target :: rest →
      (∃ l, i ≤ l ∧ l ≤ j ∧ r.Issues ctx none (.attachToTarget target.id true) 5 task l j q) ∧
        r.AttachesOnly target.id task i j
  /-- Where there is none, that is the failure, and nothing is asked for. -/
  nowhere : ∀ targets, TargetInfo.AreRead items targets →
    targets.filter (·.kind = "page") = [] →
      q = .done (.error (.noPageTarget endpoint.text)) ∧ r.AttachesNowhere task i j
  /-- Nor is it where a description does not read. -/
  unread : ∀ item ∈ items, (∀ target, TargetInfo.decode item ≠ .ok target) →
    (∃ e, q = .done (.error e)) ∧ r.AttachesNowhere task i j
  /-- The failure has no other cause. -/
  onlyNowhere : ∀ text, q = .done (.error (.noPageTarget text)) → text = endpoint.text ∧
    ∃ targets, TargetInfo.AreRead items targets ∧
      targets.filter (·.kind = "page") = []

variable (r) in
/-- An attachment to a target that is wanted. -/
structure AttachesWanted (ctx : Context) (id : TargetId) (task : TaskId) (i j : Nat)
    (q : Program (Except CommandError Page)) : Prop where
  issues : r.Issues ctx none (.attachToTarget id true) 5 task i j q
  only : r.AttachesOnly id task i j
  /-- Nothing is listed. -/
  unlisted : (∀ g origin path answer, i ≤ g → g < j → ¬ r.Does g task (.get origin path) answer) ∧
    ∀ w request result, i ≤ w → w < j → r.Does w task (.write request) result →
      request.method ≠ "Target.getTargets"

/-- What holds of two runs that are given listings, one by discovery and one by the socket. -/
structure ListingsAgree (r r' : Run) : Prop where
  /-- The same descriptions come to the same pages. -/
  pages : ∀ (items : List Json) (ctx ctx' : Context) (task task' : TaskId) (i j i' j' : Nat)
    (host : String) (port : Nat) (secure : Bool) (url : String)
    (q q' : Program (Except CommandError (List TargetInfo))),
    (∀ item ∈ items, TargetInfo.Distinct item) →
      r.Runs task i (Browser.pages ctx (.http host port secure)).run j q →
        r.Listing ctx task i j items (.http host port secure) →
          r'.Runs task' i' (Browser.pages ctx' (.webSocket url)).run j' q' →
            r'.Listing ctx' task' i' j' items (.webSocket url) → SamePages items q q'
  /-- Without a wanted target the first of them is attached to. -/
  first : ∀ s, s = r ∨ s = r' → ∀ (items : List Json) (ctx : Context) (endpoint : Endpoint)
    (task : TaskId) (i j : Nat) (q : Program (Except CommandError Page)),
    (∀ item ∈ items, TargetInfo.Distinct item) →
      s.Runs task i (Browser.attach ctx endpoint none).run j q →
        s.Listing ctx task i j items endpoint → s.AttachesFirst ctx endpoint task i j items q
  /-- With one, that is attached to. -/
  wanted : ∀ s, s = r ∨ s = r' → ∀ (id : String) (ctx : Context) (endpoint : Endpoint)
    (task : TaskId) (i j : Nat) (q : Program (Except CommandError Page)),
    s.Runs task i (Browser.attach ctx endpoint (some id)).run j q →
      s.AttachesWanted ctx ⟨id⟩ task i j q

/-- Listed pages are those of the listing. -/
theorem Runs.pages_given (hr : r.Admissible) (hitems : ∀ item ∈ items, TargetInfo.Distinct item)
    (hlisting : r.Listing ctx task i j items endpoint)
    {q : Program (Except CommandError (List TargetInfo))}
    (h : r.Runs task i (Browser.pages ctx endpoint).run j q) :
    ∃ x : Except CommandError (List TargetInfo),
      q = .done (x.map (·.filter TargetInfo.isPage)) ∧
        ∀ targets, x = .ok targets ↔ TargetInfo.AreRead items targets := by
  rw [Browser.pages_run] at h
  obtain ⟨l, x, -, hrest, hx⟩ := h.given hr hitems hlisting (fun e => ⟨_, rfl⟩) fun x => .done _
  exact ⟨x, hrest.of_done.2, hx⟩

theorem samePages {x x' : Except CommandError (List TargetInfo)}
    (hx : ∀ targets, x = .ok targets ↔ TargetInfo.AreRead items targets)
    (hx' : ∀ targets, x' = .ok targets ↔ TargetInfo.AreRead items targets) :
    SamePages items (.done (x.map (·.filter TargetInfo.isPage)))
      (.done (x'.map (·.filter TargetInfo.isPage))) := by
  rcases TargetInfo.areRead_or items with ⟨targets, hread⟩ | ⟨item, hmem, hnone⟩
  · obtain rfl := (hx targets).mpr hread
    obtain rfl := (hx' targets).mpr hread
    exact .listed hread
  have herror : ∀ {y : Except CommandError (List TargetInfo)},
      (∀ targets, y = .ok targets ↔ TargetInfo.AreRead items targets) → ∃ e, y = .error e := by
    intro y hy
    cases y with
    | error e => exact ⟨e, rfl⟩
    | ok targets =>
      obtain ⟨target, htarget⟩ := ((hy targets).mp rfl).exists_of_mem hmem
      exact absurd htarget (hnone target)
  obtain ⟨e, rfl⟩ := herror hx
  obtain ⟨e', rfl⟩ := herror hx'
  exact .unread hmem hnone

section AttachesFirst

variable {q : Program (Except CommandError Page)} {targets : List TargetInfo}

/-- Who could not read the listing has failed with that. -/
theorem AttachesFirst.of_unread {e : CommandError}
    (hnone : ∀ targets, ¬ TargetInfo.AreRead items targets) (he : ∀ text, e ≠ .noPageTarget text)
    (hnowhere : r.AttachesNowhere task i j) :
    r.AttachesFirst ctx endpoint task i j items (.done (.error e)) where
  first targets _ _ hread := absurd hread (hnone targets)
  nowhere targets hread := absurd hread (hnone targets)
  unread _ _ _ := ⟨⟨e, rfl⟩, hnowhere⟩
  onlyNowhere text hq := absurd (Except.error.inj (Program.done.inj hq)) (he text)

theorem not_unread (hread : TargetInfo.AreRead items targets) {item : Json} (hmem : item ∈ items) :
    ¬ ∀ target, TargetInfo.decode item ≠ .ok target := by
  intro hnone
  obtain ⟨target, htarget⟩ := hread.exists_of_mem hmem
  exact hnone target htarget

/-- Who has found no page among the targets has failed with that. -/
theorem AttachesFirst.of_none (hread : TargetInfo.AreRead items targets)
    (hpages : targets.filter TargetInfo.isPage = []) (hnowhere : r.AttachesNowhere task i j) :
    r.AttachesFirst ctx endpoint task i j items
      (.done (.error (.noPageTarget endpoint.text))) where
  first := by
    intro targets' target rest hread' hpages'
    obtain rfl := hread.unique hread'
    cases hpages.symm.trans hpages'
  nowhere _ _ _ := ⟨rfl, hnowhere⟩
  unread _ hmem hnone := absurd hnone (not_unread hread hmem)
  onlyNowhere := by
    intro text hq
    cases hq
    exact ⟨rfl, targets, hread, hpages⟩

/-- Who has found a page has gone on to attach to it. -/
theorem AttachesFirst.of_page (hr : r.Admissible) (hread : TargetInfo.AreRead items targets)
    {target : TargetInfo} {rest : List TargetInfo}
    (hpages : targets.filter TargetInfo.isPage = target :: rest) (hik : i ≤ k)
    (hbefore : r.AttachesNowhere task i k)
    (h : r.Runs task k (Page.attach ctx target.id).asCommand.run j q) :
    r.AttachesFirst ctx endpoint task i j items q where
  first := by
    intro targets' target' rest' hread' hpages'
    obtain rfl := hread.unique hread'
    cases hpages.symm.trans hpages'
    exact ⟨⟨k, hik, h.le, h.issues_attach⟩, hbefore.andThen (h.attachesOnly hr)⟩
  nowhere := by
    intro targets' hread' hpages'
    obtain rfl := hread.unique hread'
    cases hpages.symm.trans hpages'
  unread _ hmem hnone := absurd hnone (not_unread hread hmem)
  onlyNowhere := by
    rintro text rfl
    obtain ⟨cause, hcause⟩ := h.asCommand_error
    cases hcause

/-- The first of the listed pages is attached to. -/
theorem Runs.attachesFirst (hr : r.Admissible)
    (hitems : ∀ item ∈ items, TargetInfo.Distinct item)
    (hlisting : r.Listing ctx task i j items endpoint)
    (h : r.Runs task i (Browser.attach ctx endpoint none).run j q) :
    r.AttachesFirst ctx endpoint task i j items q := by
  rw [Browser.attach_run] at h
  have hgets : ∀ x, (Browser.attachListed ctx endpoint x).Spares Act.gets := by
    intro x
    unfold Browser.attachListed
    split
    · exact .done _
    · exact .gets_attach _
  obtain ⟨l, x, hlisted, hrest, hx⟩ := h.given hr hitems hlisting (fun e => ⟨_, rfl⟩) hgets
  have hbefore : r.AttachesNowhere task i l :=
    hlisted.attachesNowhere (.requests_listed endpoint (by decide))
  cases x with
  | error e =>
    have hnone : ∀ targets, ¬ TargetInfo.AreRead items targets :=
      fun targets hread => nomatch (hx targets).mpr hread
    have hfails : r.Runs task l (.done (.error e)) j q := hrest
    cases hfails.of_done.2
    exact .of_unread hnone hlisted.listed_error
      (hbefore.append (hfails.attachesNowhere (.done _)))
  | ok targets =>
    have hread : TargetInfo.AreRead items targets := (hx targets).mp rfl
    rw [Browser.attachListed_ok] at hrest
    cases hpages : targets.filter TargetInfo.isPage with
    | nil =>
      rw [hpages] at hrest
      cases hrest.of_done.2
      exact .of_none hread hpages (hbefore.append (hrest.attachesNowhere (.done _)))
    | cons target rest =>
      rw [hpages] at hrest
      exact .of_page hr hread hpages hlisted.le hbefore hrest

end AttachesFirst

/-- Two descriptions, as a discovery page has them. -/
def twoListed : List Json :=
  [.object [("type", .string "worker"), ("id", .string "W"), ("title", .string ""),
    ("url", .string "a:w")],
   .object [("title", .string "One"), ("url", .string "a:1"), ("id", .string "T1"),
    ("type", .string "page")]]

/-- The page that one of them describes. -/
def onePage : TargetInfo :=
  { id := ⟨"T1"⟩, kind := "page", title := "One", url := "a:1", webSocketDebuggerUrl := none }

/-- The text of their discovery page. -/
def twoListedText : String :=
  "[\x7b\"type\":\"worker\",\"id\":\"W\",\"title\":\"\",\"url\":\"a:w\"\x7d,"
    ++ "\x7b\"title\":\"One\",\"url\":\"a:1\",\"id\":\"T1\",\"type\":\"page\"\x7d]"

/-- The answer that has it. -/
def twoListedAnswer : HttpAnswer :=
  { status := 200, body := twoListedText.toByteArray.data.toList }

theorem twoListed_distinct : ∀ item ∈ twoListed, TargetInfo.Distinct item := by
  intro item hitem members hmembers
  subst hmembers
  simp only [twoListed, List.mem_cons, List.not_mem_nil, Json.object.injEq, or_false] at hitem
  rcases hitem with rfl | rfl <;> decide

theorem twoListedText_reads : Json.readRaw twoListedText.toList = .ok (.array twoListed) := by
  cbv

theorem twoListedAnswer_text :
    String.fromUTF8? ⟨twoListedAnswer.body.toArray⟩ = some twoListedText := by
  have hbody : (⟨twoListedAnswer.body.toArray⟩ : ByteArray) = twoListedText.toByteArray := rfl
  rw [hbody, String.fromUTF8?, dif_pos twoListedText.isValidUTF8]
  rfl

/-- They are listed by way of discovery. -/
def servedListing : Run where
  start := .initial []
    { reachable := true, authority := "[::1]:9222", pages := [("/json/list", twoListedAnswer)],
      sockets := "/" }
  transitions :=
    [.newScope none, .spawn (Browser.pages ⟨0, none⟩ localEndpoint >>= printTargets).task, .step 0]

theorem servedListing_admissible : servedListing.Admissible := by
  refine admissible_of_admits ⟨trivial, ?_, trivial, trivial⟩
  exact .bind (.op_bind (Browser.pages_orderly ..) fun _ => printTargets_orderly _) fun _ =>
    .done _

theorem servedListing_begins : (servedListing.world 2).tasks[0]? =
    some (.running (((Approach.pages).op ⟨0, none⟩ localEndpoint).run.bind fun found =>
      (carry printTargets found).bind fun r => .done (.invocation r))) := by
  rw [← bind_assoc, ← run_bind]
  rfl

theorem servedListing_get : servedListing.Does 2 0
    (.get (Discovery.origin localListing) (Discovery.target localListing))
      (some twoListedAnswer) := by
  have hbegins := servedListing_begins
  rw [localListing_fetch] at hbegins
  show (servedListing.world 2).deed? (.step 0) = _
  simp only [World.deed?, hbegins, bind_act]
  rfl

theorem servedListing_finds : Discovery.fetched (Approach.pages).form
    (localEndpoint.text ++ (Approach.pages).path) localListing (some twoListedAnswer) =
      .ok [⟨⟨"W"⟩, "worker", "", "a:w", none⟩, onePage] := by
  have hreads : Discovery.readAnswer Discovery.targetsForm twoListedAnswer =
      .ok [⟨⟨"W"⟩, "worker", "", "a:w", none⟩, onePage] :=
    (readAnswer_eq_ok ⟨by decide, by decide⟩ twoListedAnswer_text twoListedText_reads).mpr (by rfl)
  show Discovery.fetched Discovery.targetsForm _ _ _ = _
  rw [Discovery.fetched, Option.map_some, hreads]

theorem servedListing_runs : servedListing.Runs 0 2
    (Browser.pages ⟨0, none⟩ localEndpoint).run 3 (.done (.ok [onePage])) := by
  have hdeeds := deeds_succ_of_does
    (d := ⟨.get (Discovery.origin localListing) (Discovery.target localListing),
      some twoListedAnswer⟩) (Nat.le_refl 2) servedListing_get
  have hends : Program.done (Except.ok [onePage]) =
      (Program.done (Discovery.fetched (Approach.pages).form
        (localEndpoint.text ++ (Approach.pages).path) localListing (some twoListedAnswer))).bind
          (carry (Approach.sequel ⟨0, none⟩ localEndpoint .pages)) := by
    rw [servedListing_finds]
    rfl
  refine ⟨⟨_, servedListing_begins⟩, by decide, ?_⟩
  show ((Approach.pages).op ⟨0, none⟩ localEndpoint).run.Leads _ _
  rw [hdeeds, deeds_self, localListing_fetch, hends]
  exact .cons (.nil _)

/-- They are listed by the socket. -/
def toldListing : Run where
  start := .initial [] .none
  transitions :=
    [.newScope none, .startReading,
      .spawn (Browser.pages ⟨0, none⟩ (.webSocket "ws://h/") >>= printTargets).task,
      .step 0, .step 0, .step 0, .step 0, .step 0, .step 0,
      .inject (Json.object [("id", .int 0), ("result", .object
        [("targetInfos", .array (twoListed.map TargetInfo.retold))])]).canonical,
      .receive, .read, .step 0]

theorem toldListing_admissible : toldListing.Admissible := by
  refine admissible_of_admits ⟨trivial, trivial, ?_, trivial, trivial, trivial, trivial, trivial,
    trivial, trivial, trivial, trivial, trivial, trivial⟩
  exact .bind (.op_bind (Browser.pages_orderly ..) fun _ => printTargets_orderly _) fun _ =>
    .done _

theorem toldListing_runs : toldListing.Runs 0 3
    (Browser.pages ⟨0, none⟩ (.webSocket "ws://h/")).run 13 (.done (.ok [onePage])) := by
  have hbegins : (toldListing.world 3).tasks[0]? =
      some (.running ((Browser.pages ⟨0, none⟩ (.webSocket "ws://h/")).run.bind fun found =>
        (carry printTargets found).bind fun r => .done (.invocation r))) := by
    rw [← bind_assoc, ← run_bind]
    rfl
  refine ⟨⟨_, hbegins⟩, by decide, ?_⟩
  exact .cons (.cons (.cons (.cons (.cons (.cons (.cons (.nil _)))))))

theorem toldListing_told :
    toldListing.Listing ⟨0, none⟩ 0 3 13 twoListed (.webSocket "ws://h/") := by
  have hreply : toldListing.FirstReply ⟨0, none⟩ 0 3 12 0 (.ok (Json.object
      [("targetInfos", .array (twoListed.map TargetInfo.retold))]).canonical) := by
    exact .of_deeds (show toldListing.deed? 12 = _ from rfl) (by decide)
  exact .told (by decide) (by decide) hreply (by decide) (by simp)

end Run

end PagePilot
