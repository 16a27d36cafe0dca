import PagePilot.Proofs.Operation.Navigation
/-!
# PagePilot.Proofs.Sequence.Errand

Errands: what one request is sent for. An errand says what its request looks like on the
wire, which answers are a success, and whether a load belongs to it.

This module is about paths. A send asks for one errand at most, and not after a deed that
failed (`Send.asksFor`); a navigation does the same, whatever it does around its command
(`Navigation.asksFor`). What holds of the world at each of these deeds is added in
`PagePilot.Proofs.Sequence.Pursuit`.
-/

namespace PagePilot

open Wire Program

/-! ### Errands -/

/-- What a request shows on the wire besides its id and its parameters. -/
def Wire.Request.wire (request : Request) : String × Option SessionId :=
  (request.method, request.sessionId)

/-- What one request is sent for. -/
structure Errand where
  method : String
  session : Option SessionId
  /-- Whether an answer is a success. -/
  accepts : Json → Bool
  /-- The page that has to load before the errand is done, if one has to. -/
  loads : Option PageKey

namespace Errand

/-- What its request shows on the wire. -/
def wire (e : Errand) : String × Option SessionId :=
  (e.method, e.session)

/-- The errand of a command. A success is an acknowledgment that reads as one, and that passes
a check. -/
def of (command : Command α) (session : Option SessionId) (check : α → Bool) : Errand where
  method := command.method
  session := session
  accepts answer :=
    match command.acknowledge answer with
    | .ok x => check x
    | .error _ => false
  loads := none

theorem accepts_of (session : Option SessionId) {command : Command α} {check : α → Bool}
    {answer : Json} {x : α} (h : command.acknowledge answer = .ok x) :
    (Errand.of command session check).accepts answer = check x := by
  simp only [Errand.of, h]

end Errand

/-- The errand of a navigation: its command is to be taken, and then the page is to load. -/
def Navigation.errand (n : Navigation) (page : Page) : Errand :=
  { Errand.of n.command page.session fun x => (n.failure x).isNone with loads := some page.key }

/-! ### Deeds -/

/-- Whether an answer to a discovery is a listing with a page in it. -/
def Discovery.listsPage (answer : Option HttpAnswer) : Bool :=
  match answer.map (readAnswer targetsForm) with
  | some (.ok targets) => targets.any TargetInfo.isPage
  | _ => false

namespace Deed

/-- The request that is written, whether that succeeds or not. -/
def request? : Deed → Option Request
  | ⟨.write request, _⟩ => some request
  | _ => none

/-- A deed that fails: a context has ended or the connection is closed, the socket cannot be
opened, a request cannot be written or has no answer, a load is not awaited to its end, a file
cannot be written, or no page is found. -/
def fails : Deed → Bool
  | ⟨.endOf _, ended⟩ => ended.isSome
  | ⟨.isClosed, closed⟩ => closed
  | ⟨.connect _, .error _⟩ => true
  | ⟨.sleep _ _, .error _⟩ => true
  | ⟨.write _, .error _⟩ => true
  | ⟨.awaitReply _ _, .error _⟩ => true
  | ⟨.awaitMatch _, .error _⟩ => true
  | ⟨.save _ _, .error _⟩ => true
  | ⟨.get _ _, answer⟩ => !Discovery.listsPage answer
  | _ => false

end Deed

/-! ### Asking -/

/-- A path along which nothing is written, or the request of one errand is written once, and
nothing has failed before. -/
inductive Errand.AskedBy (e : Errand) : List Deed → Prop
  | silent {path : List Deed} (h : path.filterMap Deed.request? = []) : e.AskedBy path
  | asked {before after : List Deed} {request : Request} {result : Except Error Unit}
      (hwire : request.wire = e.wire) (hsound : ∀ d ∈ before, d.fails = false)
      (hbefore : before.filterMap Deed.request? = [])
      (hafter : after.filterMap Deed.request? = []) :
      e.AskedBy (before ++ ⟨.write request, result⟩ :: after)

namespace Errand.AskedBy

variable {e : Errand} {path : List Deed}

theorem cons {d : Deed} (hd : d.fails = false) (hsilent : d.request? = none)
    (h : e.AskedBy path) : e.AskedBy (d :: path) := by
  cases h with
  | silent h => exact .silent (by rw [List.filterMap_cons_none hsilent, h])
  | @asked before after request result hwire hsound hbefore hafter =>
    rw [← List.cons_append]
    refine .asked hwire (List.forall_mem_cons.mpr ⟨hd, hsound⟩) ?_ hafter
    rw [List.filterMap_cons_none hsilent, hbefore]

theorem append {rest : List Deed} (h : e.AskedBy path)
    (hrest : rest.filterMap Deed.request? = []) : e.AskedBy (path ++ rest) := by
  cases h with
  | silent h => exact .silent (by rw [List.filterMap_append, h, hrest, List.append_nil])
  | asked hwire hsound hbefore hafter =>
    rw [List.append_assoc, List.cons_append]
    refine .asked hwire hsound hbefore ?_
    rw [List.filterMap_append, hafter, hrest, List.append_nil]

end Errand.AskedBy

/-! ### Sends and navigations -/

namespace Send

variable {ctx : Context} {session : Option SessionId} {method : String} {params : Json}
  {path : List Deed} {q : Program Reply} {e : Errand}

/-- A send asks for one errand at most. -/
theorem asksFor (he : e.wire = (method, session))
    (h : (send (some ctx) session method params).run.Leads path q) : e.AskedBy path := by
  have hasked : ∀ (id : Nat) (result : Except Error Unit) (after : List Deed),
      after.filterMap Deed.request? = [] →
        e.AskedBy ((⟨.endOf ctx, none⟩ :: (parked id ++ [⟨.isClosed, false⟩])) ++
          ⟨.write (request session method params id), result⟩ :: after) :=
    fun id result after hafter => .asked he.symm (by simp [parked, Deed.fails]) rfl hafter
  cases sending_of_leads h with
  | failing id error => exact hasked id (.error error) [] rfl
  | failed id error => exact hasked id (.error error) [⟨.unpark id, ()⟩] rfl
  | awaiting id => exact hasked id (.ok ()) [] rfl
  | answered id reply => exact hasked id (.ok ()) [⟨.awaitReply (some ctx) id, reply⟩] rfl
  | start | ended | looking | refused | numbering | parking | lookingAgain | turningBack
      | turnedBack | writing =>
    exact .silent rfl

/-- A send that has its answer has not failed on the way. -/
theorem sound_of_answer {answer : Json}
    (h : (send (some ctx) session method params).run.Leads path (.done (.ok answer))) :
    ∀ d ∈ path, d.fails = false := by
  have hending := ending_of_leads h
  cases hending with
  | answered id => simp [looked, written, parked, Deed.fails]

end Send

/-- A command that is acknowledged has not failed on the way. -/
theorem execute_sound_of_ok {ctx : Context} {session : Option SessionId} {command : Command α}
    {path : List Deed} {x : α}
    (h : (execute ctx session command).run.Leads path (.done (.ok x))) :
    ∀ d ∈ path, d.fails = false := by
  rw [execute_run] at h
  obtain ⟨path₁, reply, path₂, rfl, hsend, hread⟩ := h.of_bind_done
  obtain ⟨rfl, hdone⟩ := hread.of_done
  cases reply with
  | error e => cases hdone
  | ok answer =>
    rw [List.append_nil]
    exact Send.sound_of_answer hsend

namespace Navigation

variable {n : Navigation} {page : Page} {ctx : Context} {path : List Deed}
  {q : Program (Except Error n.Result)}

/-- A navigation asks for its errand at most. -/
theorem asksFor (h : (n.op page ctx).run.Leads path q) : (n.errand page).AskedBy path := by
  rw [n.op_run] at h
  rcases h.of_act with ⟨rfl, -⟩ | ⟨_, armed, rfl, harm⟩
  · exact .silent rfl
  refine .cons rfl rfl ?_
  rcases harm.of_act with ⟨rfl, -⟩ | ⟨barrier, triggered, rfl, htriggered⟩
  · exact .silent rfl
  refine .cons rfl rfl ?_
  rcases htriggered.of_bind with ⟨q', hq', -⟩ | ⟨path₁, x, path₂, rfl, hx, hrest⟩
  · obtain ⟨q'', hsend⟩ := send_of_execute hq'
    exact Send.asksFor (e := n.errand page) rfl hsend
  · obtain ⟨q'', hsend⟩ := send_of_execute hx
    refine (Send.asksFor (e := n.errand page) rfl hsend).append ?_
    refine List.filterMap_eq_nil_iff.mpr ?_
    rintro ⟨a, reply⟩ hd
    rcases (acts_of_afterCommand hrest).2 _ hd with rfl | rfl <;> rfl

/-- A navigation that succeeds after its command has its acknowledgment and its load. -/
theorem sound_of_afterCommand {barrier : BarrierKey} {ack : Except Error n.Result} {x : n.Result}
    (h : (n.afterCommand barrier ack).Leads path (.done (.ok x))) :
    (∃ y, ack = .ok y) ∧ ∀ d ∈ path, d.fails = false := by
  have hletting : ∀ {result : Except Error n.Result} {path : List Deed},
      (Load.letting barrier result).Leads path (.done (.ok x)) →
        result = .ok x ∧ path = [⟨.disarm barrier, ()⟩] := by
    intro result path h
    obtain ⟨_, rest, rfl, hrest⟩ := h.of_act_done
    obtain ⟨rfl, hdone⟩ := hrest.of_done
    exact ⟨(Program.done.inj hdone).symm, rfl⟩
  unfold afterCommand at h
  cases ack with
  | error e => cases (hletting h).1
  | ok y =>
    refine ⟨⟨y, rfl⟩, ?_⟩
    generalize (Except.ok y).bind n.verdict = judged at h
    cases judged with
    | error e => cases (hletting h).1
    | ok z =>
      obtain ⟨loaded, rest, rfl, hrest⟩ := h.of_act_done
      obtain ⟨hloaded, rfl⟩ := hletting hrest
      cases loaded with
      | error e => cases hloaded
      | ok _ => simp [Deed.fails]

/-- A navigation that succeeds has not failed on the way. -/
theorem sound_of_ok {x : n.Result} (h : (n.op page ctx).run.Leads path (.done (.ok x))) :
    ∀ d ∈ path, d.fails = false := by
  rw [n.op_run] at h
  obtain ⟨_, armed, rfl, harm⟩ := h.of_act_done
  obtain ⟨barrier, triggered, rfl, htriggered⟩ := harm.of_act_done
  obtain ⟨path₁, ack, path₂, rfl, hcommand, hafter⟩ := htriggered.of_bind_done
  obtain ⟨⟨y, rfl⟩, hrest⟩ := sound_of_afterCommand hafter
  refine List.forall_mem_cons.mpr ⟨rfl, List.forall_mem_cons.mpr ⟨rfl, ?_⟩⟩
  exact List.forall_mem_append.mpr ⟨execute_sound_of_ok hcommand, hrest⟩

end Navigation

end PagePilot
