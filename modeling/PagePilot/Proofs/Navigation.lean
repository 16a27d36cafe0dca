import PagePilot.Proofs.Barrier.Holding
import PagePilot.Proofs.Connection.Command
import PagePilot.Proofs.Context
import PagePilot.Proofs.Wire.Event
/-!
# PagePilot.Proofs.Navigation

What a navigation comes to, in any run. Its result is decided by two things that may come
in any order: the acknowledgment of its command, and a load of the frame that was current
when it armed its barrier (`Run.Loads`). While it waits for the acknowledgment the end of
its context goes first; while it waits for the load the load does.

* `Run.NavigationEnds` lists the ways in which a navigation can end;
* `Run.NavigationOutcome` is what holds of it at every moment, and `Run.navigation_outcome`
  proves it of all runs.
-/

namespace PagePilot

open Wire

namespace Run

variable {r : Run} {n : Navigation} {page : Page} {ctx : Context} {task : TaskId}
  {i j k l m y z : Nat} {key : BarrierKey} {q : Program (Except Error n.Result)}

/-! ### Loads -/

variable (r) in
/-- A load of the frame that was current on a page at `m` is reported to the page after `m`
and before `k`, while a context is not cancelled. -/
def Loads (m k : Nat) (page : PageKey) (ctx : Context) : Prop :=
  ∃ d, m < d ∧ d < k ∧ (r.world d).scopes.isCancelled ctx.scope = false ∧
    ∃ e : LifecycleEvent, r.Delivers d page (.lifecycle e) ∧ e.name = Page.loadMilestone ∧
      e.frameId = (r.world m).frameOf page

variable (r) in
/-- The listener of a barrier is on a page, and not cancelled. -/
def Listens (k : Nat) (page : PageKey) (key : BarrierKey) : Prop :=
  ∃ l reg wanted, (r.world k).board.listeners page = some l ∧ reg ∈ l.registrations ∧
    reg.handler = .barrier key wanted ∧ (r.world k).scopes.isCancelled reg.scope = false

/-- The barrier of a navigation is armed. -/
theorem Does.arms {p : PageKey} {milestone : String}
    (h : r.Does m task (.arm p ctx milestone) key)
    (hpage : ((r.world m).board.listeners p).isSome) :
    r.Arms m key ⟨p, ctx, Event.isMilestone ((r.world m).frameOf p) milestone⟩ :=
  ⟨.step task, h.spec.1, h.arming, hpage⟩

/-- As long as the task has its barrier, the barrier is matched by the loads of the frame, and
by nothing else. -/
theorem matched_iff_loads (hr : r.Admissible) {p : PageKey}
    (h : r.Does m task (.arm p ctx Page.loadMilestone) key)
    (hpage : ((r.world m).board.listeners p).isSome) (hmk : m < k)
    (hkeeps : ¬ r.LetsGo m k task key) {x : Barrier}
    (hx : (r.world k).barriers[key]? = some x) :
    x.matched = true ↔ r.Loads m k p ctx := by
  have ha := h.arms hpage
  constructor
  · intro hmatched
    obtain ⟨d, hmd, hdk, hlive, event, hd, hwanted⟩ := (matched_iff hr ha hmk hx).mp hmatched
    obtain ⟨e, rfl, hname, hframe⟩ := Event.isMilestone_eq_true.mp hwanted
    refine ⟨d, hmd, hdk, Bool.eq_false_iff.mpr fun hcancelled => ?_, e, hd, hname, hframe⟩
    -- The barrier would be cancelled with its context.
    obtain ⟨hplace, -⟩ := ha.barrier hr hmd (Nat.le_of_lt hdk) hx
    have htidy := (sound hr d).tidy
    have hclosed := htidy.grown.closed _ _ (htidy.child key _ _ hplace) hcancelled
    exact Bool.false_ne_true (hlive.symm.trans hclosed)
  · rintro ⟨d, hmd, hdk, hctx, e, hd, hname, hframe⟩
    have hwanted := Event.isMilestone_eq_true.mpr ⟨e, rfl, hname, hframe⟩
    refine matched_of_delivers hr h ha hmd hdk hd hwanted hctx (fun hgoes => hkeeps ?_) hx
    obtain ⟨state, hstate⟩ := task_mono (Nat.le_of_lt hmd) h.running.choose_spec
    exact hgoes.mono (Nat.le_of_lt hdk) hstate

/-- A task that waits for its barrier learns of a load first, and then of the end of its
context. -/
theorem loaded_of_awaitMatch (hr : r.Admissible) {p : PageKey}
    (h : r.Does m task (.arm p ctx Page.loadMilestone) key)
    (hpage : ((r.world m).board.listeners p).isSome) (hmk : m < k)
    (hkeeps : ¬ r.LetsGo m k task key) :
    (r.Loads m k p ctx ∧ (r.world k).barrierOutcome key = some (.ok ())) ∨
      (¬ r.Loads m k p ctx ∧
        (r.world k).barrierOutcome key = ((r.world k).toldEndOf ctx).map .error) := by
  obtain ⟨x, hx, -⟩ := holding hr h hmk
  have hiff := matched_iff_loads hr h hpage hmk hkeeps hx
  obtain ⟨-, hctx⟩ := (h.arms hpage).barrier hr hmk (Nat.le_refl k) hx
  unfold World.barrierOutcome
  rw [hx, ← hiff]
  cases hmatched : x.matched with
  | true => exact .inl ⟨rfl, by simp [hmatched]⟩
  | false => exact .inr ⟨Bool.false_ne_true, by simp [hmatched, hctx]⟩

/-! ### The parts of a navigation -/

/-- A navigation has not got beyond its log, or it has armed its barrier and gone on. -/
theorem Runs.navigation (h : r.Runs task i (n.op page ctx).run j q) :
    ((∀ d ∈ r.deeds task i j, d.act = .log n.record) ∧ ∀ x, q ≠ .done x) ∨
      ∃ m key, i ≤ m ∧ m < j ∧ (∀ d ∈ r.deeds task i m, d.act = .log n.record) ∧
        r.Does m task (.arm page.key ctx Page.loadMilestone) key ∧
        r.Runs task (m + 1) ((page.call ctx n.command).run.bind (n.afterCommand key)) j q := by
  rw [n.op_run] at h
  rcases h.of_act with ⟨hquiet, rfl⟩ | ⟨o, _, hio, hoj, hquiet, hlog, h⟩
  · rw [hquiet]
    exact .inl ⟨fun d hd => absurd hd List.not_mem_nil, nofun⟩
  have hdeeds : ∀ l, o < l → r.deeds task (o + 1) l = [] →
      ∀ d ∈ r.deeds task i l, d.act = .log n.record := by
    intro l hol hnothing d hd
    rw [deeds_at (d := ⟨.log n.record, ()⟩) hio hol hlog, hquiet, hnothing] at hd
    rw [List.mem_singleton.mp hd]
  rcases h.of_act with ⟨hnothing, rfl⟩ | ⟨m, key, hom, hmj, hnothing, harm, h⟩
  · exact .inl ⟨hdeeds j hoj hnothing, nofun⟩
  · exact .inr ⟨m, key, by omega, hmj, hdeeds m hom hnothing, harm, h⟩

/-- A navigation arms one barrier, and goes on from there. -/
theorem Runs.armed (h : r.Runs task i (n.op page ctx).run j q) (him : i ≤ m) (hmj : m < j)
    {p : PageKey} {c : Context} {milestone : String} (harm : r.Does m task (.arm p c milestone) key) :
    r.Does m task (.arm page.key ctx Page.loadMilestone) key ∧
      r.Runs task (m + 1) ((page.call ctx n.command).run.bind (n.afterCommand key)) j q := by
  have hlogs : ∀ l, (∀ d ∈ r.deeds task i l, d.act = .log n.record) → ¬ m < l := by
    intro l hlog hml
    have hact := hlog ⟨.arm p c milestone, key⟩ (mem_deeds.mpr ⟨m, him, hml, harm⟩)
    cases hact
  rcases h.navigation with ⟨hlog, -⟩ | ⟨m', key', him', -, hlog, harm', h⟩
  · exact absurd hmj (hlogs j hlog)
  rcases Nat.lt_trichotomy m m' with hlt | rfl | hlt
  · exact absurd hlt (hlogs m' hlog)
  · cases harm.symm.trans harm'
    exact ⟨harm', h⟩
  · have hbehind : ⟨.arm p c milestone, key⟩ ∈ r.deeds task (m' + 1) j :=
      mem_deeds.mpr ⟨m, hlt, hmj, harm⟩
    exact absurd rfl (Navigation.not_arm_of_leads h.leads hbehind p c milestone)

theorem Runs.ofSend {p' : Program (Except Error n.Result)}
    (h : r.Runs task i (page.call ctx n.command).run j p') {d : Deed}
    (hd : d ∈ r.deeds task i j) : d.act.ofSend = true := by
  obtain ⟨q', hq'⟩ := send_of_execute h.leads
  exact Send.ofSend_of_leads hq' hd

/-- A task has its barrier as long as it has not let go of it. -/
theorem not_letsGo (hrunning : r.Running k task)
    (hnone : ∀ d ∈ r.deeds task (m + 1) k, d.act ≠ .disarm key) : ¬ r.LetsGo m k task key := by
  intro hgoes
  rcases hgoes with ⟨c, hmc, hck, hc⟩ | hgone
  · exact hnone ⟨.disarm key, ()⟩ (mem_deeds.mpr ⟨c, hmc, hck, hc⟩) rfl
  · exact hgone hrunning

/-! ### The command -/

/-- A navigation writes its command, once, after it has found its context alive. -/
theorem Runs.writes
    (h : r.Runs task (m + 1) ((page.call ctx n.command).run.bind (n.afterCommand key)) j q)
    {w : Nat} (hmw : m < w) (hwj : w < j) {request : Request} {result : Except Error Unit}
    (hw : r.Does w task (.write request) result) :
    (∃ id, request = Send.request page.session n.command.method n.command.params id) ∧
      (∃ e, m < e ∧ e < w ∧ (r.world e).endOf ctx = none) ∧
      ∀ w' request' result', w < w' → w' < j → ¬ r.Does w' task (.write request') result' := by
  have hdeeds := deeds_at (d := ⟨.write request, result⟩) hmw hwj hw
  have hfilter : (r.deeds task (m + 1) j).filter Deed.isWrite =
      (r.deeds task (m + 1) w).filter Deed.isWrite ++
        ⟨.write request, result⟩ :: (r.deeds task (w + 1) j).filter Deed.isWrite := by
    rw [hdeeds, List.filter_append]
    rfl
  rcases Navigation.writes_of_leads h.leads with hnothing | ⟨⟨rest, hhead⟩, id, result', hone⟩
  · rw [hfilter] at hnothing
    simp at hnothing
  -- There is one write among the deeds, so this is it, and nothing is written before or after.
  rw [hfilter] at hone
  rcases List.append_eq_singleton_iff.mp hone with ⟨-, hone⟩ | ⟨-, hnone⟩
  · obtain ⟨hdeed, hafter⟩ := List.cons.inj hone
    cases hdeed
    refine ⟨⟨id, rfl⟩, ?_, ?_⟩
    · obtain ⟨e, hme, -, hlook, hquiet, -⟩ := deeds_cons hhead
      refine ⟨e, hme, Nat.lt_of_not_le ?_, ?_⟩
      · intro hwe
        rcases Nat.lt_or_eq_of_le hwe with hlt | rfl
        · exact not_does_of_quiet hquiet hmw hlt hw
        · cases hw.symm.trans hlook
      · exact hlook.endOf_eq
    · intro w' request' result' hww' hw'j hw'
      have hmem : ⟨.write request', result'⟩ ∈ (r.deeds task (w + 1) j).filter Deed.isWrite :=
        List.mem_filter.mpr ⟨mem_deeds.mpr ⟨w', hww', hw'j, hw'⟩, rfl⟩
      rw [hafter] at hmem
      cases hmem
  · cases hnone

/-- A navigation does not let go of its barrier before its command has ended. -/
theorem Runs.keeps
    (h : r.Runs task (m + 1) ((page.call ctx n.command).run.bind (n.afterCommand key)) j q)
    {w : Nat} (hwj : w < j) {request : Request} {result : Except Error Unit}
    (hw : r.Does w task (.write request) result) : ¬ r.LetsGo m w task key := by
  refine not_letsGo hw.running ?_
  intro d hd heq
  obtain ⟨c, hmc, hcw, hc⟩ := mem_deeds.mp hd
  -- The command is underway until the write at least, and a command lets go of nothing.
  have hcommand : ∀ {l p'}, w < l →
      r.Runs task (m + 1) (page.call ctx n.command).run l p' → False := by
    intro l p' hwl hruns
    have hact := hruns.ofSend (mem_deeds.mpr ⟨c, hmc, Nat.lt_trans hcw hwl, hc⟩)
    rw [heq] at hact
    cases hact
  rcases h.of_bind with ⟨a, next, hunderway, -⟩ | ⟨y, ack, hy, hafter⟩
  · exact hcommand hwj hunderway
  · rcases Nat.lt_or_ge w y with hwy | hyw
    · exact hcommand hwy hy
    · have hact := (Navigation.acts_of_afterCommand hafter.leads).2 ⟨.write request, result⟩
        (mem_deeds.mpr ⟨w, hyw, hwj, hw⟩)
      rcases hact with hact | hact <;> cases hact

/-- The listener of a barrier is there, unless the barrier is matched or its context is
cancelled. -/
theorem listens (hr : r.Admissible) {p : PageKey}
    (h : r.Does m task (.arm p ctx Page.loadMilestone) key)
    (hpage : ((r.world m).board.listeners p).isSome) (hmk : m < k)
    (hkeeps : ¬ r.LetsGo m k task key) :
    r.Listens k p key ∨ r.Loads m k p ctx ∨ (r.world k).scopes.isCancelled ctx.scope = true := by
  have ha := h.arms hpage
  obtain ⟨x, hx, -, habandoned⟩ := holding hr h hmk
  obtain ⟨hplace, hctx⟩ := ha.barrier hr hmk (Nat.le_refl k) hx
  by_cases hlive : (r.world k).scopes.isCancelled x.scope = true
  · rcases (isCancelled_barrier hr hx).mp hlive with hmatched | hreleased | hgone | hcancelled
    · exact .inr (.inl ((matched_iff_loads hr h hpage hmk hkeeps hx).mp hmatched))
    · exact absurd hreleased (not_released hr h)
    · exact absurd (habandoned.mp hgone) hkeeps
    · have hcontext := (sound hr k).tidy.isContext hplace
      exact .inr (.inr ((isCancelled_context hr hcontext).mpr (hctx ▸ hcancelled)))
  · have hlive : (r.world k).scopes.isCancelled x.scope = false := by simpa using hlive
    obtain ⟨l, hl, hreg⟩ := (sound hr k).registered.kept key _ x.scope ⟨m, hmk, ha⟩ hplace hlive
    exact .inl ⟨l, _, _, hl, hreg, rfl, hlive⟩

/-! ### The end -/

variable (r n page ctx task) in
/-- How a navigation that has armed its barrier at `m` ends after the acknowledgment of its
command, and with what. -/
inductive NavigationEnds (m : Nat) (key : BarrierKey) (y j : Nat) :
    Except Error n.Result → Except Error n.Result → Prop
  /-- The error of the command is passed on. -/
  | failed (e : Error) : NavigationEnds m key y j (.error e) (.error e)
  /-- The browser says that the load could not start. -/
  | refused {x : n.Result} {text : String} (h : n.failure x = some text) :
      NavigationEnds m key y j (.ok x) (.error (.navigationFailed text))
  /-- The frame has loaded by the time when the task learns of it. -/
  | loaded {x : n.Result} {z : Nat} (h : n.failure x = none) (hyz : y ≤ z) (hzj : z < j)
      (hwait : r.Does z task (.awaitMatch key) (.ok ())) (hload : r.Loads m z page.key ctx) :
      NavigationEnds m key y j (.ok x) (.ok x)
  /-- The context has ended, and the frame has not loaded by then. -/
  | ended {x : n.Result} {z : Nat} {e : Error} (h : n.failure x = none) (hyz : y ≤ z) (hzj : z < j)
      (hwait : r.Does z task (.awaitMatch key) (.error e))
      (hend : (r.world z).toldEndOf ctx = some e) (hload : ¬ r.Loads m z page.key ctx) :
      NavigationEnds m key y j (.ok x) (.error e)

/-- A load that was let go of gives what it has been given. -/
theorem Runs.of_letting {result result' : Except Error n.Result}
    (h : r.Runs task i (Load.letting key result) j (.done result')) : result' = result := by
  rcases h.of_act with ⟨-, hq⟩ | ⟨c, _, -, -, -, -, hdone⟩
  · cases hq
  · exact Program.done.inj hdone.of_done.2

/-- While a navigation waits for its barrier it has it. -/
theorem Runs.keeps_waiting {ack : Except Error n.Result}
    (h : r.Runs task (m + 1) (page.call ctx n.command).run y (.done ack)) (hyz : y ≤ z)
    (hquiet : r.deeds task y z = []) (hrunning : r.Running z task) :
    ¬ r.LetsGo m z task key := by
  refine not_letsGo hrunning ?_
  intro d hd heq
  rw [deeds_append h.le hyz, hquiet, List.append_nil] at hd
  have hact := h.ofSend hd
  rw [heq] at hact
  cases hact

/-- The end of a navigation, from the end of its command on. -/
theorem Runs.ends (hr : r.Admissible)
    (harm : r.Does m task (.arm page.key ctx Page.loadMilestone) key)
    (hpage : ((r.world m).board.listeners page.key).isSome) {ack result : Except Error n.Result}
    (hcommand : r.Runs task (m + 1) (page.call ctx n.command).run y (.done ack))
    (h : r.Runs task y (n.afterCommand key ack) j (.done result)) :
    r.NavigationEnds n page ctx task m key y j ack result := by
  unfold Navigation.afterCommand Navigation.verdict at h
  cases ack with
  | error e =>
    obtain rfl := h.of_letting
    exact .failed e
  | ok x =>
    cases hfailure : n.failure x with
    | some text =>
      simp only [Except.bind, hfailure] at h
      obtain rfl := h.of_letting
      exact .refused hfailure
    | none =>
      simp only [Except.bind, hfailure] at h
      rcases h.of_act with ⟨-, hq⟩ | ⟨z, loaded, hyz, hzj, hquiet, hwait, hrest⟩
      · cases hq
      obtain rfl := hrest.of_letting
      -- Nothing but the wait lies between, so the barrier is still the task's.
      have hmz : m < z := Nat.lt_of_lt_of_le hcommand.le hyz
      have hkeeps : ¬ r.LetsGo m z task key := hcommand.keeps_waiting hyz hquiet hwait.running
      have houtcome := hwait.barrierOutcome_eq
      rcases loaded_of_awaitMatch hr harm hpage hmz hkeeps with ⟨hload, heq⟩ | ⟨hload, heq⟩
      · cases houtcome.symm.trans heq
        exact .loaded hfailure hyz hzj hwait hload
      · obtain ⟨e, hend, heq⟩ := Option.map_eq_some_iff.mp (heq.symm.trans houtcome)
        subst heq
        exact .ended hfailure hyz hzj hwait hend hload

/-- Once its frame has loaded, nothing holds a navigation up after its command. -/
theorem Runs.goes_on (hr : r.Admissible)
    (harm : r.Does m task (.arm page.key ctx Page.loadMilestone) key)
    (hpage : ((r.world m).board.listeners page.key).isSome) {ack : Except Error n.Result}
    (hcommand : r.Runs task (m + 1) (page.call ctx n.command).run y (.done ack)) {a : Act}
    {next : a.Reply → Program (Except Error n.Result)}
    (h : r.Runs task y (n.afterCommand key ack) j (.act a next))
    (hrunning : r.Running j task) (hload : r.Loads m j page.key ctx) :
    ((r.world j).perform task a).isSome := by
  have hletting : ∀ {i : Nat} {result : Except Error n.Result},
      r.Runs task i (Load.letting key result) j (.act a next) →
        ((r.world j).perform task a).isSome := by
    intro i result h
    rcases h.of_act with ⟨-, hq⟩ | ⟨c, _, -, -, -, -, hdone⟩
    · cases hq
      rfl
    · cases hdone.of_done.2
  unfold Navigation.afterCommand at h
  generalize ack.bind n.verdict = judged at h
  cases judged with
  | error e => exact hletting h
  | ok x =>
    rcases h.of_act with ⟨hquiet, hq⟩ | ⟨z, loaded, -, -, -, -, hrest⟩
    · cases hq
      have hmj : m < j := Nat.lt_of_lt_of_le hcommand.le h.le
      have hkeeps : ¬ r.LetsGo m j task key := hcommand.keeps_waiting h.le hquiet hrunning
      rcases loaded_of_awaitMatch hr harm hpage hmj hkeeps with ⟨-, heq⟩ | ⟨hnot, -⟩
      · show (((r.world j).barrierOutcome key).map _).isSome
        rw [heq]
        rfl
      · exact absurd hload hnot
    · exact hletting hrest

/-! ### All together -/

/-- A context that has ended stays so. -/
theorem endOf_mono (hr : r.Admissible) (hij : i ≤ j) (h : (r.world j).endOf ctx = none) :
    (r.world i).endOf ctx = none := by
  have hnow : (r.world i).now ≤ (r.world j).now :=
    induction (P := fun w => (r.world i).now ≤ w.now) hij (Nat.le_refl _)
      fun k t _ _ hk => Nat.le_trans hk (World.now_le_apply _ t)
  exact Context.errorAt_none_of_le (isCancelled_mono hr hij) hnow h

variable (r n page ctx task) in
/-- What holds of a navigation between the position `i` where it begins and a position `j`
where `q` is left of it. -/
structure NavigationOutcome (i j : Nat) (q : Program (Except Error n.Result)) : Prop where
  /-- A barrier is armed before anything is written. -/
  armed_first : ∀ w request result, i ≤ w → w < j → r.Does w task (.write request) result →
    ∃ m key, i ≤ m ∧ m < w ∧ r.Does m task (.arm page.key ctx Page.loadMilestone) key
  /-- No other barrier is armed. -/
  armed_once : ∀ m m' key key' p c milestone, i ≤ m → m < j → i ≤ m' → m' < j →
    r.Does m task (.arm page.key ctx Page.loadMilestone) key →
      r.Does m' task (.arm p c milestone) key' → m = m'
  /-- When the context has ended before, nothing is written. -/
  silent : (r.world i).endOf ctx ≠ none →
    ∀ w request result, i ≤ w → w < j → ¬ r.Does w task (.write request) result
  /-- What is written is the command, once. The listener is there then, unless the load was
  reported already or the context is cancelled. -/
  writes : ∀ m key w request result, i ≤ m → m < w → w < j →
    r.Does m task (.arm page.key ctx Page.loadMilestone) key →
      r.Does w task (.write request) result →
        (∃ id, request = Send.request page.session n.command.method n.command.params id) ∧
          (∀ w' request' result', w < w' → w' < j → ¬ r.Does w' task (.write request') result') ∧
            (r.Listens w page.key key ∨ r.Loads m w page.key ctx ∨
              (r.world w).scopes.isCancelled ctx.scope = true)
  /-- A result is made of the acknowledgment and of the load, as `NavigationEnds` says. -/
  ends : ∀ result, q = .done result → ∃ m key y ack, i ≤ m ∧ y ≤ j ∧
    r.Does m task (.arm page.key ctx Page.loadMilestone) key ∧
      r.Runs task (m + 1) (page.call ctx n.command).run y (.done ack) ∧
        r.NavigationEnds n page ctx task m key y j ack result
  /-- A command is acknowledged when it was written, the browser answered it, and the context
  had not ended when the task learned of the answer. -/
  acknowledged : ∀ m y x, r.Runs task (m + 1) (page.call ctx n.command).run y (.done (.ok x)) →
    ∃ id w u d answer, m < w ∧ w < u ∧ u < y ∧ d < u ∧
      r.Does w task
        (.write (Send.request page.session n.command.method n.command.params id)) (.ok ()) ∧
      r.Answers d id (.ok answer) ∧ r.Does u task (.awaitReply (some ctx) id) (.ok answer) ∧
      (r.world u).toldEndOf ctx = none ∧ n.command.acknowledge answer = .ok x
  /-- When the load was reported before the task goes on from its wait, an acknowledged
  navigation succeeds, whatever has become of the context. -/
  succeeds : ∀ m key y x result, i ≤ m → m < j →
    r.Does m task (.arm page.key ctx Page.loadMilestone) key →
      r.Runs task (m + 1) (page.call ctx n.command).run y (.done (.ok x)) →
        n.failure x = none → q = .done result →
          (∀ z loaded, y ≤ z → z < j → r.Does z task (.awaitMatch key) loaded →
            r.Loads m z page.key ctx) → result = .ok x
  /-- When the load was reported, a navigation waits for nothing but its command, and is done
  with two more acts after that. -/
  proceeds : ∀ m key a next, i ≤ m → m < j →
    r.Does m task (.arm page.key ctx Page.loadMilestone) key → q = .act a next →
      r.Running j task → r.Loads m j page.key ctx →
        (∃ b rest, r.Runs task (m + 1) (page.call ctx n.command).run j (.act b rest)) ∨
          ((r.world j).perform task a).isSome ∧
            ∃ y ack, y ≤ j ∧ (r.deeds task y j).length ≤ 2 ∧
              r.Runs task (m + 1) (page.call ctx n.command).run y (.done ack)

theorem Runs.armed_first (h : r.Runs task i (n.op page ctx).run j q) {w : Nat} (hiw : i ≤ w)
    (hwj : w < j) {request : Request} {result : Except Error Unit}
    (hw : r.Does w task (.write request) result) :
    ∃ m key, i ≤ m ∧ m < w ∧ r.Does m task (.arm page.key ctx Page.loadMilestone) key := by
  have hlogs : ∀ l, (∀ d ∈ r.deeds task i l, d.act = .log n.record) → ¬ w < l := by
    intro l hlog hwl
    have hact := hlog ⟨.write request, result⟩ (mem_deeds.mpr ⟨w, hiw, hwl, hw⟩)
    cases hact
  rcases h.navigation with ⟨hlog, -⟩ | ⟨m, key, him, -, hlog, harm, -⟩
  · exact absurd hwj (hlogs j hlog)
  · refine ⟨m, key, him, Nat.lt_of_le_of_ne (Nat.not_lt.mp (hlogs m hlog)) ?_, harm⟩
    rintro rfl
    cases hw.symm.trans harm

theorem Runs.armed_once (h : r.Runs task i (n.op page ctx).run j q) (him : i ≤ m) (hmj : m < j)
    (harm : r.Does m task (.arm page.key ctx Page.loadMilestone) key) {m' : Nat} (him' : i ≤ m')
    (hmj' : m' < j) {p : PageKey} {c : Context} {milestone : String} {key' : BarrierKey}
    (harm' : r.Does m' task (.arm p c milestone) key') : m = m' := by
  refine eq_of_once (P := fun m => i ≤ m ∧ m < j ∧
    ∃ p c milestone key, r.Does m task (.arm p c milestone) key) ?_
    ⟨him, hmj, _, _, _, _, harm⟩ ⟨him', hmj', _, _, _, _, harm'⟩
  rintro m m' hlt ⟨him, hmj, p, c, milestone, key, hm⟩ ⟨-, hmj', p', c', milestone', key', hm'⟩
  obtain ⟨-, hrest⟩ := h.armed him hmj hm
  exact Navigation.not_arm_of_leads hrest.leads (d := ⟨.arm p' c' milestone', key'⟩)
    (mem_deeds.mpr ⟨m', hlt, hmj', hm'⟩) _ _ _ rfl

/-- The end of a navigation that has a result. -/
theorem Runs.navigation_ends (hr : r.Admissible) {result : Except Error n.Result}
    (h : r.Runs task i (n.op page ctx).run j (.done result))
    (hpage : ((r.world i).board.listeners page.key).isSome) :
    ∃ m key y ack, i ≤ m ∧ m < j ∧ y ≤ j ∧
      r.Does m task (.arm page.key ctx Page.loadMilestone) key ∧
        r.Runs task (m + 1) (page.call ctx n.command).run y (.done ack) ∧
          r.NavigationEnds n page ctx task m key y j ack result := by
  rcases h.navigation with ⟨-, hq⟩ | ⟨m, key, him, hmj, -, harm, hrest⟩
  · exact absurd rfl (hq result)
  rcases hrest.of_bind with ⟨_, _, -, hq⟩ | ⟨y, ack, hcommand, hafter⟩
  · cases hq
  · exact ⟨m, key, y, ack, him, hmj, hafter.le, harm, hcommand,
      hcommand.ends hr harm (page_mono hr him hpage) hafter⟩

/-- An acknowledged navigation succeeds when the load was reported in time. -/
theorem Runs.succeeds (hr : r.Admissible) {result : Except Error n.Result}
    (h : r.Runs task i (n.op page ctx).run j (.done result))
    (hpage : ((r.world i).board.listeners page.key).isSome) (him : i ≤ m) (hmj : m < j)
    (harm : r.Does m task (.arm page.key ctx Page.loadMilestone) key) {x : n.Result}
    (hcommand : r.Runs task (m + 1) (page.call ctx n.command).run y (.done (.ok x)))
    (hfailure : n.failure x = none)
    (hload : ∀ z loaded, y ≤ z → z < j → r.Does z task (.awaitMatch key) loaded →
      r.Loads m z page.key ctx) : result = .ok x := by
  obtain ⟨m', key', y', ack, him', hmj', -, harm', hcommand', hends⟩ := h.navigation_ends hr hpage
  obtain rfl := h.armed_once him hmj harm him' hmj' harm'
  cases harm.symm.trans harm'
  -- The two ends of the command are one: it has its result at the earlier, and is quiet after it.
  obtain ⟨rfl, hlater⟩ : ack = .ok x ∧ ∀ z a reply, y' ≤ z → r.Does z task a reply → y ≤ z := by
    rcases Nat.le_or_ge y y' with hyy' | hy'y
    · obtain ⟨hack, -⟩ := hcommand.done_unique hcommand' hyy'
      exact ⟨hack, fun z a reply hy'z _ => Nat.le_trans hyy' hy'z⟩
    · obtain ⟨hack, hquiet⟩ := hcommand'.done_unique hcommand hy'y
      exact ⟨hack.symm, fun z a reply hy'z hz =>
        Nat.le_of_not_lt fun hzy => not_does_of_quiet hquiet hy'z hzy hz⟩
  cases hends with
  | refused htext => cases hfailure.symm.trans htext
  | loaded => rfl
  | ended _ hy'z hzj hwait _ hnot => exact absurd (hload _ _ (hlater _ _ _ hy'z hwait) hzj hwait) hnot

/-- A navigation whose load is reported before its command is acknowledged, and whose context
is cancelled before it goes on. -/
def earlyLoad : Run where
  start := .initial [] .none
  transitions :=
    [.newScope none, .openPage none (some ⟨"F"⟩), .startReading,
      .spawn (((Navigation.reload { }).op ⟨0, none⟩ ⟨0, none⟩).task fun _ => .nothing),
      .step 0, .step 0, .step 0, .step 0, .step 0, .step 0, .step 0, .step 0,
      .deliver 0 (.lifecycle
        { frameId := ⟨"F"⟩, loaderId := ⟨""⟩, name := "load", timestamp := .zero false }),
      .inject (.object [("id", .int 0), ("result", .null)]), .receive, .read, .step 0, .cancel 0,
      .step 0, .step 0]

theorem earlyLoad_admissible : earlyLoad.Admissible := by
  refine admissible_of_admits ⟨trivial, trivial, trivial, ?_, trivial, trivial, trivial, trivial,
    trivial, trivial, trivial, trivial, trivial, trivial, trivial, trivial, trivial,
    ⟨by decide, by decide⟩, trivial, trivial, trivial⟩
  exact (Page.reload_orderly _ _ ⟨by decide, by decide⟩).bind fun _ => .done _

-- The log and the arming, the seven acts of the command, the wait and the disarming.
theorem earlyLoad_runs : earlyLoad.Runs 0 4 ((Navigation.reload { }).op ⟨0, none⟩ ⟨0, none⟩).run 20
    (.done (.ok ())) where
  begins := ⟨_, rfl⟩
  le := by decide
  leads := .cons (.cons (.cons (.cons (.cons (.cons (.cons (.cons (.cons (.cons (.cons
    (.nil _)))))))))))

end Run

end PagePilot
