import PagePilot.Proofs.Machine.Schedule
import PagePilot.Proofs.Operation.Orderly
/-!
# PagePilot.Proofs.Scenario

Scripted runs of the machine as runs of the world. A script opens contexts and pages, starts tasks,
plays the browser and lets time pass, and everything is run to rest after each of its steps. All
that happens in the course of that is a sequence of transitions, and an admissible one
(`Scenario.performs_run`): what holds of all admissible runs holds of every script.

* A state is kept (`Scenario.State.Kept`) if a run has come to its world, and if what is called a
  context or a page in it is one there. `Scenario.State.Goes` is the step from one kept state to
  another one, and there is one lemma for each thing that a script does;
* `Scenario.Performs` is a run with the positions after each step of a script.
-/

namespace PagePilot

open Wire

/-! ### What tasks end with -/

/-- A task whose outcome is a value has an operation that gave it. -/
theorem Program.Leads.of_task {op : Op α} {value : α → Value} {path : List Deed} {v : Value}
    (h : (op.task value).Leads path (.done (.operation (.ok v)))) :
    ∃ x, value x = v ∧ op.run.Leads path (.done (.ok x)) := by
  obtain ⟨path₁, result, path₂, rfl, hop, hlast⟩ := of_bind_done h
  obtain ⟨rfl, hdone⟩ := hlast.of_done
  rw [List.append_nil]
  cases result with
  | error e => cases hdone
  | ok x =>
    cases hdone
    exact ⟨x, rfl, hop⟩

theorem handsOpened_task {op : Op α} {value : α → Value} (hvalue : ∀ x key, value x ≠ .page key) :
    (op.task value).HandsOpened := by
  intro path key h
  obtain ⟨x, hx, -⟩ := h.of_task
  exact absurd hx (hvalue x key)

theorem handsOpened_invocation (op : CommandOp Unit) : op.task.HandsOpened := by
  intro path key h
  obtain ⟨_, result, _, -, -, hlast⟩ := Program.Leads.of_bind_done h
  cases hlast.of_done.2

/-- What an operation gives that is two in a row, if it gives something. -/
theorem Program.Leads.of_run_bind {x : ExceptT ε Program α} {f : α → ExceptT ε Program β}
    {path : List Deed} {b : β} (h : (x >>= f).run.Leads path (.done (.ok b))) :
    ∃ path₁ a path₂, path = path₁ ++ path₂ ∧ x.run.Leads path₁ (.done (.ok a)) ∧
      (f a).run.Leads path₂ (.done (.ok b)) := by
  rw [run_bind] at h
  obtain ⟨path₁, result, path₂, hpath, hx, hf⟩ := of_bind_done h
  cases result with
  | error e => cases hf.of_done.2
  | ok a => exact ⟨path₁, a, path₂, hpath, hx, hf⟩

theorem Program.Leads.of_op_perform {a : Act} {path : List Deed} {reply : a.Reply}
    (h : (Op.perform a).run.Leads path (.done (.ok reply))) : path = [⟨a, reply⟩] := by
  obtain ⟨reply', rest, rfl, hrest⟩ := of_act_done h
  obtain ⟨rfl, hdone⟩ := of_done hrest
  cases hdone
  rfl

/-- A page that was attached to was opened on the way. -/
theorem opens_of_attach {ctx : Context} {target : TargetId} {path : List Deed} {page : Page}
    (h : (Page.attach ctx target).run.Leads path (.done (.ok page))) :
    ∃ session, ⟨.openPage session, page.key⟩ ∈ path := by
  obtain ⟨_, session, _, rfl, -, h⟩ := h.of_run_bind
  obtain ⟨_, key, _, rfl, hopen, h⟩ := h.of_run_bind
  obtain ⟨_, _, _, rfl, -, h⟩ := h.of_run_bind
  cases h.of_done.2
  cases hopen.of_op_perform
  exact ⟨session, by simp⟩

namespace Scenario

theorem handsOpened_attach (ctx : Context) (target : TargetId) :
    ((attachAndHandOver ctx target).task .page).HandsOpened := by
  intro path key h
  obtain ⟨key', hkey, hop⟩ := h.of_task
  cases hkey
  obtain ⟨_, page, _, rfl, hattach, h⟩ := hop.of_run_bind
  obtain ⟨_, _, _, rfl, -, h⟩ := h.of_run_bind
  cases h.of_done.2
  obtain ⟨session, hmem⟩ := opens_of_attach hattach
  exact ⟨session, List.mem_append_left _ hmem⟩

theorem handsOpened_call (page : Page) (ctx : Context) (call : PageCall) :
    (call.task page ctx).HandsOpened := by
  cases call <;> exact handsOpened_task nofun

/-! ### Names -/

section Names

variable {α : Type} {names : Names α} {name : String} {entry : String × α} {value : α}

theorem mem_of_mem_drop (h : entry ∈ names.drop name) : entry ∈ names :=
  (List.mem_filter.mp h).1

theorem mem_of_mem_bind (h : entry ∈ names.bind name value) :
    entry ∈ names ∨ entry = (name, value) :=
  (List.mem_cons.mp h).elim .inr fun h => .inl (mem_of_mem_drop h)

theorem mem_of_lookup (h : names.lookup name = some value) : (name, value) ∈ names := by
  obtain ⟨before, after, rfl, -⟩ := List.lookup_eq_some_iff.mp h
  simp

end Names

/-! ### From one state to another -/

namespace State

/-- A run has come to the world of a state, and what has a name is there. -/
structure Kept (r : Run) (s : State) : Prop where
  comes : r.ComesTo s.world
  contexts : ∀ entry ∈ s.contexts, s.world.IsContext entry.2.scope
  pages : ∀ entry ∈ s.pages, entry.2.key < s.world.pages.length

/-- Every run that has come to one state can be gone on with to come to another one. -/
def Goes (s s' : State) : Prop :=
  ∀ r : Run, s.Kept r → ∃ more, s'.Kept (r.extend more)

variable {s s' s'' : State} {r : Run}

theorem Kept.context (h : s.Kept r) {name : String} {ctx : Context}
    (hname : s.contexts.lookup name = some ctx) : s.world.IsContext ctx.scope :=
  h.contexts _ (mem_of_lookup hname)

theorem Kept.page (h : s.Kept r) {name : String} {page : Page}
    (hname : s.pages.lookup name = some page) : page.key < s.world.pages.length :=
  h.pages _ (mem_of_lookup hname)

namespace Goes

theorem refl (s : State) : s.Goes s :=
  fun r hr => ⟨[], r.extend_nil.symm ▸ hr⟩

theorem trans (h : s.Goes s') (h' : s'.Goes s'') : s.Goes s'' := by
  intro r hr
  obtain ⟨more, hmore⟩ := h r hr
  obtain ⟨after, hafter⟩ := h' _ hmore
  exact ⟨more ++ after, r.extend_extend more after ▸ hafter⟩

/-- A state whose world goes on, and in which what has a name had it before or is there. -/
theorem of_world (hworld : ∀ r, s.Kept r → s.world.Goes s'.world)
    (hcontexts : ∀ r, s.Kept r → ∀ entry ∈ s'.contexts,
      entry ∈ s.contexts ∨ s'.world.IsContext entry.2.scope)
    (hpages : ∀ r, s.Kept r → ∀ entry ∈ s'.pages,
      entry ∈ s.pages ∨ entry.2.key < s'.world.pages.length) : s.Goes s' := by
  intro r hr
  obtain ⟨more, hmore⟩ := hworld r hr r hr.comes
  refine ⟨more, hmore, fun entry hentry => ?_, fun entry hentry => ?_⟩
  · rcases hcontexts r hr entry hentry with hold | hnew
    · exact hr.comes.isContext hmore (hr.contexts entry hold)
    · exact hnew
  · rcases hpages r hr entry hentry with hold | hnew
    · exact hr.comes.page hmore (hr.pages entry hold)
    · exact hnew

/-- A state with the same names, whose world goes on. -/
theorem of_names (hworld : ∀ r, s.Kept r → s.world.Goes s'.world)
    (hcontexts : s'.contexts = s.contexts) (hpages : s'.pages = s.pages) : s.Goes s' :=
  of_world hworld (fun _ _ _ hentry => .inl (hcontexts ▸ hentry))
    fun _ _ _ hentry => .inl (hpages ▸ hentry)

end Goes

theorem goes_foldl {β : Type} {f : State → β → State} (hf : ∀ s b, Goes s (f s b)) (bs : List β)
    (s : State) : s.Goes (bs.foldl f s) := by
  induction bs generalizing s with
  | nil => exact .refl s
  | cons b rest ih => exact (hf s b).trans (ih _)

/-- Anything may happen that is admissible and neither starts a task nor moves one on. -/
theorem goes_apply (s : State) (t : Transition) (ht : ∀ r, s.Kept r → t.Admissible s.world)
    (hstep : ∀ task, t ≠ .step task) (hspawn : ∀ p, t ≠ .spawn p) : s.Goes (s.apply t) :=
  .of_names (fun r hr => .apply t (fun _ _ => ht r hr) hstep fun p hp => absurd hp (hspawn p))
    rfl rfl

theorem goes_spawn (s : State) (name : String) {program : Program Outcome}
    (horderly : ∀ r, s.Kept r → program.Orderly s.world.IsContext)
    (hopened : program.HandsOpened) : s.Goes (s.spawn name program) :=
  .of_names
    (fun r hr => .apply (.spawn program) (fun _ _ => horderly r hr) nofun
      fun p hp => by cases hp; exact hopened)
    rfl rfl

/-! ### Pages and barriers with names -/

theorem world_dropPage (s : State) (name : String) : s.world.Goes (s.dropPage name).world := by
  unfold dropPage
  split
  · exact .refl _
  · exact .apply (.dropPage _) (fun _ _ => trivial) nofun nofun

theorem pages_dropPage (s : State) (name : String) :
    (s.dropPage name).world.pages.length = s.world.pages.length := by
  unfold dropPage
  split
  · rfl
  · exact List.length_modify ..

theorem contexts_dropPage (s : State) (name : String) :
    (s.dropPage name).contexts = s.contexts := by
  unfold dropPage
  split <;> rfl

theorem mem_pages_dropPage {name : String} {entry : String × Page}
    (h : entry ∈ (s.dropPage name).pages) : entry ∈ s.pages := by
  unfold dropPage at h
  split at h
  · exact h
  · exact mem_of_mem_drop h

theorem goes_dropPage (s : State) (name : String) : s.Goes (s.dropPage name) :=
  .of_world (fun _ _ => s.world_dropPage name)
    (fun _ _ _ hentry => .inl (s.contexts_dropPage name ▸ hentry))
    fun _ _ _ hentry => .inl (mem_pages_dropPage hentry)

theorem goes_namePage (s : State) (name : String) {page : Page}
    (hpage : ∀ r, s.Kept r → page.key < s.world.pages.length) : s.Goes (s.namePage name page) := by
  refine .of_world (fun _ _ => s.world_dropPage name)
    (fun _ _ _ hentry => .inl (s.contexts_dropPage name ▸ hentry)) fun r hr entry hentry => ?_
  rcases mem_of_mem_bind hentry with hold | rfl
  · exact .inl (mem_pages_dropPage hold)
  · exact .inr (s.pages_dropPage name ▸ hpage r hr)

theorem goes_dropBarrier (s : State) (name : String) : s.Goes (s.dropBarrier name) := by
  unfold dropBarrier
  split
  · exact .refl s
  · exact .of_names (fun _ _ => .apply (.dropHalves _) (fun _ _ => trivial) nofun nofun) rfl rfl

theorem contexts_dropBarrier (s : State) (name : String) :
    (s.dropBarrier name).contexts = s.contexts := by
  unfold dropBarrier
  split <;> rfl

theorem names_dropBarrier (s : State) (name : String) : (s.dropBarrier name).pages = s.pages := by
  unfold dropBarrier
  split <;> rfl

theorem goes_nameAttached (s : State) : s.Goes s.nameAttached := by
  refine goes_foldl (fun s entry => ?_) s.attaching s
  dsimp only
  split
  next key hended =>
    obtain ⟨task, htask, houtcome⟩ := Option.bind_eq_some_iff.mp hended
    cases task with
    | ended outcome =>
      cases houtcome
      exact (s.goes_namePage entry.2 fun r hr => hr.comes.page_of_outcome htask).trans
        (.of_names (fun _ _ => .refl _) rfl rfl)
    | running | aborted => cases houtcome
  next => exact .refl s

theorem goes_settle (s : State) : s.Goes s.settle := by
  have hmachine : s.Goes { s with machine := s.machine.settle } :=
    .of_names (fun _ _ => s.machine.goes_settle) rfl rfl
  exact hmachine.trans (goes_nameAttached _)

theorem goes_advance (s : State) (duration : Nat) : s.Goes (s.advance duration) := by
  have hmachine : s.Goes { s with machine := s.machine.advance duration } :=
    .of_names (fun _ _ => s.machine.goes_advance duration) rfl rfl
  exact hmachine.trans (goes_nameAttached _)

/-! ### Steps -/

theorem goes_addContext (s : State) (name : String) (parent : Option Context) (limit : Option Nat)
    (hparent : ∀ r, s.Kept r → ∀ p ∈ parent, s.world.IsContext p.scope) :
    s.Goes (s.addContext name parent limit).2 := by
  refine .of_world
    (fun r hr => .apply (.newScope (parent.map (·.scope))) (fun _ _ => ?_) nofun nofun)
    (fun r hr entry hentry => ?_) fun _ _ _ hentry => .inl hentry
  · cases parent with
    | none => trivial
    | some p => exact hparent r hr p rfl
  · rcases mem_of_mem_bind hentry with hold | rfl
    · exact .inl hold
    · exact .inr (hr.comes.isContext_newScope _)

/-- A page is opened under a name. -/
theorem goes_openPage (s : State) (name : String) (session : Option SessionId)
    (frame : Option FrameId) : s.Goes
      ((s.namePage name { key := s.world.pages.length, session }).apply
        (.openPage session frame)) := by
  refine .of_world
    (fun _ _ => (s.world_dropPage name).trans
      (.apply (.openPage session frame) (fun _ _ => trivial) nofun nofun))
    (fun _ _ _ hentry => .inl (s.contexts_dropPage name ▸ hentry)) fun r hr entry hentry => ?_
  rcases mem_of_mem_bind hentry with hold | rfl
  · exact .inl (mem_pages_dropPage hold)
  · refine .inr ?_
    show s.world.pages.length < ((s.dropPage name).world.pages ++ [_]).length
    rw [List.length_append, s.pages_dropPage name]
    exact Nat.lt_succ_self _

theorem goes_onHalf (s : State) (name : String) {half : Barrier → Option Holder}
    {f : BarrierKey → State} (hf : ∀ key, s.world.CallerHas half key → s.Goes (f key)) :
    s.Goes (s.onHalf name half f).2 := by
  unfold onHalf
  split
  · exact .refl s
  next key _ =>
    split
    next hholder =>
      obtain ⟨b, hb, hhalf⟩ := Option.bind_eq_some_iff.mp hholder
      exact hf key ⟨b, hb, hhalf⟩
    next => exact .refl s

theorem goes_invoke (s : State) (task : String) (words : List String) (ctx : Option String) :
    s.Goes (s.invoke task words ctx).2 := by
  unfold invoke
  split
  · exact .refl s
  · exact .refl s
  next endpoint i _ _ =>
    dsimp only
    split
    next name =>
      split
      next ctx hctx =>
        exact s.goes_spawn task
          (fun r hr => (runOpen_orderly i endpoint (hr.context hctx)).bind fun _ => .done _)
          (handsOpened_invocation _)
      next => exact .refl s
    next =>
      refine .of_names (fun r hr => ?_) rfl rfl
      have hscope := hr.comes.isContext_newScope none
      have hmade : s.world.Goes (s.world.apply (.newScope none)) :=
        .apply (.newScope none) (fun _ _ => trivial) nofun nofun
      refine hmade.trans (.apply (.spawn _) (fun _ _ => ?_) nofun fun p hp => ?_)
      · exact (runOpen_orderly i endpoint hscope).bind fun _ => .done _
      · cases hp
        exact handsOpened_invocation _

mutual

/-- What a step of a script does. -/
theorem goes_step (s : State) (step : Step) : s.Goes (s.step step).2 := by
  cases step with
  | context name parent limit =>
    rw [State.step.eq_def]
    cases parent with
    | none => exact s.goes_addContext name none _ fun _ _ _ h => by cases h
    | some parent =>
      dsimp only
      split
      next p hp =>
        refine s.goes_addContext name (some p) _ fun r hr q hq => ?_
        cases hq
        exact hr.context hp
      next => exact .refl s
  | commandContext name timeout =>
    exact s.goes_addContext name none _ fun _ _ _ h => by cases h
  | cancel name =>
    rw [State.step]
    split
    next ctx hctx =>
      exact s.goes_apply (.cancel ctx.scope) (fun _ hr => hr.context hctx) nofun nofun
    next => exact .refl s
  | advance duration =>
    rw [State.step]
    exact s.goes_advance duration
  | awaitEnd task name =>
    rw [State.step]
    split
    next ctx _ =>
      exact s.goes_spawn task (fun _ _ => task_orderly (awaitEndOf_orderly ctx) _)
        (handsOpened_task nofun)
    next => exact .refl s
  | runWithin task name delay value =>
    rw [State.step]
    split
    next ctx _ =>
      exact s.goes_spawn task (fun _ _ => task_orderly (runWithin_orderly ctx delay value) _)
        (handsOpened_task nofun)
    next => exact .refl s
  | page name session frame routed =>
    rw [State.step]
    have hopened := s.goes_openPage name session frame
    cases routed with
    | false => exact hopened
    | true => exact hopened.trans (goes_apply _ (.route session _) (fun _ _ => trivial) nofun nofun)
  | setFrame name frame =>
    rw [State.step]
    split
    · exact s.goes_apply (.setFrame _ frame) (fun _ _ => trivial) nofun nofun
    · exact .refl s
  | route name session =>
    rw [State.step]
    split
    · exact s.goes_apply (.route session _) (fun _ _ => trivial) nofun nofun
    · exact .refl s
  | unroute session =>
    rw [State.step]
    exact s.goes_apply (.unroute session) (fun _ _ => trivial) nofun nofun
  | dropPage name =>
    rw [State.step]
    split
    · exact s.goes_dropPage name
    · exact .refl s
  | attach task name target page =>
    rw [State.step]
    split
    next ctx _ =>
      have hspawned := s.goes_spawn task
        (fun _ _ => task_orderly (attachAndHandOver_orderly ctx target) .page)
        (handsOpened_attach ctx target)
      exact hspawned.trans (.of_names (fun _ _ => .refl _) rfl rfl)
    next => exact .refl s
  | call task pageName name call =>
    rw [State.step]
    split
    next page ctx _ hctx =>
      have hspawned := s.goes_spawn task
        (fun _ hr => pageCall_orderly page call (hr.context hctx)) (handsOpened_call page ctx call)
      exact hspawned.trans (goes_apply _ (.sharePage page.key _) (fun _ _ => trivial) nofun nofun)
    next => exact .refl s
  | send task session method params =>
    rw [State.step]
    exact s.goes_spawn task (fun _ _ => task_orderly (send_orderly ..) _) (handsOpened_task nofun)
  | inject message =>
    rw [State.step]
    exact s.goes_apply (.inject message) (fun _ _ => trivial) nofun nofun
  | disconnect =>
    rw [State.step]
    exact (s.goes_apply .disconnect (fun _ _ => trivial) nofun nofun).trans
      (.of_names (fun _ _ => .refl _) rfl rfl)
  | readConnection task =>
    rw [State.step]
    exact s.goes_spawn task (fun _ _ => task_orderly readConnection_orderly _)
      (handsOpened_task nofun)
  | deliver name event =>
    rw [State.step]
    split
    · exact s.goes_apply (.deliver _ event) (fun _ _ => trivial) nofun nofun
    · exact .refl s
  | listen pageName name recorder =>
    rw [State.step]
    split
    · exact s.goes_apply (.listen _ _ recorder) (fun _ _ => trivial) nofun nofun
    · exact .refl s
  | arm barrier pageName name awaited =>
    rw [State.step]
    split
    next page ctx hpage hctx =>
      have hthere : ∀ r, (s.dropBarrier barrier).Kept r →
          page.key < (s.dropBarrier barrier).world.pages.length ∧
            (s.dropBarrier barrier).world.IsContext ctx.scope := fun r hr =>
        ⟨hr.page (s.names_dropBarrier barrier ▸ hpage),
          hr.context (s.contexts_dropBarrier barrier ▸ hctx)⟩
      refine (s.goes_dropBarrier barrier).trans ?_
      cases awaited with
      | milestone milestone =>
        exact (goes_apply _ (.armMilestone page.key ctx milestone) hthere nofun nofun).trans
          (.of_names (fun _ _ => .refl _) rfl rfl)
      | method method =>
        exact (goes_apply _ (.arm page.key ctx fun e => e.method = method) hthere nofun nofun).trans
          (.of_names (fun _ _ => .refl _) rfl rfl)
    next => exact .refl s
  | awaitMatch barrier task =>
    rw [State.step]
    refine s.goes_onHalf barrier fun key hkey => ?_
    have hspawned := s.goes_spawn task
      (fun _ _ => task_orderly (awaitMatchOf_orderly key) fun _ => .nothing)
      (handsOpened_task nofun)
    exact hspawned.trans (goes_apply _ (.giveWait key _) (fun _ _ => hkey) nofun nofun)
  | release barrier =>
    rw [State.step]
    exact s.goes_onHalf barrier fun key hkey =>
      s.goes_apply (.release key) (fun _ _ => hkey) nofun nofun
  | dropWait barrier =>
    rw [State.step]
    exact s.goes_onHalf barrier fun key hkey =>
      s.goes_apply (.dropWait key) (fun _ _ => hkey) nofun nofun
  | dropRelease barrier =>
    rw [State.step]
    exact s.goes_onHalf barrier fun key hkey =>
      s.goes_apply (.dropRelease key) (fun _ _ => hkey) nofun nofun
  | abort task =>
    rw [State.step]
    split
    next id _ =>
      refine s.goes_apply (.abort id) (fun _ hr p hp => ?_) nofun nofun
      exact (hr.comes.rests id p hp).imp_right .inr
    next => exact .refl s
  | invoke task words ctx =>
    rw [State.step]
    exact s.goes_invoke task words ctx
  | batch steps =>
    rw [State.step]
    exact goes_stepAll s steps
  | unknown =>
    rw [State.step]
    exact .refl s

theorem goes_stepAll (s : State) (steps : List Step) : s.Goes (stepAll s steps) := by
  cases steps with
  | nil =>
    rw [stepAll]
    exact .refl s
  | cons step rest =>
    rw [stepAll]
    exact (goes_step s step).trans (goes_stepAll _ rest)

end

/-! ### Answers -/

theorem goes_makeMove (id : Nat) (s : State) (move : Move) : s.Goes (makeMove id s move) := by
  cases move with
  | say message => exact s.goes_apply (.inject _) (fun _ _ => trivial) nofun nofun
  | leave => exact s.goes_apply .disconnect (fun _ _ => trivial) nofun nofun

theorem goes_answerRequest (s : State) (request : Request) :
    s.Goes (answerRequest s request) := by
  unfold answerRequest
  split
  next moves rest _ =>
    have hreplies : s.Goes { s with replies := s.replies.bind request.method rest } :=
      .of_names (fun _ _ => .refl _) rfl rfl
    exact hreplies.trans (goes_foldl (goes_makeMove request.id) moves _)
  next => exact .refl s

theorem goes_settleWithAnswers (rounds start : Nat) (s : State) :
    s.Goes (settleWithAnswers rounds start s) := by
  induction rounds generalizing start s with
  | zero => exact s.goes_settle
  | succ rounds ih =>
    rw [settleWithAnswers]
    dsimp only
    split
    · exact s.goes_settle
    · split
      · exact s.goes_settle
      · exact s.goes_settle.trans ((goes_foldl goes_answerRequest _ _).trans (ih _ _))

theorem goes_stepAndReport (s : State) (step : Step) : s.Goes (stepAndReport s step).2 :=
  (s.goes_step step).trans (goes_settleWithAnswers _ _ _)

theorem kept_initial (setup : Setup) : ∃ transitions,
    (initial setup).Kept ⟨.initial setup.refused setup.network, transitions⟩ := by
  let world := World.initial setup.refused setup.network
  have hstart : Run.ComesTo ⟨world, []⟩ world :=
    ⟨⟨⟨_, _, rfl⟩, nofun⟩, rfl, nofun, nofun⟩
  have hreading : world.Goes (initial setup).world := by
    unfold initial
    cases setup.reading with
    | true => exact .apply .startReading (fun _ _ => trivial) nofun nofun
    | false => exact .refl world
  obtain ⟨more, hmore⟩ := hreading _ hstart
  exact ⟨more, hmore, nofun, nofun⟩

end State

/-! ### Scripts -/

/-- A run in which a script is performed, with the position after so many of its steps. -/
structure Performs (setup : Setup) (steps : List Step) (r : Run) (place : Nat → Nat) : Prop where
  admissible : r.Admissible
  start : r.start = .initial setup.refused setup.network
  ordered : ∀ n, place n ≤ place (n + 1)
  world : ∀ n, (run setup (steps.take n)).2.world = r.world (place n)
  ends : place steps.length = r.transitions.length

/-- The positions after the steps of a script that has one step more in front. -/
def placesAfter (first : Nat) (place : Nat → Nat) : Nat → Nat
  | 0 => first
  | n + 1 => place n

theorem exists_places (steps : List Step) {s : State} {r : Run} (hr : s.Kept r) :
    ∃ (more : List Transition) (place : Nat → Nat), (r.extend more).Admissible ∧
      place 0 = r.transitions.length ∧ (∀ n, place n ≤ place (n + 1)) ∧
        (∀ n, (runFrom s (steps.take n)).2.world = (r.extend more).world (place n)) ∧
          place steps.length = (r.extend more).transitions.length := by
  induction steps generalizing s r with
  | nil =>
    refine ⟨[], fun _ => r.transitions.length, ?_, rfl, fun _ => Nat.le_refl _, fun n => ?_, ?_⟩
    · exact r.extend_nil.symm ▸ hr.comes.admissible
    · rw [List.take_nil, Run.extend_nil]
      exact hr.comes.last.symm
    · rw [Run.extend_nil]
  | cons step rest ih =>
    obtain ⟨first, hfirst⟩ := s.goes_stepAndReport step r hr
    obtain ⟨more, place, hadmissible, hzero, hordered, hworld, hends⟩ := ih hfirst
    rw [Run.extend_extend] at hadmissible hworld hends
    refine ⟨first ++ more, placesAfter r.transitions.length place, hadmissible, rfl, fun n => ?_,
      fun n => ?_, hends⟩
    · cases n with
      | zero => exact Nat.le_trans (r.length_le_extend first) (Nat.le_of_eq hzero.symm)
      | succ n => exact hordered n
    · cases n with
      | zero => exact hr.comes.last.symm.trans (Run.world_extend (Nat.le_refl _)).symm
      | succ n => exact hworld n

/-- Every script is performed in an admissible run. -/
theorem performs_run (setup : Setup) (steps : List Step) :
    ∃ r place, Performs setup steps r place := by
  obtain ⟨transitions, hkept⟩ := State.kept_initial setup
  obtain ⟨more, place, hadmissible, -, hordered, hworld, hends⟩ := exists_places steps hkept
  exact ⟨_, place, hadmissible, rfl, hordered, hworld, hends⟩

end Scenario

end PagePilot
