import PagePilot.Proofs.Result
import PagePilot.Proofs.Sequence.Pursuit
/-!
# PagePilot.Proofs.Sequence.Scripted

Programs with a script. `Program.Scripted` says of a program that it pursues its script in
every run, and fulfils it when it succeeds. There is a rule for each thing that a program can
do and for each way to put programs together, so that the script of an operation is read off
its text.
-/

namespace PagePilot

open Wire

/-! ### Programs in a row -/

namespace Program

/-- Three programs in a row, that may fail, are so in both ways to take them together. -/
theorem run_bind_assoc (x : ExceptT ε Program α) (f : α → ExceptT ε Program β)
    (g : β → ExceptT ε Program γ) :
    ((x >>= f) >>= g).run = (x >>= fun a => f a >>= g).run := by
  rw [run_bind, run_bind, run_bind, bind_assoc]
  refine congrArg x.run.bind (funext ?_)
  intro result
  cases result with
  | ok a => exact (run_bind _ _).symm
  | error e => rfl

/-- Two operations in a row are so as parts of an invocation. -/
theorem run_asCommand_bind (x : Op α) (f : α → Op β) :
    (x >>= f).asCommand.run = (x.asCommand >>= fun a => (f a).asCommand).run := by
  have hcommand : ∀ {γ : Type} (op : Op γ),
      op.asCommand.run = op.run.bind fun r => .done (r.mapError .command) := fun _ => rfl
  rw [run_bind, hcommand, hcommand, run_bind, bind_assoc, bind_assoc]
  refine congrArg x.run.bind (funext ?_)
  intro result
  cases result <;> rfl

end Program

/-! ### Rules -/

/-- The pages that have to load in the course of a script are there. -/
def Run.HasPages (r : Run) (script : List Errand) (i : Nat) : Prop :=
  ∀ e ∈ script, ∀ page, e.loads = some page → ((r.world i).board.listeners page).isSome

namespace Run.HasPages

variable {r : Run} {script s₁ s₂ : List Errand} {i j : Nat}

theorem mono (hr : r.Admissible) (h : r.HasPages script i) (hij : i ≤ j) : r.HasPages script j :=
  fun e he page hpage => page_mono hr hij (h e he page hpage)

theorem left (h : r.HasPages (s₁ ++ s₂) i) : r.HasPages s₁ i :=
  fun e he => h e (List.mem_append_left s₂ he)

theorem right (h : r.HasPages (s₁ ++ s₂) i) : r.HasPages s₂ i :=
  fun e he => h e (List.mem_append_right s₁ he)

end Run.HasPages

/-- In every run the program pursues the script, and when it succeeds it has fulfilled it. -/
structure Program.Scripted (ctx : Context) (script : List Errand)
    (p : Program (Except ε α)) : Prop where
  pursues : ∀ {r : Run} {task i j q}, r.Admissible → r.HasPages script i →
    r.Runs task i p j q → r.Pursues ctx task script i j
  fulfils : ∀ {r : Run} {task i j x}, r.Admissible → r.HasPages script i →
    r.Runs task i p j (.done (.ok x)) → r.Fulfils ctx task script i j

namespace Program.Scripted

open Run

variable {ctx : Context} {script s₁ s₂ : List Errand} {e : Errand}

/-- A program that has failed does nothing more. -/
theorem failed (error : ε) : Scripted ctx script (.done (.error error : Except ε α)) where
  pursues _ _ h := .of_silent (requests_of_quiet h.of_done.1)
  fulfils _ _ h := by cases h.of_done.2

/-- A program that has its result does nothing more. -/
theorem known (result : Except ε α) : Scripted ctx [] (.done result) where
  pursues _ _ h := .of_silent (requests_of_quiet h.of_done.1)
  fulfils _ _ h := by
    refine .nil (requests_of_quiet h.of_done.1) ?_
    rw [h.of_done.1]
    exact List.forall_mem_nil _

/-- One act that writes nothing. Where it fails, the program does so. -/
theorem act {a : Act} {next : a.Reply → Program (Except ε α)}
    (hsilent : ∀ reply, Deed.request? ⟨a, reply⟩ = none)
    (hfails : ∀ reply, Deed.fails ⟨a, reply⟩ = true → ∃ error, next reply = .done (.error error))
    (h : ∀ reply, (next reply).Scripted ctx script) :
    (Program.act a next).Scripted ctx script where
  pursues hr hpages hruns := by
    rcases hruns.of_act with ⟨hquiet, -⟩ | ⟨k, reply, hik, hkj, hquiet, hdoes, hrest⟩
    · exact .of_silent (requests_of_quiet hquiet)
    have hik' := Nat.le_succ_of_le hik
    cases hgood : Deed.fails ⟨a, reply⟩ with
    | false =>
      exact (Fulfils.of_first hik hquiet hdoes (hsilent reply) hgood).append hik' hkj
        ((h reply).pursues hr (hpages.mono hr hik') hrest)
    | true =>
      obtain ⟨error, herror⟩ := hfails reply hgood
      rw [herror] at hrest
      refine .of_silent ?_
      rw [requests_append hik' hkj, requests_of_first hik hquiet hdoes (hsilent reply),
        requests_of_quiet hrest.of_done.1, List.append_nil]
  fulfils hr hpages hruns := by
    rcases hruns.of_act with ⟨-, hq⟩ | ⟨k, reply, hik, hkj, hquiet, hdoes, hrest⟩
    · cases hq
    have hik' := Nat.le_succ_of_le hik
    cases hgood : Deed.fails ⟨a, reply⟩ with
    | false =>
      exact (Fulfils.of_first hik hquiet hdoes (hsilent reply) hgood).append_fulfils hik' hkj
        ((h reply).fulfils hr (hpages.mono hr hik') hrest)
    | true =>
      obtain ⟨error, herror⟩ := hfails reply hgood
      rw [herror] at hrest
      cases hrest.of_done.2

/-- One act that writes nothing and cannot fail. -/
theorem perform {a : Act} (hsilent : ∀ reply, Deed.request? ⟨a, reply⟩ = none)
    (hsound : ∀ reply, Deed.fails ⟨a, reply⟩ = false) :
    (ExceptT.lift (ε := ε) (Program.perform a)).run.Scripted ctx [] := by
  refine .act hsilent ?_ fun reply => .known _
  intro reply hfails
  rw [hsound reply] at hfails
  cases hfails

/-- What is made of the result of a program is a success only if the result is one. -/
theorem map {p : Program (Except ε α)} (h : p.Scripted ctx script)
    {g : Except ε α → Except ε' β} (hg : ∀ error, ∃ error', g (.error error) = .error error') :
    (p.bind fun result => .done (g result)).Scripted ctx script where
  pursues hr hpages hruns := by
    rcases hruns.of_bind with ⟨a, next, hp, -⟩ | ⟨k, result, hp, hrest⟩
    · exact h.pursues hr hpages hp
    · exact h.pursues hr hpages (hp.extend hrest.le hrest.of_done.1)
  fulfils hr hpages hruns := by
    rcases hruns.of_bind with ⟨a, next, -, hq⟩ | ⟨k, result, hp, hrest⟩
    · cases hq
    cases result with
    | ok x => exact h.fulfils hr hpages (hp.extend hrest.le hrest.of_done.1)
    | error error =>
      obtain ⟨error', heq⟩ := hg error
      rw [heq] at hrest
      cases hrest.of_done.2

theorem asCommand {op : Op α} (h : op.run.Scripted ctx script) :
    op.asCommand.run.Scripted ctx script :=
  h.map fun _ => ⟨_, rfl⟩

/-- Of two programs in a row the second comes after the script of the first. -/
theorem op_bind {x : ExceptT ε Program α} {f : α → ExceptT ε Program β}
    (hx : x.run.Scripted ctx s₁) (hf : ∀ a, (f a).run.Scripted ctx s₂) :
    (x >>= f).run.Scripted ctx (s₁ ++ s₂) where
  pursues hr hpages hruns := by
    rcases hruns.of_except_bind with ⟨⟨q', hfirst⟩, -⟩ | ⟨k, a, hfirst, hrest⟩
    · exact (hx.pursues hr hpages.left hfirst).extend s₂
    · exact (hx.fulfils hr hpages.left hfirst).append hfirst.le hrest.le
        ((hf a).pursues hr (hpages.right.mono hr hfirst.le) hrest)
  fulfils hr hpages hruns := by
    obtain ⟨k, a, hfirst, hrest⟩ := hruns.of_except_bind_ok
    exact (hx.fulfils hr hpages.left hfirst).append_fulfils hfirst.le hrest.le
      ((hf a).fulfils hr (hpages.right.mono hr hfirst.le) hrest)

/-- What follows a program and writes nothing. -/
theorem op_finish {x : ExceptT ε Program α} {f : α → ExceptT ε Program β}
    (hx : x.run.Scripted ctx script) (hf : ∀ a, (f a).run.Scripted ctx []) :
    (x >>= f).run.Scripted ctx script :=
  List.append_nil script ▸ op_bind hx hf

/-! ### Commands and navigations -/

/-- A send, of whose answer a success is made only if the errand accepts it. -/
theorem send {session : Option SessionId} {method : String} {params : Json}
    {g : Reply → Except ε α} (hwire : e.wire = (method, session)) (hloads : e.loads = none)
    (hg : ∀ reply x, g reply = .ok x → ∃ answer, reply = .ok answer ∧ e.accepts answer = true) :
    ((PagePilot.send (some ctx) session method params).run.bind
      fun reply => .done (g reply)).Scripted ctx [e] where
  pursues hr hpages hruns := by
    refine .of_askedBy ?_
    rcases hruns.of_bind with ⟨a, next, hsend, -⟩ | ⟨k, reply, hsend, hrest⟩
    · exact Send.asksFor hwire hsend.leads
    · exact Send.asksFor hwire (hsend.extend hrest.le hrest.of_done.1).leads
  fulfils hr hpages hruns := by
    rcases hruns.of_bind with ⟨a, next, -, hq⟩ | ⟨k, reply, hsend, hrest⟩
    · cases hq
    obtain ⟨hquiet, hdone⟩ := hrest.of_done
    obtain ⟨answer, rfl, haccepts⟩ := hg reply _ (Program.done.inj hdone).symm
    have hsend := hsend.extend hrest.le hquiet
    obtain ⟨id, w, u, d, hiw, hwu, huj, hdu, hw, hanswers, hu, htold⟩ := hsend.answered hr
    refine .of_achieves (.of_askedBy (Send.asksFor hwire hsend.leads))
      (Send.sound_of_answer hsend.leads) hiw (Nat.lt_trans hwu huj)
      ⟨hw, u, d, answer, hwu, huj, hdu, hanswers, hu, htold, haccepts, ?_⟩
    intro page hpage
    cases hloads.symm.trans hpage

/-- A command, and what is made of its acknowledgment. -/
theorem command {command : Command α} {check : α → Bool} {g : Reply → Except ε β}
    {session : Option SessionId}
    (hg : ∀ reply x, g reply = .ok x →
      ∃ answer y, reply = .ok answer ∧ command.acknowledge answer = .ok y ∧ check y = true) :
    ((PagePilot.send (some ctx) session command.method command.params).run.bind
      fun reply => .done (g reply)).Scripted ctx [.of command session check] := by
  refine .send rfl rfl ?_
  intro reply x hx
  obtain ⟨answer, y, rfl, hack, hcheck⟩ := hg reply x hx
  exact ⟨answer, rfl, (Errand.accepts_of session hack).trans hcheck⟩

theorem execute (session : Option SessionId) (command : Command α) :
    (PagePilot.execute ctx session command).run.Scripted ctx
      [.of command session fun _ => true] := by
  rw [execute_run]
  refine .command ?_
  intro reply x hx
  obtain ⟨answer, rfl, hack⟩ := ok_of_bind_ok hx
  exact ⟨answer, x, rfl, hack, rfl⟩

/-- A command with a check of its acknowledgment. -/
theorem checked (session : Option SessionId) (command : Command α) (check : α → Except Error β) :
    (PagePilot.execute ctx session command >>= fun x => Op.ofExcept (check x)).run.Scripted ctx
      [.of command session fun x => (check x).isOk] := by
  have hrun : (PagePilot.execute ctx session command >>= fun x => Op.ofExcept (check x)).run =
      (PagePilot.send (some ctx) session command.method command.params).run.bind fun reply =>
        .done ((reply.bind command.acknowledge).bind check) := by
    rw [run_bind, execute_run, bind_assoc]
    refine congrArg (Program.bind _) (funext ?_)
    intro reply
    rw [bind_done]
    cases reply.bind command.acknowledge <;> rfl
  rw [hrun]
  refine .command ?_
  intro reply x hx
  obtain ⟨y, hack, hcheck⟩ := ok_of_bind_ok hx
  obtain ⟨answer, rfl, hack⟩ := ok_of_bind_ok hack
  exact ⟨answer, y, rfl, hack, by rw [hcheck]; rfl⟩

/-- A navigation does its errand. -/
theorem navigation (n : Navigation) (page : Page) :
    (n.op page ctx).run.Scripted ctx [n.errand page] where
  pursues _ _ hruns := .of_askedBy (Navigation.asksFor hruns.leads)
  fulfils {r task i j x} hr hpages hruns := by
    have hpage : ((r.world i).board.listeners page.key).isSome :=
      hpages _ (List.mem_singleton.mpr rfl) page.key rfl
    obtain ⟨m, key, y, ack, him, hmj, hyj, harm, hcommand, hends⟩ := hruns.navigation_ends hr hpage
    have hpursues : r.Pursues ctx task [n.errand page] i j :=
      .of_askedBy (Navigation.asksFor hruns.leads)
    cases hends with
    | @loaded _ z hfailure hyz hzj hwait hload =>
      obtain ⟨id, w, u, d, answer, hmw, hwu, huy, hdu, hw, hanswers, hu, htold, hack⟩ :=
        hcommand.acknowledged hr
      have hiw : i ≤ w := by omega
      have hwj : w < j := by omega
      refine .of_achieves hpursues (Navigation.sound_of_ok hruns.leads) hiw hwj
        ⟨hw, u, d, answer, hwu, by omega, hdu, hanswers, hu, htold, ?_, ?_⟩
      · refine (Errand.accepts_of page.session hack).trans ?_
        rw [hfailure]
        rfl
      · rintro _ ⟨⟩
        have hbefore := (hpursues.alone hiw hwj hw).1
        rw [requests_append him (Nat.le_of_lt hmw)] at hbefore
        exact ⟨m, z, key, hmw, by omega, hzj, (List.append_eq_nil_iff.mp hbefore).2, harm, hwait,
          hload⟩

end Program.Scripted

end PagePilot
