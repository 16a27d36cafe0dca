import PagePilot.Proofs.Operation.Orderly
/-!
# PagePilot.Proofs.Operation.Load

How a page loads after a trigger. `Page.loadAfter` is written as a chain of named programs
(`Load.tree`), as a send is, so that what is proved of it is a case analysis of its parts.

From that follows what every operation on a page does with the barriers that it arms: it
lets go of each before it has its result (`Page.Offers.letsGo`).
-/

namespace PagePilot

open Wire Program

/-! ### The chain -/

namespace Load

variable (page : Page) (ctx : Context) (trigger : Op α)

/-- The end of a load: the barrier is let go of. -/
def letting (barrier : BarrierKey) (result : Except Error α) : Program (Except Error α) :=
  .act (.disarm barrier) fun _ => .done result

/-- What a load gives when the wait for the barrier has ended. -/
def loadedWith (acknowledged : α) : Except Error Unit → Except Error α
  | .ok _ => .ok acknowledged
  | .error e => .error e

/-- A load that waits for its barrier. -/
def waiting (barrier : BarrierKey) (acknowledged : α) : Program (Except Error α) :=
  .act (.awaitMatch barrier) fun loaded => letting barrier (loadedWith acknowledged loaded)

/-- A load after its trigger. -/
def triggered (barrier : BarrierKey) : Except Error α → Program (Except Error α)
  | .error e => letting barrier (.error e)
  | .ok acknowledged => waiting barrier acknowledged

/-- A load from its start. -/
def tree : Program (Except Error α) :=
  .act (.arm page.key ctx Page.loadMilestone) fun barrier => trigger.run.bind (triggered barrier)

/-- `Page.loadAfter` is the chain of the programs above. -/
theorem loadAfter_run : (page.loadAfter ctx trigger).run = tree page ctx trigger := by
  refine Send.act_congr ?_
  intro barrier
  have hlift : (ExceptT.lift (ε := Error) trigger.run).run =
      trigger.run.bind fun result => .done (.ok result) := rfl
  refine (run_bind _ _).trans ?_
  rw [hlift, bind_assoc]
  refine congrArg trigger.run.bind (funext ?_)
  intro result
  cases result with
  | error e => exact Send.act_congr fun _ => rfl
  | ok acknowledged =>
    refine Send.act_congr fun loaded => Send.act_congr fun _ => ?_
    cases loaded <;> rfl

end Load

/-! ### Letting go -/

namespace Program

/-- A program that has let go of every barrier that it armed when it has its result. -/
def LetsGo (p : Program α) : Prop :=
  ∀ path x, p.Leads path (.done x) →
    ∀ before page ctx milestone key after,
      path = before ++ ⟨.arm page ctx milestone, key⟩ :: after → ⟨.disarm key, ()⟩ ∈ after

namespace LetsGo

theorem bind {p : Program α} {f : α → Program β} (h : p.LetsGo) (hf : ∀ x, (f x).LetsGo) :
    (p.bind f).LetsGo := by
  rintro path y hpath before page ctx milestone key after rfl
  obtain ⟨path₁, x, path₂, heq, hp, hrest⟩ := hpath.of_bind_done
  -- The arming is a deed of the first program or of the second, and each lets go of its own.
  rcases List.append_eq_append_iff.mp heq with ⟨between, rfl, hpath₁⟩ | ⟨between, rfl, hpath₂⟩
  · cases between with
    | nil =>
      exact hf x _ y hrest [] page ctx milestone key after hpath₁.symm
    | cons d between =>
      obtain ⟨rfl, rfl⟩ := List.cons.inj hpath₁
      exact List.mem_append_left _ (h _ x hp before page ctx milestone key between rfl)
  · exact hf x _ y hrest between page ctx milestone key after hpath₂

/-- A program that arms nothing has nothing to let go of. -/
theorem of_within {p : Program α} (h : p.Within fun _ => False) : p.LetsGo := by
  rintro path x hpath before page ctx milestone key after rfl
  induction before generalizing p with
  | nil =>
    cases hpath
    exact (h.1 page ctx milestone rfl).elim
  | cons d before ih =>
    cases hpath with
    | cons hrest => exact ih (h.2 _) hrest

theorem op_bind {x : Op α} {f : α → Op β} (h : x.run.LetsGo) (hf : ∀ a, (f a).run.LetsGo) :
    (x >>= f).run.LetsGo := by
  rw [run_bind]
  refine h.bind ?_
  intro result
  cases result with
  | ok a => exact hf a
  | error e => exact .of_within trivial

/-- What is done before anything is armed does not matter. -/
theorem act {a : Act} {next : a.Reply → Program α} (ha : ∀ page ctx m, a ≠ .arm page ctx m)
    (h : ∀ r, (next r).LetsGo) : (Program.act a next).LetsGo := by
  rintro path x hpath before page ctx milestone key after rfl
  cases before with
  | nil =>
    cases hpath
    exact absurd rfl (ha page ctx milestone)
  | cons d before =>
    cases hpath with
    | cons hrest => exact h _ _ x hrest before page ctx milestone key after rfl

end LetsGo

end Program

namespace Load

open Program

theorem mem_of_letting {barrier : BarrierKey} {result y : Except Error α} {path : List Deed}
    (h : (letting barrier result).Leads path (.done y)) : ⟨.disarm barrier, ()⟩ ∈ path := by
  obtain ⟨_, rest, rfl, -⟩ := h.of_act_done
  exact List.mem_cons_self ..

/-- Whatever the trigger gave, the barrier is let go of. -/
theorem mem_of_triggered {barrier : BarrierKey} {result y : Except Error α} {path : List Deed}
    (h : (triggered barrier result).Leads path (.done y)) : ⟨.disarm barrier, ()⟩ ∈ path := by
  cases result with
  | error e => exact mem_of_letting h
  | ok acknowledged =>
    obtain ⟨_, rest, rfl, hrest⟩ := h.of_act_done
    exact List.mem_cons_of_mem _ (mem_of_letting hrest)

theorem triggered_letsGo (barrier : BarrierKey) (result : Except Error α) :
    (triggered barrier result).LetsGo := by
  have hletting : ∀ result : Except Error α, (letting barrier result).LetsGo :=
    fun result => .of_within ⟨nofun, fun _ => trivial⟩
  cases result with
  | error e => exact hletting _
  | ok acknowledged => exact .act nofun fun _ => hletting _

/-- A load lets go of its barrier, and of nothing else, so its trigger has to do the same. -/
theorem letsGo (page : Page) (ctx : Context) {trigger : Op α} (h : trigger.run.LetsGo) :
    (page.loadAfter ctx trigger).run.LetsGo := by
  rw [loadAfter_run]
  rintro path y hpath before page' ctx' milestone key after rfl
  cases before with
  | nil =>
    cases hpath with
    | cons hrest =>
      obtain ⟨path₁, x, path₂, rfl, -, htriggered⟩ := hrest.of_bind_done
      exact List.mem_append_right _ (mem_of_triggered htriggered)
  | cons d before =>
    cases hpath with
    | cons hrest =>
      exact (h.bind (triggered_letsGo _)) _ y hrest before page' ctx' milestone key after rfl

end Load

namespace Page

/-- What can be done on a page under a context. -/
inductive Offers (page : Page) (ctx : Context) : {α : Type} → Op α → Prop
  | navigate (url : String) : page.Offers ctx (page.navigate ctx url)
  | reload (params : ReloadParams) : page.Offers ctx (page.reload ctx params)
  | navigateToEntry (entryId : Int) : page.Offers ctx (page.navigateToEntry ctx entryId)
  | back : page.Offers ctx (page.back ctx)
  | forward : page.Offers ctx (page.forward ctx)
  | entries : page.Offers ctx (page.entries ctx)
  | stop : page.Offers ctx (page.stop ctx)
  | screenshot (params : ScreenshotParams) : page.Offers ctx (page.screenshot ctx params)
  | evaluateText (expression : String) : page.Offers ctx (page.evaluateText ctx expression)
  | enable : page.Offers ctx (page.enable ctx)

theorem execute_letsGo (ctx : Context) (session : Option SessionId) (command : Command α) :
    (execute ctx session command).run.LetsGo :=
  .of_within (execute_orderly ..).within

theorem navigateToEntry_letsGo (page : Page) (ctx : Context) (entryId : Int) :
    (page.navigateToEntry ctx entryId).run.LetsGo :=
  .act nofun fun _ => Load.letsGo page ctx (execute_letsGo _ _ _)

theorem move_letsGo (choose : NavigationHistory → Except Error NavigationEntry) (page : Page)
    (ctx : Context) : (move choose page ctx).run.LetsGo :=
  .op_bind (execute_letsGo _ _ _) fun _ => .op_bind (.of_within trivial) fun entry =>
    navigateToEntry_letsGo page ctx entry.id

/-- Every operation on a page has let go of what it armed when it has its result. -/
theorem Offers.letsGo {page : Page} {ctx : Context} {op : Op α} (h : page.Offers ctx op) :
    op.run.LetsGo := by
  cases h with
  | navigate url =>
    exact .act nofun fun _ => Load.letsGo page ctx
      (.op_bind (execute_letsGo _ _ _) fun _ => .of_within trivial)
  | reload params => exact .act nofun fun _ => Load.letsGo page ctx (execute_letsGo _ _ _)
  | navigateToEntry entryId => exact navigateToEntry_letsGo page ctx entryId
  | back | forward => exact move_letsGo _ page ctx
  | entries | stop => exact execute_letsGo _ _ _
  | screenshot params => exact .of_within (page.screenshot_orderly ctx params).within
  | evaluateText expression => exact .of_within (page.evaluateText_orderly ctx expression).within
  | enable => exact .of_within (page.enable_orderly ctx).within

end Page

end PagePilot
