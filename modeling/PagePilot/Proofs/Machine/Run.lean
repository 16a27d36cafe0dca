import PagePilot.Proofs.Machine.Step
import PagePilot.Proofs.Program.Conduct
/-!
# PagePilot.Proofs.Machine.Run

Runs: a world to start from, and any sequence of transitions. A position in a run is a
number, `r.world k` is the world there, before the transition at `k`. So what happened
before or after what is an inequality of positions.

* `Run.Does` says that a task does an act at a position, and `Run.deeds` collects what
  it does between two positions;
* `task_after` is the link between runs and paths: whatever else happens meanwhile, a
  task follows a path of its program;
* `Run.Runs` says the same of a part of a program, such as a send inside a navigation;
* `Run.Admissible` says which runs there are: those in which nobody does what the
  program gives no means to do.
-/

namespace PagePilot

open Wire

/-- A world, and what happens to it. -/
structure Run where
  start : World
  transitions : List Transition

namespace Run

variable (r : Run)

/-! ### Positions -/

/-- The world at a position, before the transition there. -/
def world (k : Nat) : World :=
  r.start.run (r.transitions.take k)

/-- The act that is done at a position, and the task that does it. -/
def deed? (k : Nat) : Option (TaskId × Deed) :=
  r.transitions[k]?.bind (r.world k).deed?

/-- The message that is taken in at a position. -/
def incoming? (k : Nat) : Option Message :=
  r.transitions[k]?.bind (r.world k).incoming?

/-- A task does an act at a position, with this reply. -/
def Does (k : Nat) (task : TaskId) (a : Act) (reply : a.Reply) : Prop :=
  r.deed? k = some (task, ⟨a, reply⟩)

/-- The reader takes in an answer at a position. -/
def Receives (k : Nat) (response : Response) : Prop :=
  r.incoming? k = some (.response response)

/-- The reader gives up at a position on the requests that still wait. -/
def Clears (k : Nat) : Prop :=
  ∃ t, r.transitions[k]? = some t ∧ (r.world k).Clears t

/-- The reader marks the connection as closed at a position. -/
def Closes (k : Nat) : Prop :=
  ∃ t, r.transitions[k]? = some t ∧ (r.world k).Closes t

theorem world_zero : r.world 0 = r.start := rfl

variable {r}

theorem world_succ {k : Nat} {t : Transition} (h : r.transitions[k]? = some t) :
    r.world (k + 1) = (r.world k).apply t := by
  unfold world World.run
  rw [List.take_add_one, h]
  simp

/-- After the last transition nothing changes. -/
theorem world_succ_of_none {k : Nat} (h : r.transitions[k]? = none) :
    r.world (k + 1) = r.world k := by
  unfold world
  rw [List.take_add_one, h]
  simp

/-- What every transition keeps is kept by runs. -/
theorem induction {P : World → Prop} {i j : Nat} (hij : i ≤ j) (h : P (r.world i))
    (hstep : ∀ k t, i ≤ k → r.transitions[k]? = some t → P (r.world k) →
      P ((r.world k).apply t)) : P (r.world j) := by
  induction hij with
  | refl => exact h
  | @step k hk ih =>
    cases ht : r.transitions[k]? with
    | none => exact (world_succ_of_none ht) ▸ ih
    | some t => exact (world_succ ht) ▸ hstep k t hk ht ih

/-- What cannot happen again happens at one position. -/
theorem eq_of_once {P : Nat → Prop} (h : ∀ i j, i < j → P i → ¬ P j) {i j : Nat} (hi : P i)
    (hj : P j) : i = j := by
  rcases Nat.lt_trichotomy i j with hlt | heq | hlt
  · exact absurd hj (h i j hlt hi)
  · exact heq
  · exact absurd hi (h j i hlt hj)

theorem Does.spec {k : Nat} {task : TaskId} {a : Act} {reply : a.Reply}
    (h : r.Does k task a reply) :
    r.transitions[k]? = some (.step task) ∧ ∃ next w',
      (r.world k).tasks[task]? = some (.running (.act a next)) ∧
        (r.world k).perform task a = some (reply, w') := by
  obtain ⟨t, ht, hd⟩ := Option.bind_eq_some_iff.mp h
  obtain ⟨rfl, next, w', hrest, hp⟩ := World.deed?_eq_some hd
  exact ⟨ht, next, w', hrest, hp⟩

/-! ### What a task learns -/

section Replies

variable {k : Nat} {task : TaskId}

/-- What a task learns is what holds when it does the act. -/
theorem Does.learns {a : Act} {reply : a.Reply} {f : World → Option a.Reply}
    (h : r.Does k task a reply)
    (hf : (r.world k).perform task a = (f (r.world k)).map (·, r.world k)) :
    f (r.world k) = some reply := by
  obtain ⟨-, next, w', -, hp⟩ := h.spec
  obtain ⟨reply', hreply, heq⟩ := Option.map_eq_some_iff.mp (hf ▸ hp)
  obtain rfl := congrArg Prod.fst heq
  exact hreply

theorem Does.endOf_eq {ctx : Context} {ended : Option Error} (h : r.Does k task (.endOf ctx) ended) :
    (r.world k).endOf ctx = ended :=
  Option.some.inj (h.learns (f := fun w => some (w.endOf ctx)) rfl)

theorem Does.closed_eq {closed : Bool} (h : r.Does k task .isClosed closed) :
    (r.world k).connection.closed = closed :=
  Option.some.inj (h.learns (f := fun w => some w.connection.closed) rfl)

theorem Does.awaited_eq {ctx : Option Context} {id : Nat} {reply : Reply}
    (h : r.Does k task (.awaitReply ctx id) reply) : (r.world k).awaited ctx id = some reply :=
  h.learns (f := fun w => w.awaited ctx id) rfl

theorem Does.barrierOutcome_eq {barrier : BarrierKey} {outcome : Except Error Unit}
    (h : r.Does k task (.awaitMatch barrier) outcome) :
    (r.world k).barrierOutcome barrier = some outcome :=
  h.learns (f := fun w => w.barrierOutcome barrier) rfl

end Replies

/-! ### What a task does -/

variable (r)

/-- The deed of one task at a position. -/
def deedOf? (task : TaskId) (k : Nat) : Option Deed :=
  match r.deed? k with
  | some (task', d) => if task' = task then some d else none
  | none => none

/-- What a task does from position `i` on, before position `j`. -/
def deeds (task : TaskId) (i j : Nat) : List Deed :=
  (List.range' i (j - i)).filterMap (r.deedOf? task)

variable {r} {task : TaskId} {i j k m : Nat}

theorem deedOf?_eq_some {d : Deed} :
    r.deedOf? task k = some d ↔ r.Does k task d.act d.reply := by
  unfold deedOf? Does
  cases r.deed? k with
  | none => simp
  | some e =>
    obtain ⟨task', d'⟩ := e
    by_cases h : task' = task
    · simp [h]
    · simp [h]

theorem deeds_self : r.deeds task i i = [] := by
  simp [deeds]

theorem deeds_append (hij : i ≤ j) (hjk : j ≤ k) :
    r.deeds task i k = r.deeds task i j ++ r.deeds task j k := by
  unfold deeds
  rw [← List.filterMap_append, show k - i = (j - i) + (k - j) by omega, ← List.range'_append,
    show i + 1 * (j - i) = j by omega]

theorem deeds_succ (hij : i ≤ j) :
    r.deeds task i (j + 1) = r.deeds task i j ++ (r.deedOf? task j).toList := by
  rw [deeds_append hij (Nat.le_succ j)]
  congr 1
  unfold deeds
  rw [show j + 1 - j = 1 by omega]
  cases h : r.deedOf? task j <;> simp [List.range', h]

theorem deeds_succ_of_does {d : Deed} (hij : i ≤ j) (h : r.Does j task d.act d.reply) :
    r.deeds task i (j + 1) = r.deeds task i j ++ [d] := by
  rw [deeds_succ hij, deedOf?_eq_some.mpr h]
  rfl

theorem deeds_succ_of_not (hij : i ≤ j) (h : ∀ d : Deed, ¬ r.Does j task d.act d.reply) :
    r.deeds task i (j + 1) = r.deeds task i j := by
  rw [deeds_succ hij, Option.eq_none_iff_forall_ne_some.mpr fun d hd => h d (deedOf?_eq_some.mp hd)]
  simp

/-- A deed between two positions is done at a position between them. -/
theorem deeds_split {d : Deed} {before after : List Deed}
    (h : r.deeds task i j = before ++ d :: after) :
    ∃ k, i ≤ k ∧ k < j ∧ r.Does k task d.act d.reply ∧ r.deeds task i k = before ∧
      r.deeds task (k + 1) j = after := by
  obtain ⟨l, rest, hl, hbefore, hrest⟩ := List.filterMap_eq_append_iff.mp h
  obtain ⟨idle, k, l', rfl, hidle, hk, hafter⟩ := List.filterMap_eq_cons_iff.mp hrest
  rw [← List.append_assoc] at hl
  obtain ⟨n, hn, hfront, hback⟩ := List.range'_eq_append_iff.mp hl
  rw [Nat.mul_one] at hback
  obtain ⟨rfl, hlt, rfl⟩ := List.range'_eq_cons_iff.mp hback.symm
  refine ⟨i + n, by omega, by omega, deedOf?_eq_some.mp hk, ?_, ?_⟩
  · have hnone : idle.filterMap (r.deedOf? task) = [] := List.filterMap_eq_nil_iff.mpr hidle
    rw [deeds, show i + n - i = n by omega, ← hfront, List.filterMap_append, hbefore, hnone,
      List.append_nil]
  · rw [← hafter, deeds, show j - (i + n + 1) = j - i - n - 1 by omega]

theorem deeds_cons {d : Deed} {after : List Deed} (h : r.deeds task i j = d :: after) :
    ∃ k, i ≤ k ∧ k < j ∧ r.Does k task d.act d.reply ∧ r.deeds task i k = [] ∧
      r.deeds task (k + 1) j = after :=
  deeds_split (List.nil_append _ ▸ h)

theorem mem_deeds {d : Deed} :
    d ∈ r.deeds task i j ↔ ∃ k, i ≤ k ∧ k < j ∧ r.Does k task d.act d.reply := by
  constructor
  · intro h
    obtain ⟨before, after, h⟩ := List.append_of_mem h
    obtain ⟨k, hik, hkj, hk, -, -⟩ := deeds_split h
    exact ⟨k, hik, hkj, hk⟩
  · rintro ⟨k, hik, hkj, hk⟩
    exact List.mem_filterMap.mpr
      ⟨k, List.mem_range'_1.mpr ⟨hik, by omega⟩, deedOf?_eq_some.mpr hk⟩

/-- Where a task does nothing, it does not do this or that. -/
theorem not_does_of_quiet (h : r.deeds task i j = []) (hik : i ≤ k) (hkj : k < j) {a : Act}
    {reply : a.Reply} : ¬ r.Does k task a reply := by
  intro hdoes
  have hmem : ⟨a, reply⟩ ∈ r.deeds task i j := mem_deeds.mpr ⟨k, hik, hkj, hdoes⟩
  rw [h] at hmem
  cases hmem

/-! ### Tasks follow their programs -/

end Run

/-- A task that has gone along a path of a program, whatever has become of it. -/
def Task.After (p : Program Outcome) (path : List Deed) : Task → Prop
  | .running q => p.Leads path q
  | .ended outcome => p.Leads path (.done outcome)
  | .aborted => ∃ q, p.Leads path q

namespace Run

variable {r : Run} {task : TaskId} {i j k m : Nat}

theorem task_succ {state : Task} (h : (r.world k).tasks[task]? = some state) :
    ∃ state', (r.world (k + 1)).tasks[task]? = some state' ∧
      ∀ p path, state.After p path → state'.After p (path ++ (r.deedOf? task k).toList) := by
  cases ht : r.transitions[k]? with
  | none =>
    refine ⟨state, (world_succ_of_none ht).symm ▸ h, ?_⟩
    intro p path hstate
    simpa [deedOf?, deed?, ht] using hstate
  | some t =>
    have hnone : (∀ d, (r.world k).deed? t ≠ some (task, d)) → r.deedOf? task k = none := by
      intro hd
      refine Option.eq_none_iff_forall_ne_some.mpr fun d h => hd d ?_
      simpa [Does, deed?, ht] using deedOf?_eq_some.mp h
    have hnot : (r.world k).deed? t = none → r.deedOf? task k = none :=
      fun e => hnone fun d hd => by simp [e] at hd
    obtain ⟨state', h', hstep⟩ := World.apply_task (t := t) h
    refine ⟨state', world_succ ht ▸ h', ?_⟩
    intro p path hstate
    -- Only a deed of the task itself adds to its path.
    cases hstep with
    | rest _ hd => simpa [hnone hd] using hstate
    | @deed a next reply hd =>
      have hdoes : r.deedOf? task k = some ⟨a, reply⟩ :=
        deedOf?_eq_some.mpr (by simpa [Does, deed?, ht] using hd)
      rw [hdoes]
      exact Program.Leads.snoc hstate reply
    | finish _ hd => simpa [hnot hd, Task.After] using hstate
    | abort _ hd => exact ⟨_, by simpa [hnot hd, Task.After] using hstate⟩

/-- A task that is there once is there from then on. -/
theorem task_mono {state : Task} (hij : i ≤ j) (h : (r.world i).tasks[task]? = some state) :
    ∃ state', (r.world j).tasks[task]? = some state' := by
  induction hij with
  | refl => exact ⟨state, h⟩
  | step _ ih =>
    obtain ⟨state', hstate'⟩ := ih
    obtain ⟨state'', hstate'', -⟩ := task_succ hstate'
    exact ⟨state'', hstate''⟩

/-- Whatever else happens meanwhile, a task follows a path of its program, until it has
ended or is dropped. -/
theorem task_after {p : Program Outcome} (hij : i ≤ j)
    (h : (r.world i).tasks[task]? = some (.running p)) :
    ∃ state, (r.world j).tasks[task]? = some state ∧ state.After p (r.deeds task i j) := by
  induction hij with
  | refl => exact ⟨_, h, deeds_self ▸ .nil p⟩
  | @step j hij ih =>
    obtain ⟨state, hstate, hafter⟩ := ih
    obtain ⟨state', hstate', hnext⟩ := task_succ hstate
    exact ⟨state', hstate', deeds_succ hij ▸ hnext p _ hafter⟩

/-- Between positions `i` and `j` a task works at the part `p` of its program, and `q` is
what is left of `p` at `j`. When `q` is `.done x`, the part has given `x` by then. -/
structure Runs (r : Run) (task : TaskId) (i : Nat) (p : Program α) (j : Nat) (q : Program α) :
    Prop where
  begins : ∃ f : α → Program Outcome, (r.world i).tasks[task]? = some (.running (p.bind f))
  le : i ≤ j
  leads : p.Leads (r.deeds task i j) q

/-- What a task that works at a part of its program stands at. -/
theorem Runs.rest {p q : Program α} (h : r.Runs task i p j q) :
    ∃ f : α → Program Outcome, (r.world i).tasks[task]? = some (.running (p.bind f)) ∧
      ∃ state, (r.world j).tasks[task]? = some state ∧
        (state = .running (q.bind f) ∨ state = .aborted ∨
          ∃ outcome, state = .ended outcome ∧ q.bind f = .done outcome) := by
  obtain ⟨f, hf⟩ := h.begins
  obtain ⟨state, hstate, hafter⟩ := task_after h.le hf
  have hq := h.leads.bind f
  refine ⟨f, hf, state, hstate, ?_⟩
  cases state with
  | running q' => exact .inl (congrArg Task.running (hafter.unique hq))
  | ended outcome => exact .inr (.inr ⟨outcome, rfl, hq.unique hafter⟩)
  | aborted => exact .inr (.inl rfl)

theorem Does.task_succ {a : Act} {reply : a.Reply} {next : a.Reply → Program Outcome}
    (h : r.Does k task a reply) (hrest : (r.world k).tasks[task]? = some (.running (.act a next))) :
    (r.world (k + 1)).tasks[task]? = some (.running (next reply)) := by
  obtain ⟨ht, next', w', hrest', hp⟩ := h.spec
  cases hrest.symm.trans hrest'
  have hstep : (r.world k).apply (.step task) = w'.setTask task (.running (next reply)) := by
    simp only [World.apply, World.step, hrest, hp]
  rw [world_succ ht, hstep]
  show (w'.tasks.set task _)[task]? = _
  rw [World.perform_tasks hp]
  exact List.getElem?_set_self (List.getElem?_eq_some_iff.mp hrest).1

/-- A page that a task opens is there. -/
theorem Does.opens {key : PageKey} {session : SessionId}
    (h : r.Does k task (.openPage session) key) : key < (r.world (k + 1)).pages.length := by
  obtain ⟨ht, next, w', htask, hp⟩ := h.spec
  have hlength : w'.pages.length = key + 1 := by
    obtain ⟨rfl, rfl⟩ := Prod.mk.inj (Option.some.inj hp)
    exact List.length_append
  rw [world_succ ht]
  simp only [World.apply, World.step, htask, hp]
  exact Nat.lt_of_lt_of_eq (Nat.lt_succ_self key) hlength.symm

/-- While a task does nothing it stands where it stood, if it is still there. -/
theorem task_of_quiet {p : Program Outcome} (hij : i ≤ j)
    (h : (r.world i).tasks[task]? = some (.running p)) (hquiet : r.deeds task i j = [])
    {q : Program Outcome} (hj : (r.world j).tasks[task]? = some (.running q)) : q = p := by
  obtain ⟨state, hstate, hafter⟩ := task_after hij h
  cases hj.symm.trans hstate
  rw [hquiet] at hafter
  exact Program.Leads.unique hafter (.nil p)

theorem deeds_at {d : Deed} (hik : i ≤ k) (hkj : k < j) (h : r.Does k task d.act d.reply) :
    r.deeds task i j = r.deeds task i k ++ d :: r.deeds task (k + 1) j := by
  rw [deeds_append (Nat.le_succ_of_le hik) hkj, deeds_succ_of_does hik h, List.append_assoc,
    List.singleton_append]

namespace Runs

/-- A part that has its result is over. -/
theorem of_done {x : α} {q : Program α} (h : r.Runs task i (.done x) j q) :
    r.deeds task i j = [] ∧ q = .done x :=
  h.leads.of_done

/-- A part begins with its first act, and goes on with what is left. -/
theorem of_act {a : Act} {next : a.Reply → Program α} {q : Program α}
    (h : r.Runs task i (.act a next) j q) :
    (r.deeds task i j = [] ∧ q = .act a next) ∨
      ∃ k reply, i ≤ k ∧ k < j ∧ r.deeds task i k = [] ∧ r.Does k task a reply ∧
        r.Runs task (k + 1) (next reply) j q := by
  rcases h.leads.of_act with hnothing | ⟨reply, rest, hdeeds, hrest⟩
  · exact .inl hnothing
  · obtain ⟨k, hik, hkj, hdoes, hbefore, hafter⟩ := deeds_cons hdeeds
    obtain ⟨f, hf⟩ := h.begins
    obtain ⟨-, next', -, hk, -⟩ := hdoes.spec
    have hprogram := task_of_quiet hik hf hbefore hk
    refine .inr ⟨k, reply, hik, hkj, hbefore, hdoes, ⟨f, ?_⟩, hkj, hafter ▸ hrest⟩
    exact hdoes.task_succ (hprogram ▸ hk)

/-- Of two parts in a row, the first is underway, or it has its result and the second is. -/
theorem of_bind {p : Program α} {f : α → Program β} {q : Program β}
    (h : r.Runs task i (p.bind f) j q) :
    (∃ a next, r.Runs task i p j (.act a next) ∧ q = (Program.act a next).bind f) ∨
      ∃ k x, r.Runs task i p k (.done x) ∧ r.Runs task k (f x) j q := by
  obtain ⟨g, hg⟩ := h.begins
  rw [Program.bind_assoc] at hg
  -- Along the deeds of the first program, until it has its result or the run is at `j`.
  induction p generalizing i with
  | done x =>
    refine .inr ⟨i, x, ⟨⟨_, hg⟩, Nat.le_refl i, ?_⟩, h⟩
    rw [deeds_self]
    exact .nil _
  | act a next ih =>
    rcases h.of_act with ⟨hquiet, rfl⟩ | ⟨k, reply, hik, hkj, hquiet, hdoes, hrest⟩
    · refine .inl ⟨a, next, ⟨⟨_, hg⟩, h.le, ?_⟩, rfl⟩
      rw [hquiet]
      exact .nil _
    · obtain ⟨-, next', -, hk, -⟩ := hdoes.spec
      have hprogram := task_of_quiet hik hg hquiet hk
      have hnext := hdoes.task_succ (hprogram ▸ hk)
      have hfirst : ∀ {j' : Nat} {q' : Program α}, k < j' →
          (next reply).Leads (r.deeds task (k + 1) j') q' →
            (Program.act a next).Leads (r.deeds task i j') q' := by
        intro j' q' hkj' hleads
        rw [deeds_at (d := ⟨a, reply⟩) hik hkj' hdoes, hquiet]
        exact .cons hleads
      rcases ih reply hrest hnext with ⟨a', next', hp', rfl⟩ | ⟨l, x, hp, hf⟩
      · exact .inl ⟨a', next', ⟨⟨_, hg⟩, h.le, hfirst hkj hp'.leads⟩, rfl⟩
      · have hil : i ≤ l := Nat.le_trans hik (Nat.le_of_succ_le hp.le)
        exact .inr ⟨l, x, ⟨⟨_, hg⟩, hil, hfirst hp.le hp.leads⟩, hf⟩

/-- A part of a program has one result, and does nothing after it. -/
theorem done_unique {p : Program α} {x x' : α} {j' : Nat} (h : r.Runs task i p j (.done x))
    (h' : r.Runs task i p j' (.done x')) (hjj' : j ≤ j') :
    x' = x ∧ r.deeds task j j' = [] := by
  have hlater := h'.leads
  rw [deeds_append h.le hjj'] at hlater
  obtain ⟨hquiet, hdone⟩ := (h.leads.of_append hlater).of_done
  exact ⟨Program.done.inj hdone, hquiet⟩

/-- A part that has its result keeps it. -/
theorem stays {p q : Program α} {x : α} (h : r.Runs task i p k (.done x)) (hq : r.Runs task i p j q)
    (hkj : k ≤ j) : q = .done x := by
  have hlater := hq.leads
  rw [deeds_append h.le hkj] at hlater
  exact (h.leads.of_append hlater).of_done.2

/-- Of two programs in a row the second has done what was done since the first has its result. -/
theorem since {p : Program α} {f : α → Program β} {q : Program β} {x : α}
    (h : r.Runs task i (p.bind f) j q) (hp : r.Runs task i p k (.done x)) (hkj : k ≤ j) :
    ∃ l, r.Runs task i p l (.done x) ∧ r.Runs task l (f x) j q ∧
      r.deeds task l j = r.deeds task k j ∧
        ∀ w a reply, k ≤ w → r.Does w task a reply → l ≤ w := by
  rcases h.of_bind with ⟨a, next, hunderway, -⟩ | ⟨l, y, hl, hrest⟩
  · cases hp.stays hunderway hkj
  refine ⟨l, ?_⟩
  rcases Nat.le_total l k with hlk | hkl
  · obtain ⟨rfl, hquiet⟩ := hl.done_unique hp hlk
    refine ⟨hl, hrest, ?_, fun w _ _ hkw _ => Nat.le_trans hlk hkw⟩
    rw [deeds_append hlk hkj, hquiet, List.nil_append]
  · obtain ⟨rfl, hquiet⟩ := hp.done_unique hl hkl
    refine ⟨hl, hrest, ?_, fun w _ _ hkw hw => ?_⟩
    · rw [deeds_append hkl hrest.le, hquiet, List.nil_append]
    · exact Nat.le_of_not_lt fun hwl => not_does_of_quiet hquiet hkw hwl hw

/-- What a part has come to on the way. -/
theorem upTo {p q : Program α} (h : r.Runs task i p j q) (hik : i ≤ k) (hkj : k ≤ j) :
    ∃ q', r.Runs task i p k q' := by
  have hleads := h.leads
  rw [deeds_append hik hkj] at hleads
  obtain ⟨q', hq', -⟩ := hleads.split
  exact ⟨q', h.begins, hik, hq'⟩

end Runs

end Run

/-! ### What can be done -/

/-- Whether a scope is that of a context. The scope of a barrier is its own affair: nobody
else cancels it, and nothing is derived from it. -/
def World.IsContext (w : World) (scope : ScopeId) : Prop :=
  scope < w.scopes.next ∧ ∀ b ∈ w.barriers, b.scope ≠ scope

/-- Whether whoever drives the machine has a half of a barrier. -/
def World.CallerHas (w : World) (half : Barrier → Option Holder) (key : BarrierKey) : Prop :=
  ∃ b, w.barriers[key]? = some b ∧ half b = some .caller

/-- What can be done in a world, with the means that the program gives:

* scopes are made and cancelled for contexts only;
* tasks are the library's programs, and are dropped only where they may have to wait, so
  not between two acts of a send that are done at one go;
* the reading is not stopped between its last two steps, which are done at one go;
* a barrier is armed on a page that is there, under a context that is there;
* only who has the half of a barrier can do something with it. -/
def Transition.Admissible (w : World) : Transition → Prop
  | .newScope (some parent) => w.IsContext parent
  | .cancel scope => w.IsContext scope
  | .spawn program => program.Orderly w.IsContext
  | .abort task => ∀ p, w.tasks[task]? = some (.running p) →
      p.Follows .idle ∨ (∃ id, p.Follows (.writing id)) ∨ ∃ id, p.Follows (.awaiting id)
  | .stopReading => w.inbound.reading ≠ .closing
  | .arm page ctx _ => page < w.pages.length ∧ w.IsContext ctx.scope
  | .armMilestone page ctx _ => page < w.pages.length ∧ w.IsContext ctx.scope
  | .giveWait barrier _ => w.CallerHas (·.waitHolder) barrier
  | .release barrier => w.CallerHas (·.releaseHolder) barrier
  | .dropWait barrier => w.CallerHas (·.waitHolder) barrier
  | .dropRelease barrier => w.CallerHas (·.releaseHolder) barrier
  | _ => True

/-- A run from the beginning in which only such things are done as can be. -/
structure Run.Admissible (r : Run) : Prop where
  initial : ∃ refused network, r.start = .initial refused network
  step : ∀ (k : Nat) (t : Transition), r.transitions[k]? = some t → t.Admissible (r.world k)

/-- A sequence of transitions that can be done from a world on. -/
def World.Admits (w : World) : List Transition → Prop
  | [] => True
  | t :: rest => t.Admissible w ∧ (w.apply t).Admits rest

theorem World.Admits.step {w : World} {ts : List Transition} (h : w.Admits ts) (k : Nat)
    (t : Transition) (ht : ts[k]? = some t) : t.Admissible (w.run (ts.take k)) := by
  induction ts generalizing w k with
  | nil => cases ht
  | cons t' rest ih =>
    cases k with
    | zero =>
      cases ht
      exact h.1
    | succ k => exact ih h.2 k ht

theorem Run.admissible_of_admits {refused : List String} {network : Network}
    {ts : List Transition} (h : (World.initial refused network).Admits ts) :
    Run.Admissible ⟨.initial refused network, ts⟩ :=
  ⟨⟨refused, network, rfl⟩, h.step⟩

end PagePilot
