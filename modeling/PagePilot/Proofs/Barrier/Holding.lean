import PagePilot.Proofs.Barrier.History
import PagePilot.Proofs.Barrier.Turn
/-!
# PagePilot.Proofs.Barrier.Holding

One barrier in a run: who has its halves, and whether it is matched.

* `Run.holding`: the halves of a barrier that a task has armed stay with the task until it
  lets go of the barrier or is gone, and nobody else ever gets one;
* `Run.matched_iff`: a barrier is matched by an event that it waits for and that reaches its
  page while its listener is there, and by nothing else.
-/

namespace PagePilot

open Wire

namespace Run

variable {r : Run} {task : TaskId} {k m : Nat} {key : BarrierKey} {a : Arming}

variable (r) in
/-- A task has something left to do. -/
def Running (k : Nat) (task : TaskId) : Prop :=
  ∃ p, (r.world k).tasks[task]? = some (.running p)

variable (r) in
/-- Between two positions a task has let go of a barrier, or it is gone by the second. -/
def LetsGo (m k : Nat) (task : TaskId) (key : BarrierKey) : Prop :=
  (∃ c, m < c ∧ c < k ∧ r.Does c task (.disarm key) ()) ∨ ¬ r.Running k task

theorem Does.deed {a : Act} {reply : a.Reply} {t : Transition} (h : r.Does k task a reply)
    (ht : r.transitions[k]? = some t) : (r.world k).deed? t = some (task, ⟨a, reply⟩) := by
  simpa [Does, deed?, ht] using h

/-- What a task arms. -/
theorem Does.arming {page : PageKey} {ctx : Context} {milestone : String}
    (h : r.Does m task (.arm page ctx milestone) key) :
    (r.world m).arming? (.step task) =
      some (key, ⟨page, ctx, Event.isMilestone ((r.world m).frameOf page) milestone⟩) := by
  simp [World.arming?, h.deed h.spec.1]

theorem Does.running {a : Act} {reply : a.Reply} (h : r.Does k task a reply) :
    r.Running k task := by
  obtain ⟨-, next, -, hrest, -⟩ := h.spec
  exact ⟨_, hrest⟩

theorem not_running_mono (hmk : m ≤ k) {state : Task}
    (h : (r.world m).tasks[task]? = some state) (hnot : ¬ r.Running m task) :
    ¬ r.Running k task := by
  induction hmk with
  | refl => exact hnot
  | @step k hmk ih =>
    obtain ⟨state', hstate'⟩ := task_mono hmk h
    rintro ⟨p, hp⟩
    cases ht : r.transitions[k]? with
    | none => exact ih ⟨p, world_succ_of_none ht ▸ hp⟩
    | some t =>
      exact World.not_running_apply hstate' (fun p hp => ih ⟨p, hp⟩) p (world_succ ht ▸ hp)

/-- What a task has let go of it does not get back. -/
theorem LetsGo.mono (h : r.LetsGo m k task key) {n : Nat} (hkn : k ≤ n) {state : Task}
    (htask : (r.world k).tasks[task]? = some state) : r.LetsGo m n task key := by
  rcases h with ⟨c, hmc, hck, hc⟩ | hnot
  · exact .inl ⟨c, hmc, Nat.lt_of_lt_of_le hck hkn, hc⟩
  · exact .inr (not_running_mono hkn htask hnot)

/-- What a task does to let go of a barrier takes both halves from it. -/
theorem abandoned_of_letsGo_succ {x x' : Barrier} {t : Transition}
    (ht : r.transitions[k]? = some t) (hx : (r.world k).barriers[key]? = some x)
    (hx' : (r.world (k + 1)).barriers[key]? = some x') (hown : x.OwnedBy task)
    (hrunning : r.Running k task)
    (h : r.Does k task (.disarm key) () ∨ ¬ r.Running (k + 1) task) :
    x'.halves = (none, none) := by
  have hdrop : x' = x.dropHalves (.task task) → x'.halves = (none, none) := by
    rintro rfl
    exact hown.dropHalves
  rw [world_succ ht] at hx'
  rcases h with hd | hnot
  · rw [World.barriers_of_disarm (hd.deed ht)] at hx'
    simp only [List.getElem?_modify, hx, if_pos, Option.map_eq_map, Option.map_some,
      Option.some.injEq] at hx'
    exact hdrop hx'.symm
  · obtain ⟨p, hp⟩ := hrunning
    rcases World.running_or_retires (t := t) hp with ⟨p', hp'⟩ | hretires
    · exact absurd ⟨p', world_succ ht ▸ hp'⟩ hnot
    · rw [World.barriers_of_retires hretires, List.getElem?_map, hx] at hx'
      exact hdrop (Option.some.inj hx').symm

theorem exists_between_succ (hmk : m < k) {P : Nat → Prop} :
    (∃ d, m < d ∧ d < k + 1 ∧ P d) ↔ (∃ d, m < d ∧ d < k ∧ P d) ∨ P k := by
  constructor
  · rintro ⟨d, hmd, hdk, hd⟩
    rcases Nat.lt_or_eq_of_le (Nat.lt_succ_iff.mp hdk) with hdk | rfl
    · exact .inl ⟨d, hmd, hdk, hd⟩
    · exact .inr hd
  · intro hbetween
    rcases hbetween with ⟨d, hmd, hdk, hd⟩ | hd
    · exact ⟨d, hmd, Nat.lt_succ_of_lt hdk, hd⟩
    · exact ⟨k, hmk, Nat.lt_succ_self k, hd⟩

theorem letsGo_succ_iff (hmk : m < k) {state : Task}
    (htask : (r.world k).tasks[task]? = some state) :
    r.LetsGo m (k + 1) task key ↔
      r.LetsGo m k task key ∨ r.Does k task (.disarm key) () ∨ ¬ r.Running (k + 1) task := by
  rw [LetsGo, exists_between_succ hmk]
  constructor
  · intro hgoes
    rcases hgoes with (hlet | hd) | hnot
    · exact .inl (.inl hlet)
    · exact .inr (.inl hd)
    · exact .inr (.inr hnot)
  · intro hgoes
    rcases hgoes with (hlet | hnot) | hd | hnot
    · exact .inl (.inl hlet)
    · exact .inr (not_running_mono (Nat.le_succ k) htask hnot)
    · exact .inl (.inr hd)
    · exact .inr hnot

/-- A barrier stays with its task, which lets go of it or ends, and nothing else takes the
halves away. -/
theorem owned_succ (hr : r.Admissible) {x : Barrier} (hx : (r.world k).barriers[key]? = some x)
    (hown : x.OwnedBy task) (hrunning : x.abandoned = true ∨ r.Running k task) :
    ∃ x', (r.world (k + 1)).barriers[key]? = some x' ∧ x'.OwnedBy task ∧
      (x'.abandoned = true ↔
        x.abandoned = true ∨ r.Does k task (.disarm key) () ∨ ¬ r.Running (k + 1) task) := by
  cases ht : r.transitions[k]? with
  | none =>
    have hnot : ¬ r.Does k task (.disarm key) () := fun hd => by cases ht.symm.trans hd.spec.1
    have hsame : r.Running (k + 1) task ↔ r.Running k task := by
      unfold Running
      rw [world_succ_of_none ht]
    refine ⟨x, (world_succ_of_none ht).symm ▸ hx, hown, .inl, ?_⟩
    intro hlost
    rcases hlost with habandoned | hd | hgone
    · exact habandoned
    · exact absurd hd hnot
    · exact hrunning.resolve_right fun h => hgone (hsame.mpr h)
  | some t =>
    obtain ⟨_, hx', f, matched, hgrips, rfl, -⟩ := (sound hr k).barrier (t := t) hx
    rw [← world_succ ht] at hx'
    have hhalves := hgrips.halves (hr.step k t ht) hx hown
    have hkept : x.halves = (none, none) → (f x).halves = (none, none) := by
      intro hnone
      rcases hhalves with h | ⟨h, -⟩
      · exact h.trans hnone
      · exact h
    refine ⟨_, hx', ?_, ?_⟩
    · rcases hhalves with h | ⟨h, -⟩
      · exact hown.congr h
      · exact .inr h
    · rw [Barrier.abandoned_iff, Barrier.abandoned_iff]
      constructor
      · intro hnone
        rcases hhalves with h | ⟨-, hd | hretires⟩
        · exact .inl (h.symm.trans hnone)
        · exact .inr (.inl (by simpa [Does, deed?, ht] using hd))
        · refine .inr (.inr ?_)
          intro hrunning
          obtain ⟨p, hp⟩ := hrunning
          exact World.not_running_of_retires hretires p (world_succ ht ▸ hp)
      · intro hlost
        rcases hlost with hnone | hgoes
        · exact hkept hnone
        · rcases hrunning with habandoned | hrunning
          · exact hkept (Barrier.abandoned_iff.mp habandoned)
          · exact abandoned_of_letsGo_succ ht hx hx' hown hrunning hgoes

/-- The halves of a barrier that a task has armed are with the task until it lets go of the
barrier or is gone, and with nobody from then on. -/
theorem holding (hr : r.Admissible) {page : PageKey} {ctx : Context} {milestone : String}
    (h : r.Does m task (.arm page ctx milestone) key) (hmk : m < k) :
    ∃ x, (r.world k).barriers[key]? = some x ∧ x.OwnedBy task ∧
      (x.abandoned = true ↔ r.LetsGo m k task key) := by
  obtain ⟨hm, next, w', hrest, hp⟩ := h.spec
  induction hmk with
  | refl =>
    obtain ⟨x, holder, hx, -, hhalves, hholder⟩ := World.barrier_of_arming h.arming
    obtain rfl := hholder task _ (h.deed hm)
    refine ⟨x, world_succ hm ▸ hx, .inl hhalves, ?_⟩
    rw [Barrier.abandoned_iff, hhalves]
    refine iff_of_false (by simp) ?_
    intro hgoes
    rcases hgoes with ⟨c, hmc, hcm, -⟩ | hnot
    · omega
    · exact hnot ⟨_, h.task_succ hrest⟩
  | @step k hmk ih =>
    obtain ⟨x, hx, hown, hiff⟩ := ih
    obtain ⟨state, hstate⟩ := task_mono (Nat.le_of_lt hmk) hrest
    -- A task that is gone has let go already, so nothing is left for the step to take.
    have hrunning : x.abandoned = true ∨ r.Running k task := by
      by_cases h : r.Running k task
      · exact .inr h
      · exact .inl (hiff.mpr (.inr h))
    obtain ⟨x', hx', hown', hiff'⟩ := owned_succ hr hx hown hrunning
    exact ⟨x', hx', hown',
      hiff'.trans ((or_congr_left hiff).trans (letsGo_succ_iff hmk hstate).symm)⟩

/-- Nobody releases a barrier that a task has armed for itself. -/
theorem not_released (hr : r.Admissible) {page : PageKey} {ctx : Context} {milestone : String}
    (h : r.Does m task (.arm page ctx milestone) key) : ¬ r.Released k key := by
  rintro ⟨c, -, hc⟩
  obtain ⟨x, hx, hcaller⟩ : (r.world c).CallerHas (·.releaseHolder) key := hr.step c _ hc
  rcases Nat.lt_or_ge m c with hmc | hcm
  · obtain ⟨y, hy, hown, -⟩ := holding hr h hmc
    cases hx.symm.trans hy
    exact hown.not_caller.2 hcaller
  · have hplace := place?_mono hr hcm (World.place?_of_barrier hx)
    rw [(World.armsBy_of_arming h.arming).1] at hplace
    cases Board.place?_length.symm.trans hplace

/-! ### The match of a barrier -/

/-- A barrier keeps its scope and its context. -/
theorem barrier_mono (hr : r.Admissible) (hmk : m ≤ k) {x y : Barrier}
    (hy : (r.world m).barriers[key]? = some y) (hx : (r.world k).barriers[key]? = some x) :
    x.scope = y.scope ∧ x.ctx = y.ctx := by
  have hlater := place?_mono hr hmk (World.place?_of_barrier hy)
  exact Prod.mk.inj (Option.some.inj ((World.place?_of_barrier hx).symm.trans hlater))

/-- The context of a barrier is the one under which it was armed. -/
theorem Arms.barrier (hr : r.Admissible) (ha : r.Arms m key a) {l : Nat} (hml : m < l)
    (hlk : l ≤ k) {x : Barrier} (hx : (r.world k).barriers[key]? = some x) :
    (r.world l).board.place? key = some (x.scope, a.ctx) ∧ x.ctx = a.ctx := by
  rw [← staggered_world] at hx ⊢
  exact (staggered_arms.mpr ha).barrier hr.staggered hml hlk hx

/-- A barrier is matched when an event that it waits for has reached its page while its
listener was there. -/
theorem matched_iff (hr : r.Admissible) (ha : r.Arms m key a) (hmk : m < k) {x : Barrier}
    (hx : (r.world k).barriers[key]? = some x) :
    x.matched = true ↔ ∃ d, m < d ∧ d < k ∧ (r.world d).scopes.isCancelled x.scope = false ∧
      ∃ event, r.Delivers d a.page event ∧ a.wanted event = true := by
  have hr' := hr.staggered
  have ha' := staggered_arms.mpr ha
  have hx' := hx
  rw [← staggered_world] at hx'
  rw [← Staggered.matched_iff_of_barrier hx', Staggered.matched_iff_sets hr' ha' hmk]
  have hplace := fun d hmd (hdk : d < k) => (ha'.barrier hr' hmd (Nat.le_of_lt hdk) hx').1
  constructor
  · rintro ⟨s, d, event, hdk, hsets⟩
    have hms := hsets.hasTurn.armed hr' ha'
    obtain ⟨scope, hturn, hlive⟩ := hsets.called
    obtain ⟨-, -, -, hplace'⟩ := hturn.barrier hr' ha'
    cases hturn with
    | apart hstart => simp [staggered] at hstart
    | atOnce hbeat hdelivered _ hsd =>
      subst hsd
      cases (hplace s hms hdk).symm.trans (hplace' s (Nat.le_refl s))
      rw [staggered_world] at hdelivered hlive
      exact ⟨s, hms, hdk, hlive, event, ⟨_, staggered_beat.mp hbeat, hdelivered⟩, hsets.wanted⟩
  · rintro ⟨d, hmd, hdk, hlive, event, ⟨t, ht, hdelivered⟩, hwanted⟩
    rw [← staggered_world] at hdelivered hlive
    have hturn := Staggered.Turn.atOnce (staggered_beat.mpr ht) hdelivered
      (ha'.live hr' hmd (hplace d hmd hdk) hlive) rfl
    exact ⟨d, d, event, hdk, ⟨_, hturn, hlive⟩, hwanted⟩

/-- An event that a task waits for is not missed, as long as the task has its barrier and
the context is not cancelled. -/
theorem matched_of_delivers (hr : r.Admissible) {page : PageKey} {ctx : Context}
    {milestone : String} (h : r.Does m task (.arm page ctx milestone) key)
    (ha : r.Arms m key a) {d : Nat} (hmd : m < d) (hdk : d < k) {event : Event}
    (hd : r.Delivers d a.page event) (hwanted : a.wanted event = true)
    (hctx : (r.world d).scopes.isCancelled ctx.scope = false)
    (hkeeps : ¬ r.LetsGo m d task key) {x : Barrier}
    (hx : (r.world k).barriers[key]? = some x) : x.matched = true := by
  obtain ⟨y, hy, -, hiff⟩ := holding hr h hmd
  have hplace := World.place?_of_barrier hy
  have hscope : x.scope = y.scope := (barrier_mono hr (Nat.le_of_lt hdk) hy hx).1
  have hyctx : y.ctx = ctx := by
    have harmed := (ha.barrier hr hmd (Nat.le_refl d) hy).2
    obtain ⟨t, ht, harming, -⟩ := ha
    cases h.spec.1.symm.trans ht
    cases h.arming.symm.trans harming
    exact harmed
  rw [matched_iff hr ha (Nat.lt_trans hmd hdk) hx, hscope]
  by_cases hlive : (r.world d).scopes.isCancelled y.scope = true
  · -- The listener is gone only because the barrier is matched already.
    rcases (isCancelled_barrier hr hy).mp hlive with hmatched | hreleased | habandoned | hcancelled
    · obtain ⟨d', hmd', hd'd, hd'⟩ := (matched_iff hr ha hmd hy).mp hmatched
      exact ⟨d', hmd', Nat.lt_trans hd'd hdk, hd'⟩
    · exact absurd hreleased (not_released hr h)
    · exact absurd (hiff.mp habandoned) hkeeps
    · have hcontext := (sound hr d).tidy.isContext hplace
      rw [← isCancelled_context hr hcontext, hyctx, hctx] at hcancelled
      cases hcancelled
  · exact ⟨d, hmd, hdk, by simpa using hlive, event, hd, hwanted⟩

end Run

end PagePilot
