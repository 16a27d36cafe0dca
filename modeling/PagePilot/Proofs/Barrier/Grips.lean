import PagePilot.Proofs.Barrier.Sound
/-!
# PagePilot.Proofs.Barrier.Grips

What a transition makes of one barrier.

* `World.Grips` is what becomes of its halves: they are given, let go of, or lost with the task
  that has them, and nobody but the task itself takes from it what it has
  (`World.Grips.halves`);
* `World.Becomes` adds the match, which comes from an event that hits the barrier. For a
  barrier that was armed, `Board.Registered.hits_iff` tells which events do.
-/

namespace PagePilot

open Wire

/-! ### The halves of a barrier -/

namespace Barrier

/-- Who has the half to wait with, and who the one to release with. -/
def halves (x : Barrier) : Option Holder × Option Holder :=
  (x.waitHolder, x.releaseHolder)

/-- A task has both halves, or nobody has any. -/
def OwnedBy (x : Barrier) (task : TaskId) : Prop :=
  x.halves = (some (.task task), some (.task task)) ∨ x.halves = (none, none)

variable {x : Barrier} {task : TaskId}

theorem abandoned_iff : x.abandoned = true ↔ x.halves = (none, none) := by
  simp [abandoned, halves, Prod.ext_iff]

theorem halves_dropHalves (x : Barrier) (holder : Holder) :
    (x.dropHalves holder).halves =
      (x.waitHolder.filter (· ≠ holder), x.releaseHolder.filter (· ≠ holder)) := rfl

theorem OwnedBy.congr {x' : Barrier} (h : x.OwnedBy task) (heq : x'.halves = x.halves) :
    x'.OwnedBy task :=
  h.imp heq.trans heq.trans

theorem OwnedBy.dropHalves (h : x.OwnedBy task) :
    (x.dropHalves (.task task)).halves = (none, none) := by
  rw [halves_dropHalves]
  rcases h with h | h <;> obtain ⟨hw, hr⟩ := Prod.mk.inj h <;> simp [hw, hr]

theorem OwnedBy.dropHalves_of_ne (h : x.OwnedBy task) {holder : Holder}
    (hne : holder ≠ .task task) : (x.dropHalves holder).halves = x.halves := by
  rw [halves_dropHalves]
  rcases h with h | h <;> obtain ⟨hw, hr⟩ := Prod.mk.inj h <;>
    simp [halves, hw, hr, Ne.symm hne]

theorem OwnedBy.not_caller (h : x.OwnedBy task) :
    x.waitHolder ≠ some .caller ∧ x.releaseHolder ≠ some .caller := by
  rcases h with h | h <;> obtain ⟨hw, hr⟩ := Prod.mk.inj h <;> simp [hw, hr]

end Barrier

namespace World

/-- What becomes of the halves of a barrier by a transition. -/
inductive Grips (w : World) (t : Transition) (key : BarrierKey) : (Barrier → Barrier) → Prop
  | keep : Grips w t key fun x => x
  | give (task : TaskId) (ht : t = .giveWait key task) :
      Grips w t key fun x => { x with waitHolder := some (.task task) }
  | loosen {f : Barrier → Barrier} (h : w.Loosens t key f) : Grips w t key f
  | retire {task : TaskId} (h : w.Retires t task) : Grips w t key (·.dropHalves (.task task))

variable {w : World} {armed : BarrierKey → Arming → Prop} {released : BarrierKey → Prop}
  {cancelled : ScopeId → Prop} {t : Transition} {key : BarrierKey} {x : Barrier}

theorem delivered?_of_arming {key : BarrierKey} {a : Arming} (h : w.arming? t = some (key, a)) :
    w.delivered? t = none := by
  cases (armsBy_of_arming h).2 <;> rfl

variable (w t key) in
/-- What a transition makes of a barrier: it changes hands, or it is matched by an event. -/
def Becomes (x x' : Barrier) : Prop :=
  ∃ f m, w.Grips t key f ∧ x' = { f x with matched := m } ∧
    (m = true ↔ x.matched = true ∨
      ∃ page event, w.delivered? t = some (page, event) ∧ w.board.Hits page event key)

theorem Becomes.of_grips {f : Barrier → Barrier} (h : w.Grips t key f)
    (hmatched : (f x).matched = x.matched) (hnone : w.delivered? t = none) :
    w.Becomes t key x (f x) :=
  ⟨f, x.matched, h, by rw [← hmatched], by simp [hnone]⟩

theorem Sound.barrier (h : w.Sound armed released cancelled) (hx : w.barriers[key]? = some x) :
    ∃ x', (w.apply t).barriers[key]? = some x' ∧ w.Becomes t key x x' := by
  obtain ⟨w₀, w₁, h₀, hstep, h₁⟩ := (apply_board w t).step
  have hbarriers : (w.apply t).barriers = w₁.barriers := congrArg Board.barriers h₁
  have hbarriers₀ : w₀.barriers = w.barriers := congrArg Board.barriers h₀
  rw [hbarriers]
  rw [← hbarriers₀] at hx
  have hkeep : w₁.barriers = w₀.barriers → w.delivered? t = none →
      ∃ x', w₁.barriers[key]? = some x' ∧ w.Becomes t key x x' :=
    fun heq hnone => ⟨x, heq ▸ hx, .of_grips .keep rfl hnone⟩
  have hmodify : ∀ key' f, w₁.barriers = w₀.barriers.modify key' f →
      (key' = key → w.Grips t key f) → (f x).matched = x.matched → w.delivered? t = none →
        ∃ x', w₁.barriers[key]? = some x' ∧ w.Becomes t key x x' := by
    intro key' f heq hgrips hmatched hnone
    rw [heq, List.getElem?_modify, hx]
    by_cases hkey : key' = key
    · exact ⟨f x, by simp [hkey], .of_grips (hgrips hkey) hmatched hnone⟩
    · exact ⟨x, by simp [hkey], .of_grips .keep rfl hnone⟩
  cases hstep with
  | rest hp => exact hkeep rfl hp.delivered
  | newScope parent ht => exact hkeep rfl (by simp [ht, delivered?])
  | cancel scope ht => exact hkeep rfl (by simp [ht, delivered?])
  | openPage session frame holder hp => exact hkeep rfl hp.delivered
  | @arm a holder ha _ =>
    refine ⟨x, ?_, .of_grips .keep rfl (delivered?_of_arming ha)⟩
    exact (List.getElem?_append_left (List.getElem?_eq_some_iff.mp hx).1).trans hx
  | give key' task ht =>
    exact hmodify key' _ rfl (fun hkey => .give task (hkey ▸ ht)) rfl (by simp [ht, delivered?])
  | release key' ht => exact hkeep (release_barriers ..) (by simp [ht, delivered?])
  | @loosen key' f hl =>
    exact hmodify key' f rfl (fun hkey => .loosen (hkey ▸ hl)) (hl.matched x) hl.plain.delivered
  | @retire task hp =>
    refine ⟨_, ?_, .of_grips (.retire hp) rfl hp.plain.delivered⟩
    show (w₀.barriers.map (Barrier.dropHalves (.task task)))[key]? = _
    rw [List.getElem?_map, hx]
    rfl
  | listen page scope recorder ht => exact hkeep rfl (by simp [ht, delivered?])
  | @deliver page event hd =>
    have hmatches := (deliver_matches (h₀ ▸ h.tidy) page event
      fun l hl => (h₀ ▸ h.registered).place hl).1
    obtain ⟨m, hm, hiff⟩ := hmatches.barrier key x hx
    refine ⟨_, hm, _, m, .keep, rfl, hiff.trans (or_congr_right ?_)⟩
    rw [h₀]
    refine ⟨fun hhits => ⟨page, event, hd, hhits⟩, ?_⟩
    rintro ⟨page', event', hd', hhits⟩
    cases hd.symm.trans hd'
    exact hhits

/-- A task that lets go of a barrier does so at once. -/
theorem barriers_of_disarm {task : TaskId} (hd : w.deed? t = some (task, ⟨.disarm key, ()⟩)) :
    (w.apply t).barriers = w.barriers.modify key (·.dropHalves (.task task)) := by
  obtain ⟨rfl, next, w', hrest, hp⟩ := deed?_eq_some hd
  simp only [apply, step, hrest, hp]
  cases hp
  rfl

/-- A task that ends or is dropped lets go of everything. -/
theorem barriers_of_retires {task : TaskId} (h : w.Retires t task) :
    (w.apply t).barriers = w.barriers.map (Barrier.dropHalves (.task task)) := by
  cases h with
  | finish h =>
    simp only [apply, step, h]
    rfl
  | abort h =>
    simp only [apply, abort, h]
    rfl

/-- A barrier comes into being with both halves in one hand. -/
theorem barrier_of_arming {a : Arming} (h : w.arming? t = some (key, a)) :
    ∃ x holder, (w.apply t).barriers[key]? = some x ∧ x.matched = false ∧
      x.halves = (some holder, some holder) ∧
        ∀ task d, w.deed? t = some (task, d) → holder = .task task := by
  have hlast : ∀ x : Barrier, (w.barriers ++ [x])[w.barriers.length]? = some x :=
    fun x => List.getElem?_concat_length
  obtain ⟨rfl, hby⟩ := armsBy_of_arming h
  cases hby with
  | caller | milestone =>
    exact ⟨_, .caller, hlast _, rfl, rfl, fun _ _ hd => nomatch (deed?_eq_some hd).1⟩
  | @task task page ctx milestone next hrest =>
    refine ⟨{ scope := w.scopes.next, ctx, matched := false, waitHolder := some (.task task),
              releaseHolder := some (.task task) }, .task task, ?_, rfl, rfl, fun task' d hd => ?_⟩
    · simp only [apply, step, hrest, perform]
      exact hlast _
    · obtain ⟨heq, -⟩ := deed?_eq_some hd
      cases heq
      rfl

/-- Nobody but the task itself can take from it the halves of a barrier. -/
theorem Grips.halves {f : Barrier → Barrier} {task : TaskId} (h : w.Grips t key f)
    (ht : t.Admissible w) (hx : w.barriers[key]? = some x) (hown : x.OwnedBy task) :
    (f x).halves = x.halves ∨ ((f x).halves = (none, none) ∧
      (w.deed? t = some (task, ⟨.disarm key, ()⟩) ∨ w.Retires t task)) := by
  have hcaller : ∀ half : Barrier → Option Holder, w.CallerHas half key →
      half x = some .caller := by
    rintro half ⟨y, hy, hhalf⟩
    cases hx.symm.trans hy
    exact hhalf
  have hnot := hown.not_caller
  cases h with
  | keep => exact .inl rfl
  | give task' heq =>
    subst heq
    exact absurd (hcaller _ ht) hnot.1
  | retire hp =>
    rename_i task'
    by_cases htask : task' = task
    · subst htask
      exact .inr ⟨hown.dropHalves, .inr hp⟩
    · exact .inl (hown.dropHalves_of_ne (by simpa using htask))
  | loosen hl =>
    cases hl with
    | @disarm _ task' _ hd =>
      by_cases htask : task' = task
      · subst htask
        exact .inr ⟨hown.dropHalves, .inl hd⟩
      · exact .inl (hown.dropHalves_of_ne (by simpa using htask))
    | dropHalves => exact .inl (hown.dropHalves_of_ne (by simp))
    | dropWait => exact absurd (hcaller _ ht) hnot.1
    | dropRelease => exact absurd (hcaller _ ht) hnot.2

/-- A task that runs goes on, or ends or is dropped. -/
theorem running_or_retires {task : TaskId} {p : Program Outcome}
    (h : w.tasks[task]? = some (.running p)) :
    (∃ p', (w.apply t).tasks[task]? = some (.running p')) ∨ w.Retires t task := by
  obtain ⟨state, hstate, hstep⟩ := apply_task (t := t) h
  cases hstep with
  | rest | deed => exact .inl ⟨_, hstate⟩
  | finish heq =>
    subst heq
    exact .inr (.finish h)
  | abort heq =>
    subst heq
    exact .inr (.abort h)

theorem not_running_of_retires {task : TaskId} (h : w.Retires t task) (p : Program Outcome) :
    (w.apply t).tasks[task]? ≠ some (.running p) := by
  cases h with
  | @finish _ outcome h =>
    have happly : (w.apply (.step task)).tasks = w.tasks.set task (.ended outcome) := by
      simp only [apply, step, h]
      rfl
    rw [happly, List.getElem?_set_self (List.getElem?_eq_some_iff.mp h).1]
    simp
  | abort h =>
    have happly : (w.apply (.abort task)).tasks = w.tasks.set task .aborted := by
      simp only [apply, abort, h]
      rfl
    rw [happly, List.getElem?_set_self (List.getElem?_eq_some_iff.mp h).1]
    simp

/-- A task that does not run does not start again. -/
theorem not_running_apply {task : TaskId} {state : Task} (h : w.tasks[task]? = some state)
    (hnot : ∀ p, w.tasks[task]? ≠ some (.running p)) (p : Program Outcome) :
    (w.apply t).tasks[task]? ≠ some (.running p) := by
  intro hp
  obtain ⟨state', hstate', hstep⟩ := apply_task (t := t) h
  cases hp.symm.trans hstate'
  cases hstep with
  | rest => exact hnot p h
  | deed => exact hnot _ h

end World

/-- The barrier that was armed is hit by the events that it waits for, on its page. -/
theorem Board.Registered.hits_iff {b : Board} {armed : BarrierKey → Arming → Prop}
    (h : b.Registered armed) {key : BarrierKey} {a : Arming} (ha : armed key a)
    (hone : ∀ a', armed key a' → a' = a) {scope : ScopeId}
    (hplace : b.place? key = some (scope, a.ctx)) {page : PageKey} {event : Event} :
    b.Hits page event key ↔
      page = a.page ∧ a.wanted event = true ∧ b.scopes.isCancelled scope = false := by
  constructor
  · rintro ⟨l, reg, wanted, hl, hreg, heq, hwanted, hlive⟩
    obtain ⟨ctx, hplace', harmed⟩ := h.known page l reg key wanted hl hreg heq
    obtain rfl := hone _ harmed
    cases hplace.symm.trans hplace'
    exact ⟨rfl, hwanted, hlive⟩
  · rintro ⟨rfl, hwanted, hlive⟩
    obtain ⟨l, hl, hreg⟩ := h.kept key a scope ha hplace hlive
    exact ⟨l, _, a.wanted, hl, hreg, rfl, hwanted, hlive⟩

end PagePilot
