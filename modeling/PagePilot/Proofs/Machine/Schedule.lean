import PagePilot.Proofs.Barrier.History
import PagePilot.Proofs.Machine.Turn
/-!
# PagePilot.Proofs.Machine.Schedule

The order of turns as one of many. A machine goes on by turns, and whatever it does happens to its
world in a run: `World.Goes` says that any run that has come to one world can be gone on with, so
that it comes to another one, and each part of a machine goes on in that way
(`Machine.goes_settle`, `Machine.goes_advance`).

A run is gone on with only where no task is in the middle of a send, as it is between two turns
(`Run.ComesTo`). So a task may be dropped there.
-/

namespace PagePilot

open Wire

/-! ### Going on with a run -/

namespace Run

variable {r : Run} {more after : List Transition} {k : Nat}

/-- A run with more transitions at its end. -/
def extend (r : Run) (more : List Transition) : Run :=
  { r with transitions := r.transitions ++ more }

/-- The world after all transitions. -/
def last (r : Run) : World :=
  r.world r.transitions.length

theorem extend_nil (r : Run) : r.extend [] = r := by
  simp [extend]

theorem extend_extend (r : Run) (more after : List Transition) :
    (r.extend more).extend after = r.extend (more ++ after) := by
  simp [extend]

theorem last_eq (r : Run) : r.last = r.start.run r.transitions := by
  simp [last, world]

theorem last_extend (r : Run) (more : List Transition) :
    (r.extend more).last = r.last.run more := by
  rw [last_eq, last_eq]
  exact List.foldl_append

theorem world_extend (h : k ≤ r.transitions.length) : (r.extend more).world k = r.world k := by
  show r.start.run ((r.transitions ++ more).take k) = r.start.run (r.transitions.take k)
  rw [List.take_append_of_le_length h]

theorem last_eq_world_extend (r : Run) (more : List Transition) :
    r.last = (r.extend more).world r.transitions.length :=
  (world_extend (Nat.le_refl _)).symm

theorem length_le_extend (r : Run) (more : List Transition) :
    r.transitions.length ≤ (r.extend more).transitions.length := by
  simp [extend]

theorem Admissible.extend (hr : r.Admissible) (h : r.last.Admits more) :
    (r.extend more).Admissible where
  initial := hr.initial
  step k t ht := by
    rcases Nat.lt_or_ge k r.transitions.length with hlt | hge
    · rw [world_extend (Nat.le_of_lt hlt)]
      exact hr.step k t ((List.getElem?_append_left hlt).symm.trans ht)
    · obtain ⟨l, rfl⟩ := Nat.exists_eq_add_of_le hge
      have hworld :
          (r.extend more).world (r.transitions.length + l) = r.last.run (more.take l) := by
        show r.start.run ((r.transitions ++ more).take _) = _
        rw [List.take_length_add_append, last_eq]
        exact List.foldl_append
      rw [hworld]
      refine h.step l t ?_
      have hright := (List.getElem?_append_right hge).symm.trans ht
      rwa [Nat.add_sub_cancel_left] at hright

end Run

/-- A task that ends with a page has opened it. -/
def Program.HandsOpened (p : Program Outcome) : Prop :=
  ∀ path key, p.Leads path (.done (.operation (.ok (.page key)))) →
    ∃ session, ⟨.openPage session, key⟩ ∈ path

/-- A run has come to a world, and no task is in the middle of a send. -/
structure Run.ComesTo (r : Run) (w : World) : Prop where
  admissible : r.Admissible
  last : r.last = w
  opened : ∀ p, .spawn p ∈ r.transitions → p.HandsOpened
  rests : ∀ (task : TaskId) (p : Program Outcome), w.tasks[task]? = some (.running p) → p.Rests

namespace Run.ComesTo

variable {r : Run} {w w' : World} {more : List Transition}

/-- A context stays one. -/
theorem isContext (h : r.ComesTo w) (h' : (r.extend more).ComesTo w') {scope : ScopeId}
    (hscope : w.IsContext scope) : w'.IsContext scope := by
  rw [← h.last, r.last_eq_world_extend more, World.isContext_iff] at hscope
  rw [← h'.last, Run.last, World.isContext_iff]
  exact isContext_mono h'.admissible (r.length_le_extend more) hscope

/-- A scope that is made is that of a context. -/
theorem isContext_newScope (h : r.ComesTo w) (parent : Option ScopeId) :
    (w.apply (.newScope parent)).IsContext w.scopes.next := by
  have hnext : (w.apply (.newScope parent)).scopes.next = w.scopes.next + 1 := by
    cases parent <;> exact List.length_append
  refine ⟨Nat.lt_of_lt_of_eq (Nat.lt_succ_self _) hnext.symm, fun b hb hscope => ?_⟩
  obtain ⟨key, hkey⟩ := List.mem_iff_getElem?.mp hb
  have htidy : w.board.Tidy := by
    rw [← h.last]
    exact (sound h.admissible _).tidy
  have hchild := htidy.child key _ _ (World.place?_of_barrier hkey)
  exact Nat.lt_irrefl _ (hscope ▸ Scopes.lt_next_of_parentOf? hchild)

/-- A page stays. -/
theorem page (h : r.ComesTo w) (h' : (r.extend more).ComesTo w') {key : PageKey}
    (hkey : key < w.pages.length) : key < w'.pages.length := by
  have hiff : ∀ w : World, (w.board.listeners key).isSome ↔ key < w.pages.length := by
    simp [World.board]
  rw [← h.last, r.last_eq_world_extend more, ← hiff] at hkey
  rw [← h'.last, Run.last, ← hiff]
  exact page_mono h'.admissible (r.length_le_extend more) hkey

/-- A page that a task has ended with is there. -/
theorem page_of_outcome (h : r.ComesTo w) {task : TaskId} {key : PageKey}
    (hended : w.tasks[task]? = some (.ended (.operation (.ok (.page key))))) :
    key < w.pages.length := by
  rw [← h.last] at hended
  obtain ⟨p, hspawn, -, hleads⟩ := spawned_of_task h.admissible hended
  obtain ⟨session, hmem⟩ := h.opened p hspawn _ key hleads
  obtain ⟨k, -, hk, hdoes⟩ := mem_deeds.mp hmem
  have hthere : ((r.world (k + 1)).board.listeners key).isSome := by
    simpa [World.board] using hdoes.opens
  have hlast := page_mono h.admissible (Nat.succ_le_of_lt hk) hthere
  rw [← h.last, Run.last]
  simpa [World.board] using hlast

/-- A run is gone on with by anything that is admissible and no step of a task. -/
theorem apply (h : r.ComesTo w) {t : Transition} (ht : t.Admissible w)
    (hstep : ∀ task, t ≠ .step task) (hspawn : ∀ p, t = .spawn p → p.HandsOpened) :
    (r.extend [t]).ComesTo (w.apply t) where
  admissible := h.admissible.extend ⟨h.last.symm ▸ ht, trivial⟩
  last := by
    rw [last_extend, h.last]
    rfl
  opened p hp := by
    rcases List.mem_append.mp hp with hp | hp
    · exact h.opened p hp
    · exact hspawn p (List.mem_singleton.mp hp).symm
  rests task p hp := by
    cases hbefore : w.tasks[task]? with
    | none =>
      obtain ⟨q, rfl, -, hq⟩ := World.spawn_of_apply hbefore hp
      have horderly : q.Orderly w.IsContext := ht
      cases hq
      exact .inl horderly.follows
    | some state =>
      obtain ⟨state', hstate', htask⟩ := World.apply_task (t := t) hbefore
      cases hp.symm.trans hstate'
      cases htask with
      | rest => exact h.rests task p hbefore
      | deed hd => exact absurd (World.deed?_eq_some hd).1 (hstep task)

end Run.ComesTo

/-! ### From one world to another -/

/-- Every run that has come to one world can be gone on with to come to another one. -/
def World.Goes (w w' : World) : Prop :=
  ∀ r : Run, r.ComesTo w → ∃ more, (r.extend more).ComesTo w'

namespace World.Goes

variable {w w' w'' : World}

theorem refl (w : World) : w.Goes w :=
  fun r hr => ⟨[], r.extend_nil.symm ▸ hr⟩

theorem trans (h : w.Goes w') (h' : w'.Goes w'') : w.Goes w'' := by
  intro r hr
  obtain ⟨more, hmore⟩ := h r hr
  obtain ⟨after, hafter⟩ := h' _ hmore
  exact ⟨more ++ after, r.extend_extend more after ▸ hafter⟩

/-- Anything may happen that is admissible and no step of a task. -/
theorem apply (t : Transition) (ht : ∀ r : Run, r.ComesTo w → t.Admissible w)
    (hstep : ∀ task, t ≠ .step task) (hspawn : ∀ p, t = .spawn p → p.HandsOpened) :
    w.Goes (w.apply t) :=
  fun r hr => ⟨[t], hr.apply (ht r hr) hstep hspawn⟩

/-- A task may have its turn. -/
theorem turn (w : World) (task : TaskId) : w.Goes (w.turn task) := by
  intro r hr
  obtain ⟨n, hn⟩ := w.turn_eq_run task
  have hadmits : ∀ (n : Nat) (w : World), w.Admits (List.replicate n (.step task)) := by
    intro n
    induction n with
    | zero => exact fun _ => trivial
    | succ n ih => exact fun w => ⟨trivial, ih _⟩
  have hadmissible := hr.admissible.extend (hadmits n r.last)
  have hlast : (r.extend (List.replicate n (.step task))).last = w.turn task := by
    rw [Run.last_extend, hr.last, hn]
  refine ⟨_, hadmissible, hlast, fun p hp => ?_, fun other p hp => ?_⟩
  · rcases List.mem_append.mp hp with hp | hp
    · exact hr.opened p hp
    · cases List.eq_of_mem_replicate hp
  · by_cases hother : other = task
    · subst hother
      obtain ⟨a, next, w', rfl, hstuck⟩ := World.stuck_of_turn hp
      rw [← hlast] at hp
      exact Program.rests_of_stuck (Run.follows_stage hadmissible hp) hstuck
    · exact hr.rests other p (World.turn_task_of_ne hother ▸ hp)

end World.Goes

/-! ### Machines -/

namespace Machine

variable (m : Machine)

theorem goes_readAll (n : Nat) : m.world.Goes (m.readAll n).world := by
  induction n generalizing m with
  | zero => exact .refl _
  | succ n ih =>
    rw [readAll]
    split
    · exact (World.Goes.apply .read (fun _ _ => trivial) nofun nofun).trans
        (ih ({ m with world := m.world.apply .read }.wakeBut (some .reader)))
    · exact .refl _

theorem goes_turn (r : Runner) : m.world.Goes (m.turn r).world := by
  cases r with
  | receiver => exact .apply .receive (fun _ _ => trivial) nofun nofun
  | reader => exact m.goes_readAll _
  | task id => exact .turn m.world id

theorem goes_turns (n : Nat) : m.world.Goes (m.turns n).world := by
  induction n generalizing m with
  | zero => exact .refl _
  | succ n ih =>
    rw [turns]
    split
    · exact .refl _
    next r rest _ => exact (goes_turn { m with queue := rest } r).trans (ih _)

theorem goes_settle : m.world.Goes m.settle.world :=
  m.wake.goes_turns _

theorem goes_advance (duration : Nat) : m.world.Goes (m.advance duration).world := by
  have htick : m.world.Goes (m.apply (.tick duration)).world :=
    .apply (.tick duration) (fun _ _ => trivial) nofun nofun
  exact (htick.trans (goes_settle _)).trans (.apply .serve (fun _ _ => trivial) nofun nofun)

end Machine

end PagePilot
