import PagePilot.Proofs.Barrier.Sound
/-!
# PagePilot.Proofs.Barrier.Staggered

Barriers in staggered runs. What is known of a board at a position follows from what happened
before it: which barriers were armed (`Staggered.Arms`), which were released, and which
contexts were cancelled (`Staggered.sound`). So the scope of a barrier is cancelled for
reasons that the history tells (`Staggered.isCancelled_barrier`), and so is that of a
context (`Staggered.isCancelled_context`).
-/

namespace PagePilot

open Wire

namespace Staggered

variable (r : Staggered)

/-- A barrier is armed at a position, on a page that is there. -/
def Arms (k : Nat) (key : BarrierKey) (a : Arming) : Prop :=
  ∃ t, r.beats[k]? = some (.whole t) ∧ (r.world k).arming? t = some (key, a) ∧
    ((r.world k).board.listeners a.page).isSome

/-- A barrier was armed before a position. -/
def Armed (k : Nat) (key : BarrierKey) (a : Arming) : Prop :=
  ∃ m < k, r.Arms m key a

/-- A barrier was released before a position. -/
def Released (k : Nat) (key : BarrierKey) : Prop :=
  ∃ c < k, r.beats[c]? = some (.whole (.release key))

/-- A context was cancelled before a position, by itself or by one that it derives from. -/
def Cancelled (k : Nat) (scope : ScopeId) : Prop :=
  ∃ c < k, ∃ a, r.beats[c]? = some (.whole (.cancel a)) ∧ (r.world k).scopes.Descends a scope

/-- What becomes of the world and its rounds at a position. -/
inductive Passes (k : Nat) : Prop
  | whole (t : Transition) (hbeat : r.beats[k]? = some (.whole t))
      (hworld : r.world (k + 1) = (r.world k).apply t)
      (hrounds : (r.state (k + 1)).rounds = (r.state k).rounds)
  | start (page : PageKey) (event : Event) (hbeat : r.beats[k]? = some (.start page event))
      (hworld : r.world (k + 1) = (r.world k).opening page event)
      (hrounds : (r.state (k + 1)).rounds =
        (r.state k).rounds ++ [⟨page, event, (r.world k).board.liveAt page⟩])
  | turn (n : Nat) (page : PageKey) (event : Event) (reg : Registration Handler)
      (rest : List (Registration Handler)) (hbeat : r.beats[k]? = some (.turn n))
      (hround : (r.state k).rounds[n]? = some ⟨page, event, reg :: rest⟩)
      (hworld : r.world (k + 1) = (r.world k).giveTurn page event reg)
      (hrounds : (r.state (k + 1)).rounds = (r.state k).rounds.set n ⟨page, event, rest⟩)
  /-- The run is over, or the round whose turn it is. -/
  | rest (hnone : ∀ t, r.beats[k]? ≠ some (.whole t)) (hover : ∀ n round,
        r.beats[k]? = some (.turn n) → (r.state k).rounds[n]? = some round → round.waiting = [])
      (hstate : r.state (k + 1) = r.state k)

variable {r} {k m n : Nat} {key : BarrierKey} {a : Arming}

theorem passes (r : Staggered) (k : Nat) : r.Passes k := by
  cases hbeat : r.beats[k]? with
  | none =>
    exact .rest (fun t h => nomatch hbeat.symm.trans h) (fun n _ h => nomatch hbeat.symm.trans h)
      (state_succ_of_none hbeat)
  | some b =>
    have hstate := state_succ hbeat
    cases b with
    | whole t =>
      refine .whole t hbeat (congrArg Underway.world hstate) ?_
      rw [hstate]
      rfl
    | start page event =>
      exact .start page event hbeat (congrArg Underway.world hstate)
        (congrArg Underway.rounds hstate)
    | turn n =>
      rcases (r.state k).apply_turn_cases n with ⟨hsame, hover⟩ | ⟨page, event, reg, rest, hround⟩
      · refine .rest (fun t h => nomatch hbeat.symm.trans h) ?_ (hstate.trans hsame)
        intro n' round h hround
        cases hbeat.symm.trans h
        exact hover round hround
      · rw [Underway.apply_turn hround] at hstate
        exact .turn n page event reg rest hbeat hround (congrArg Underway.world hstate)
          (congrArg Underway.rounds hstate)

theorem armed_succ : r.Armed (k + 1) = fun key a => r.Armed k key a ∨ r.Arms k key a :=
  funext fun _ => funext fun _ => propext Nat.exists_lt_succ_right

theorem released_succ : r.Released (k + 1) =
    fun key => r.Released k key ∨ r.beats[k]? = some (.whole (.release key)) :=
  funext fun _ => propext Nat.exists_lt_succ_right

/-- In every staggered run the board is as the history has it. -/
theorem sound (hr : r.Admissible) (k : Nat) :
    (r.world k).Sound (r.Armed k) (r.Released k)
      fun a => ∃ c < k, r.beats[c]? = some (.whole (.cancel a)) := by
  induction k with
  | zero =>
    obtain ⟨refused, network, hstart⟩ := hr.initial
    have hnone : ∀ {P : Nat → Prop}, (∃ c < 0, P c) = False := by simp
    have harmed : r.Armed 0 = fun _ _ => False := funext fun _ => funext fun _ => hnone
    have hreleased : r.Released 0 = fun _ => False := funext fun _ => hnone
    simp only [harmed, hreleased, hnone]
    show r.start.Sound _ _ _
    rw [hstart]
    exact World.initial_sound refused network
  | succ k ih =>
    simp only [armed_succ, released_succ, Nat.exists_lt_succ_right]
    -- Only a transition adds to the history.
    cases r.passes k with
    | whole t hbeat hworld => simpa [Arms, hbeat, hworld] using ih.apply (hr.step k t hbeat)
    | start page event hbeat hworld => simpa [Arms, hbeat, hworld] using ih.opening page event
    | turn n page event reg rest hbeat _ hworld =>
      simpa [Arms, hbeat, hworld] using ih.giveTurn page event reg
    | rest hnone _ hstate => simpa [Arms, hnone, world, hstate] using ih

/-- What every beat keeps of a board. -/
theorem keeps (hr : r.Admissible) (k : Nat) :
    (r.world k).Keeps (r.world (k + 1)) (r.Armed (k + 1)) := by
  have hsound := sound hr k
  have hrest : (∀ t, r.beats[k]? ≠ some (.whole t)) → r.Armed (k + 1) = r.Armed k := by
    intro hnone
    rw [armed_succ]
    funext key a
    simp [Arms, hnone]
  cases r.passes k with
  | whole t hbeat hworld =>
    rw [hworld, armed_succ]
    simpa [Arms, hbeat] using hsound.keeps (hr.step k t hbeat)
  | start page event hbeat hworld =>
    rw [hworld, hrest (by simp [hbeat])]
    exact World.opening_keeps hsound.tidy hsound.registered page event
  | turn n page event reg rest hbeat _ hworld =>
    rw [hworld, hrest (by simp [hbeat])]
    exact World.giveTurn_keeps hsound.tidy hsound.registered page event reg
  | rest hnone _ hstate =>
    rw [hrest hnone, show r.world (k + 1) = r.world k from congrArg Underway.world hstate]
    exact .of_frees hsound.tidy hsound.registered (.refl hsound.tidy) rfl

/-- What every beat keeps is kept by staggered runs. -/
theorem induction {P : World → Prop} (hmn : m ≤ n) (h : P (r.world m))
    (hstep : ∀ k, P (r.world k) → P (r.world (k + 1))) : P (r.world n) := by
  induction hmn with
  | refl => exact h
  | @step k _ ih => exact hstep k ih

/-- A barrier keeps its place. -/
theorem place?_mono (hr : r.Admissible) (hmn : m ≤ n) {p : ScopeId × Context}
    (h : (r.world m).board.place? key = some p) : (r.world n).board.place? key = some p :=
  induction (P := fun w => w.board.place? key = some p) hmn h fun k => (keeps hr k).place key p

/-- A page stays. -/
theorem page_mono (hr : r.Admissible) (hmn : m ≤ n) {page : PageKey}
    (h : ((r.world m).board.listeners page).isSome) :
    ((r.world n).board.listeners page).isSome :=
  induction (P := fun w => (w.board.listeners page).isSome) hmn h fun k => (keeps hr k).pages page

/-- A context stays. -/
theorem isContext_mono (hr : r.Admissible) (hmn : m ≤ n) {scope : ScopeId}
    (h : (r.world m).board.IsContext scope) : (r.world n).board.IsContext scope :=
  induction (P := fun w => w.board.IsContext scope) hmn h fun k => (keeps hr k).contexts scope

/-- What is cancelled stays so. -/
theorem isCancelled_mono (hr : r.Admissible) (hmn : m ≤ n) {scope : ScopeId}
    (h : (r.world m).scopes.isCancelled scope = true) :
    (r.world n).scopes.isCancelled scope = true :=
  induction (P := fun w => w.scopes.isCancelled scope = true) hmn h fun k =>
    (keeps hr k).cancelled scope

/-- A barrier has its place from its arming on. -/
theorem Arms.place (hr : r.Admissible) (ha : r.Arms m key a) (hmk : m < k) :
    ∃ scope, (r.world k).board.place? key = some (scope, a.ctx) :=
  (sound hr k).registered.placed key a ⟨m, hmk, ha⟩

theorem Arms.eq_length (ha : r.Arms m key a) : key = (r.world m).barriers.length := by
  obtain ⟨t, -, ha, -⟩ := ha
  exact (World.armsBy_of_arming ha).1

theorem not_arms_again (hr : r.Admissible) (hmn : m < n) (ha : ∃ a, r.Arms m key a) :
    ¬ ∃ b, r.Arms n key b := by
  rintro ⟨b, hb⟩
  obtain ⟨a, ha⟩ := ha
  obtain ⟨scope, hplace⟩ := ha.place hr hmn
  have hlt := World.lt_of_place? hplace
  rw [← hb.eq_length] at hlt
  exact Nat.lt_irrefl _ hlt

/-- A barrier is armed once. -/
theorem Arms.unique (hr : r.Admissible) (ha : r.Arms m key a) {b : Arming}
    (hb : r.Arms n key b) : m = n ∧ a = b := by
  obtain rfl := Run.eq_of_once (P := fun m => ∃ a, r.Arms m key a) (fun _ _ => not_arms_again hr)
    ⟨a, ha⟩ ⟨b, hb⟩
  obtain ⟨t, ht, ha, -⟩ := ha
  obtain ⟨t', ht', hb, -⟩ := hb
  cases ht.symm.trans ht'
  cases ha.symm.trans hb
  exact ⟨rfl, rfl⟩

/-- A context is cancelled when it, or one that it derives from, was. -/
theorem isCancelled_context (hr : r.Admissible) {scope : ScopeId}
    (hscope : (r.world k).board.IsContext scope) :
    (r.world k).scopes.isCancelled scope = true ↔ r.Cancelled k scope := by
  refine ((sound hr k).ended scope hscope).trans ?_
  constructor
  · rintro ⟨a, ⟨c, hck, hc⟩, hdescends⟩
    exact ⟨c, hck, a, hc, hdescends⟩
  · rintro ⟨c, hck, a, hc, hdescends⟩
    exact ⟨a, ⟨c, hck, hc⟩, hdescends⟩

/-- The listener of a barrier is gone for one of four reasons. -/
theorem isCancelled_barrier (hr : r.Admissible) {x : Barrier}
    (hx : (r.world k).barriers[key]? = some x) :
    (r.world k).scopes.isCancelled x.scope = true ↔
      x.matched = true ∨ r.Released k key ∨ x.abandoned = true ∨ r.Cancelled k x.ctx.scope := by
  have hsound := sound hr k
  refine (hsound.settled key x hx).trans ?_
  rw [← isCancelled_context hr (hsound.tidy.isContext (World.place?_of_barrier hx))]
  rfl

/-- A barrier keeps its scope and its context, which is the one under which it was armed. -/
theorem Arms.barrier (hr : r.Admissible) (ha : r.Arms m key a) {l : Nat} (hml : m < l)
    (hlk : l ≤ k) {x : Barrier} (hx : (r.world k).barriers[key]? = some x) :
    (r.world l).board.place? key = some (x.scope, a.ctx) ∧ x.ctx = a.ctx := by
  obtain ⟨scope, hplace⟩ := ha.place hr hml
  have hlater := place?_mono hr hlk hplace
  obtain ⟨rfl, hctx⟩ := Prod.mk.inj
    (Option.some.inj ((World.place?_of_barrier hx).symm.trans hlater))
  exact ⟨hplace, hctx⟩

end Staggered

end PagePilot
