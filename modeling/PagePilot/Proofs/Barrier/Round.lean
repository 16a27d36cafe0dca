import PagePilot.Proofs.Barrier.Delivery
import PagePilot.Proofs.Machine.Run
/-!
# PagePilot.Proofs.Barrier.Round

Deliveries by single turns. The listeners that an event finds on a page are called one after
the other, and what is done between two turns may concern those that come later: a listener
that was called may release a barrier, or cancel a context, or deliver an event itself.
`World.deliver` takes all turns at one go; here a delivery is a round that is underway, and
anything may happen between its turns.

* `Round` is a delivery that is underway, and `Underway` a world with its rounds;
* `Beat` is one thing that happens to them: a transition, the start of a round, or a turn;
* `Underway.run_delivery`: the turns of a round with nothing between them are a delivery;
* `Staggered` is a world to start from with any sequence of beats; a `Run` is one in which
  all deliveries are taken at one go (`Run.staggered`).
-/

namespace PagePilot

open Wire

/-- A delivery that is underway: its event, the page, and the listeners that have yet to be
called. -/
structure Round where
  page : PageKey
  event : Event
  waiting : List (Registration Handler)

/-- A world, with the rounds that were started in it so far. One that is over has nobody
waiting. -/
structure Underway where
  world : World
  rounds : List Round

/-- One thing that happens to a world with rounds. -/
inductive Beat
  /-- A transition, with any delivery in it at one go. -/
  | whole (t : Transition)
  /-- An event reaches a page: the page follows it, and the round of its listeners starts. -/
  | start (page : PageKey) (event : Event)
  /-- The next listener of a round has its turn. -/
  | turn (round : Nat)

/-- The turn of a listener: it is called unless its scope is cancelled by then. -/
def World.giveTurn (w : World) (page : PageKey) (event : Event) (reg : Registration Handler) :
    World :=
  if w.scopes.isCancelled reg.scope then w else World.handle page event reg.handler w

namespace Underway

/-- What a beat does. -/
def apply (u : Underway) : Beat → Underway
  | .whole t => { u with world := u.world.apply t }
  | .start page event =>
      { world := u.world.opening page event
        rounds := u.rounds ++ [⟨page, event, u.world.board.liveAt page⟩] }
  | .turn n =>
      match u.rounds[n]? with
      | some ⟨page, event, reg :: rest⟩ =>
          { world := u.world.giveTurn page event reg
            rounds := u.rounds.set n ⟨page, event, rest⟩ }
      | _ => u

/-- What a sequence of beats does. -/
def run (u : Underway) (beats : List Beat) : Underway :=
  beats.foldl apply u

variable {u : Underway} {n : Nat} {page : PageKey} {event : Event}

theorem apply_turn {reg : Registration Handler} {rest : List (Registration Handler)}
    (h : u.rounds[n]? = some ⟨page, event, reg :: rest⟩) :
    u.apply (.turn n) =
      { world := u.world.giveTurn page event reg, rounds := u.rounds.set n ⟨page, event, rest⟩ } := by
  simp only [apply, h]

/-- A listener has its turn, or the round is over and nothing happens. -/
theorem apply_turn_cases (u : Underway) (n : Nat) :
    (u.apply (.turn n) = u ∧ ∀ round, u.rounds[n]? = some round → round.waiting = []) ∨
      ∃ page event reg rest, u.rounds[n]? = some ⟨page, event, reg :: rest⟩ := by
  simp only [apply]
  split
  next page event reg rest hround => exact .inr ⟨page, event, reg, rest, hround⟩
  next hnot =>
    refine .inl ⟨rfl, ?_⟩
    rintro ⟨page, event, waiting⟩ hround
    cases waiting with
    | nil => rfl
    | cons reg rest => exact absurd hround (hnot page event reg rest)

/-- All turns of a round, with nothing between them. -/
theorem run_turns {regs : List (Registration Handler)}
    (h : u.rounds[n]? = some ⟨page, event, regs⟩) :
    (u.run (List.replicate regs.length (.turn n))).world =
      Listeners.callAll (·.scopes) (World.handle page event) regs u.world := by
  induction regs generalizing u with
  | nil => rfl
  | cons reg rest ih =>
    show ((u.apply (.turn n)).run _).world = _
    rw [apply_turn h]
    exact ih (List.getElem?_set_self (List.getElem?_eq_some_iff.mp h).1)

/-- A round whose turns follow its start at once is a delivery. -/
theorem run_delivery (u : Underway) (page : PageKey) (event : Event) :
    (u.run (.start page event ::
      List.replicate (u.world.board.liveAt page).length (.turn u.rounds.length))).world =
        u.world.deliver page event := by
  rw [World.deliver_eq]
  exact run_turns (u := u.apply (.start page event)) List.getElem?_concat_length

end Underway

/-! ### Staggered runs -/

/-- A world, and what happens to it and to the rounds in it. -/
structure Staggered where
  start : World
  beats : List Beat

namespace Staggered

variable (r : Staggered)

/-- What there is at a position, before the beat there. -/
def state (k : Nat) : Underway :=
  Underway.run ⟨r.start, []⟩ (r.beats.take k)

/-- The world at a position. -/
def world (k : Nat) : World :=
  (r.state k).world

variable {r} {k : Nat}

theorem state_succ {b : Beat} (h : r.beats[k]? = some b) : r.state (k + 1) = (r.state k).apply b := by
  unfold state Underway.run
  rw [List.take_add_one, h]
  simp

/-- After the last beat nothing changes. -/
theorem state_succ_of_none (h : r.beats[k]? = none) : r.state (k + 1) = r.state k := by
  unfold state
  rw [List.take_add_one, h]
  simp

theorem world_succ {t : Transition} (h : r.beats[k]? = some (.whole t)) :
    r.world (k + 1) = (r.world k).apply t := by
  unfold world
  rw [state_succ h]
  rfl

variable (r) in
/-- A staggered run from the beginning in which only such things are done as can be. A round
may start at any time, and take its turns when it will. -/
structure Admissible : Prop where
  initial : ∃ refused network, r.start = .initial refused network
  step : ∀ (k : Nat) (t : Transition), r.beats[k]? = some (.whole t) → t.Admissible (r.world k)

end Staggered

/-- What is done in a sequence of beats can be done where it comes. -/
def Underway.Admits (u : Underway) : List Beat → Prop
  | [] => True
  | b :: rest => (∀ t, b = .whole t → t.Admissible u.world) ∧ (u.apply b).Admits rest

theorem Underway.Admits.step {u : Underway} {beats : List Beat} (h : u.Admits beats) (k : Nat)
    (t : Transition) (ht : beats[k]? = some (.whole t)) :
    t.Admissible (u.run (beats.take k)).world := by
  induction beats generalizing u k with
  | nil => cases ht
  | cons b rest ih =>
    cases k with
    | zero => exact h.1 t (Option.some.inj ht)
    | succ k => exact ih h.2 k ht

theorem Staggered.admissible_of_admits {refused : List String} {network : Network}
    {beats : List Beat} (h : Underway.Admits ⟨.initial refused network, []⟩ beats) :
    Staggered.Admissible ⟨.initial refused network, beats⟩ :=
  ⟨⟨refused, network, rfl⟩, h.step⟩

/-- A run, with its deliveries taken at one go. -/
def Run.staggered (r : Run) : Staggered :=
  ⟨r.start, r.transitions.map .whole⟩

namespace Run

variable {r : Run} {k : Nat}

theorem staggered_state : r.staggered.state k = ⟨r.world k, []⟩ := by
  have hrun : ∀ (ts : List Transition) w, Underway.run ⟨w, []⟩ (ts.map .whole) = ⟨w.run ts, []⟩ := by
    intro ts
    induction ts with
    | nil => exact fun _ => rfl
    | cons t rest ih => exact fun w => ih (w.apply t)
  unfold Staggered.state staggered
  rw [← List.map_take]
  exact hrun _ _

@[simp] theorem staggered_world : r.staggered.world k = r.world k :=
  congrArg Underway.world staggered_state

theorem staggered_beat {t : Transition} :
    r.staggered.beats[k]? = some (.whole t) ↔ r.transitions[k]? = some t := by
  simp [staggered]

theorem Admissible.staggered (hr : r.Admissible) : r.staggered.Admissible where
  initial := hr.initial
  step k t ht := staggered_world ▸ hr.step k t (staggered_beat.mp ht)

end Run

end PagePilot
