import PagePilot.Proofs.Barrier.Round
import PagePilot.Proofs.Connection.Handing
import PagePilot.Proofs.Delivery.Listening
/-!
# PagePilot.Proofs.Delivery.Intake

Messages that are taken in, with the turns of listeners one by one. The reader takes a message
and does not take the next one before all listeners of the page have had their turns, but what
a listener does in its turn comes before the turns of the others: it may register a listener, or
cancel a scope. So a message for a page is taken by one move here, and each turn is a move of
its own, with anything between them.

* `Intake` is a world with the delivery that is underway in it, and `Intake.Move` one thing that
  happens;
* `Intake.run_take` says that a message and the turns of its listeners, with nothing between
  them, are what the reader does at one go, so whatever happens to a world can be had by moves
  (`Intake.exists_moves`);
* `Reception` is a sequence of moves, and `Reception.passes` lists what a position can be.
-/

namespace PagePilot

open Wire

/-- What the parameters of an event that is handed to a page read as. -/
def Handing.event (h : Handing) : Event :=
  .decode h.method h.params

/-- Whether a transition takes a message, or delivers an event without one. -/
def Transition.feeds : Transition → Bool
  | .read | .deliver .. => true
  | _ => false

/-- The world in which an event is handed to a page, and the delivery has begun. -/
def World.beginDelivery (w : World) (h : Handing) : World :=
  ((w.withInbox w.inbound.inbox.tail).note (.handed h.page h.method h.params)).opening h.page
    h.event

/-- A world, with the delivery of the event that was last handed to a page. It is over when
nobody waits for a turn any more. -/
structure Intake where
  world : World
  round : Option Round

namespace Intake

/-- One thing that happens while messages are taken in. -/
inductive Move
  /-- Anything else: a task goes on, somebody registers a listener, cancels a scope. -/
  | other (t : Transition)
  /-- The reader takes a message, if it is not at work on the one before. -/
  | take
  /-- The next listener has its turn. -/
  | turn

/-- Whether nobody waits for a turn. -/
def idle (s : Intake) : Bool :=
  s.round.all (·.waiting.isEmpty)

/-- What a move does. -/
def move (s : Intake) : Move → Intake
  | .other t => { s with world := s.world.apply t }
  | .take =>
      if s.idle then
        match s.world.handing? .read with
        | some h =>
            { world := s.world.beginDelivery h
              round := some ⟨h.page, h.event, s.world.board.liveAt h.page⟩ }
        | none => { s with world := s.world.apply .read }
      else s
  | .turn =>
      match s.round with
      | some ⟨page, event, reg :: rest⟩ =>
          { world := s.world.giveTurn page event reg, round := some ⟨page, event, rest⟩ }
      | _ => s

/-- What a sequence of moves does. -/
def run (s : Intake) (moves : List Move) : Intake :=
  moves.foldl move s

variable {s : Intake} {h : Handing}

theorem move_turn {page : PageKey} {event : Event} {reg : Registration Handler}
    {rest : List (Registration Handler)} (hround : s.round = some ⟨page, event, reg :: rest⟩) :
    s.move .turn =
      { world := s.world.giveTurn page event reg, round := some ⟨page, event, rest⟩ } := by
  simp only [move, hround]

theorem move_turn_of_idle (hidle : s.idle = true) : s.move .turn = s := by
  simp only [move]
  split
  next hround => simp [idle, hround] at hidle
  next => rfl

/-- A message that reaches no page is taken at one go. -/
theorem move_take_of_none (hidle : s.idle = true) (hh : s.world.handing? .read = none) :
    s.move .take = { s with world := s.world.apply .read } := by
  simp only [move, hidle, if_true, hh]

theorem move_take (hidle : s.idle = true) (hh : s.world.handing? .read = some h) :
    s.move .take =
      { world := s.world.beginDelivery h
        round := some ⟨h.page, h.event, s.world.board.liveAt h.page⟩ } := by
  simp only [move, hidle, if_true, hh]

theorem move_take_of_not_idle (hidle : s.idle = false) : s.move .take = s := by
  simp [move, hidle]

theorem run_append (s : Intake) (moves more : List Move) :
    s.run (moves ++ more) = (s.run moves).run more :=
  List.foldl_append

theorem run_turns {page : PageKey} {event : Event} {regs : List (Registration Handler)}
    (hround : s.round = some ⟨page, event, regs⟩) :
    s.run (List.replicate regs.length .turn) =
      { world := Listeners.callAll (·.scopes) (World.handle page event) regs s.world
        round := some ⟨page, event, []⟩ } := by
  induction regs generalizing s with
  | nil =>
    obtain ⟨world, round⟩ := s
    cases hround
    rfl
  | cons reg rest ih =>
    show (s.move .turn).run _ = _
    rw [move_turn hround]
    exact ih rfl

/-- A message for a page and all turns after it, with nothing between them, are one step of the
reader. -/
theorem run_take (hidle : s.idle = true) (hh : s.world.handing? .read = some h) :
    s.run (.take :: List.replicate (s.world.board.liveAt h.page).length .turn) =
      { world := s.world.apply .read, round := some ⟨h.page, h.event, []⟩ } := by
  obtain ⟨message, rest, hinbox, hread⟩ := World.apply_read_of_handing hh
  show (s.move .take).run _ = _
  rw [move_take hidle hh, run_turns rfl, hread, World.deliver_eq]
  simp only [World.beginDelivery, hinbox, List.tail_cons]
  rfl

/-- Whatever happens to a world without events from elsewhere can be had by moves: a message is
taken, and the turns follow at once. -/
theorem exists_moves (hidle : s.idle = true) {transitions : List Transition}
    (hnone : ∀ page event, .deliver page event ∉ transitions) :
    ∃ moves, (s.run moves).world = s.world.run transitions ∧
      ∀ t, .other t ∈ moves → t.feeds = false := by
  induction transitions generalizing s with
  | nil => exact ⟨[], rfl, nofun⟩
  | cons t rest ih =>
    have hrest : ∀ page event, .deliver page event ∉ rest :=
      fun page event hmem => hnone page event (List.mem_cons_of_mem t hmem)
    -- It is enough to have moves for the first transition that leave nobody waiting.
    have hfirst : ∀ first s', s.run first = s' → s'.world = s.world.apply t → s'.idle = true →
        (∀ t, .other t ∈ first → t.feeds = false) →
          ∃ moves, (s.run moves).world = s.world.run (t :: rest) ∧
            ∀ t, .other t ∈ moves → t.feeds = false := by
      rintro first s' rfl hworld hidle' hothers
      obtain ⟨more, hmore, hothers'⟩ := ih hidle' hrest
      refine ⟨first ++ more, ?_, fun t ht => ?_⟩
      · rw [run_append, hmore, hworld]
        rfl
      · exact (List.mem_append.mp ht).elim (hothers t) (hothers' t)
    by_cases hread : t = .read
    · subst hread
      cases hh : s.world.handing? .read with
      | none =>
        exact hfirst [.take] _ (move_take_of_none hidle hh) rfl hidle (by simp)
      | some h => exact hfirst _ _ (run_take hidle hh) rfl rfl (by simp)
    · refine hfirst [.other t] _ rfl rfl hidle fun t' ht' => ?_
      cases List.mem_singleton.mp ht'
      cases t
      case read => exact absurd rfl hread
      case deliver page event => exact absurd (List.mem_cons_self ..) (hnone page event)
      all_goals rfl

end Intake

/-! ### Runs -/

/-- A world to start from, and what happens then. -/
structure Reception where
  start : World
  moves : List Intake.Move

namespace Reception

variable (r : Reception)

/-- What there is at a position, before the move there. -/
def state (k : Nat) : Intake :=
  Intake.run ⟨r.start, none⟩ (r.moves.take k)

/-- The world at a position. -/
def world (k : Nat) : World :=
  (r.state k).world

/-- A run from the beginning in which events come by messages alone: nobody else takes a message
or delivers an event. -/
structure Admissible : Prop where
  initial : ∃ refused network, r.start = .initial refused network
  others : ∀ (k : Nat) (t : Transition), r.moves[k]? = some (.other t) → t.feeds = false

/-- The transition at a position. The taking of a message is one too, with the turns of listeners
left out. -/
def transition? (k : Nat) : Option Transition :=
  match r.moves[k]? with
  | some (.other t) => some t
  | some .take => if (r.state k).idle then some .read else none
  | _ => none

/-- Whether somebody may have a turn at a position. -/
def isTurn (k : Nat) : Bool :=
  match r.moves[k]? with
  | some .turn => true
  | _ => false

/-- An event is handed to a page at a position, and its delivery begins. -/
def Hands (k : Nat) (h : Handing) : Prop :=
  r.transition? k = some .read ∧ (r.world k).handing? .read = some h

/-- What can happen at a position, from a world with its delivery to the next. -/
inductive Passes (k : Nat) : Intake → Prop
  /-- Nothing: there is no move, or it has to wait, or nobody has a turn. -/
  | rest (hnone : r.transition? k = none)
      (hover : r.isTurn k = true → (r.state k).idle = true) : Passes k (r.state k)
  /-- A transition by which nothing is handed to a page. -/
  | other {t : Transition} (ht : r.transition? k = some t)
      (hsilent : (r.world k).delivered? t = none) (hhanding : (r.world k).handing? t = none) :
      Passes k { r.state k with world := (r.world k).apply t }
  /-- An event is handed to a page, when the delivery before is over. -/
  | hands {h : Handing} (hh : r.Hands k h) (hidle : (r.state k).idle = true) :
      Passes k
        { world := (r.world k).beginDelivery h
          round := some ⟨h.page, h.event, (r.world k).board.liveAt h.page⟩ }
  /-- A listener has its turn. -/
  | turn {page : PageKey} {event : Event} {reg : Registration Handler}
      {rest : List (Registration Handler)} (hturn : r.isTurn k = true)
      (hnone : r.transition? k = none)
      (hround : (r.state k).round = some ⟨page, event, reg :: rest⟩) :
      Passes k
        { world := (r.world k).giveTurn page event reg, round := some ⟨page, event, rest⟩ }

variable {r} {k : Nat}

theorem state_succ {m : Intake.Move} (h : r.moves[k]? = some m) :
    r.state (k + 1) = (r.state k).move m := by
  unfold state Intake.run
  rw [List.take_add_one, h]
  simp

theorem state_succ_of_none (h : r.moves[k]? = none) : r.state (k + 1) = r.state k := by
  unfold state
  rw [List.take_add_one, h]
  simp

theorem passes (hr : r.Admissible) (k : Nat) : r.Passes k (r.state (k + 1)) := by
  cases hm : r.moves[k]? with
  | none =>
    rw [state_succ_of_none hm]
    exact .rest (by simp [transition?, hm]) (by simp [isTurn, hm])
  | some m =>
    rw [state_succ hm]
    cases m with
    | other t =>
      have hfeeds := hr.others k t hm
      refine .other (by simp [transition?, hm]) ?_ ?_
      · cases t <;> first | rfl | cases hfeeds
      · cases t <;> first | rfl | cases hfeeds
    | take =>
      cases hidle : (r.state k).idle with
      | false =>
        rw [Intake.move_take_of_not_idle hidle]
        exact .rest (by simp [transition?, hm, hidle]) (by simp [isTurn, hm])
      | true =>
        have ht : r.transition? k = some .read := by simp [transition?, hm, hidle]
        cases hh : (r.world k).handing? .read with
        | none =>
          rw [Intake.move_take_of_none hidle hh]
          refine .other ht ?_ hh
          rw [World.delivered?_read_eq_map, hh]
          rfl
        | some h =>
          rw [Intake.move_take hidle hh]
          exact .hands ⟨ht, hh⟩ hidle
    | turn =>
      have hnone : r.transition? k = none := by simp [transition?, hm]
      cases hidle : (r.state k).idle with
      | true =>
        rw [Intake.move_turn_of_idle hidle]
        exact .rest hnone fun _ => hidle
      | false =>
        match hround : (r.state k).round with
        | none | some ⟨_, _, []⟩ => simp [Intake.idle, hround] at hidle
        | some ⟨page, event, reg :: rest⟩ =>
          rw [Intake.move_turn hround]
          exact .turn (by simp [isTurn, hm]) hnone hround

end Reception

end PagePilot
