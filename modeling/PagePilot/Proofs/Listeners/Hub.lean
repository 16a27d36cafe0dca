import PagePilot.Proofs.Delivery.Listening
/-!
# PagePilot.Proofs.Listeners.Hub

A list of listeners in use. Whoever has the list registers handlers, cancels scopes, asks how many
listeners are live and delivers events, and a handler that is called does what it likes of
all that, to any depth of deliveries within deliveries. So a delivery is taken apart here. It
begins with those who wait for their turn; a turn passes over those whose scope is cancelled
and calls the next one; and what the handler does comes after its turn and before the next.
Anything may come there, so nothing is said about handlers at all.

* `Hub` is the list with its scopes and its deliveries, and `Move` one thing that happens;
* `Hub.run` is a sequence of moves. How the list is tidied up is left open: `Listeners.prune`
  drops the listeners that are gone, and a list that is never tidied up keeps them all;
* `Hub.Alike` is two hubs that differ in listeners that are gone, and nobody can tell them
  apart (`Hub.Alike.move`, `Hub.Alike.call?_eq`, `Hub.Alike.liveCount_eq`).
-/

namespace PagePilot

/-- Makes a scope below another one, if that is there. -/
def Scopes.derive (s : Scopes) : Option ScopeId → Scopes
  | some parent => if parent < s.next then s.addChild parent else s.addRoot
  | none => s.addRoot

theorem Scopes.persists_derive (s : Scopes) (parent : Option ScopeId) :
    s.Persists (s.derive parent) := by
  unfold derive
  split
  · split
    · exact s.persists_append _
    · exact s.persists_append _
  · exact s.persists_append _

namespace Listeners

/-- A handler with the position at which it was registered, by which it is known. -/
structure Placed (H : Type) where
  position : Nat
  handler : H

/-- A delivery: its event, and the listeners that wait for their turn. -/
structure Delivery (H E : Type) where
  event : E
  waiting : List (Registration (Placed H))

/-- A list of listeners with its scopes, and all deliveries that have begun so far. -/
structure Hub (H E : Type) where
  /-- How many moves there were. -/
  clock : Nat
  scopes : Scopes
  listeners : Listeners (Placed H)
  deliveries : List (Delivery H E)

/-- One thing that happens to a hub. -/
inductive Move (H E : Type)
  | newScope (parent : Option ScopeId)
  | cancel (scope : ScopeId)
  | listen (scope : ScopeId) (handler : H)
  | count
  | deliver (event : E)
  /-- A delivery goes on to the next handler. -/
  | turn (delivery : Nat)

/-- The call of a handler. -/
structure Call (H E : Type) where
  delivery : Nat
  event : E
  listener : Registration (Placed H)

/-- A way to tidy up a list of listeners. -/
abbrev Tidying (H : Type) :=
  Scopes → Listeners (Placed H) → Listeners (Placed H)

/-- A list that is tidied up has lost no listener that is live. -/
def Tidying.Keeps {H : Type} (tidy : Tidying H) : Prop :=
  ∀ s l, (tidy s l).live s = l.live s

/-- Never to tidy up. -/
def Tidying.none (H : Type) : Tidying H :=
  fun _ l => l

variable {H E : Type}

namespace Delivery

/-- A delivery without those who are gone. -/
def live (s : Scopes) (d : Delivery H E) : Delivery H E :=
  { d with waiting := d.waiting.filter (·.isLive s) }

/-- Those who are left when a delivery has passed over those who are gone. -/
def left (s : Scopes) (d : Delivery H E) : List (Registration (Placed H)) :=
  d.waiting.dropWhile fun reg => s.isCancelled reg.scope

/-- A delivery after a turn. -/
def next (s : Scopes) (d : Delivery H E) : Delivery H E :=
  { d with waiting := (d.left s).tail }

end Delivery

namespace Hub

/-- Nothing has happened. -/
def fresh : Hub H E :=
  { clock := 0, scopes := .empty, listeners := .empty, deliveries := [] }

/-- The handler that is called by a move. -/
def call? (h : Hub H E) : Move H E → Option (Call H E)
  | .turn n => h.deliveries[n]?.bind fun d => (d.left h.scopes).head?.map (⟨n, d.event, ·⟩)
  | _ => none

/-- How many listeners are live. -/
def liveCount (h : Hub H E) : Nat :=
  h.listeners.liveCount h.scopes

/-- What a move does to scopes, listeners and deliveries. -/
def act (tidy : Tidying H) (h : Hub H E) : Move H E → Hub H E
  | .newScope parent => { h with scopes := h.scopes.derive parent }
  | .cancel scope => { h with scopes := h.scopes.cancel scope }
  | .listen scope handler =>
      let kept := tidy h.scopes h.listeners
      { h with
        listeners :=
          if h.scopes.isCancelled scope then kept
          else ⟨kept.registrations ++ [⟨scope, h.clock, handler⟩]⟩ }
  | .count => { h with listeners := tidy h.scopes h.listeners }
  | .deliver event =>
      let kept := tidy h.scopes h.listeners
      { h with
        listeners := kept
        deliveries := h.deliveries ++ [⟨event, kept.registrations⟩] }
  | .turn n => { h with deliveries := h.deliveries.modify n (·.next h.scopes) }

/-- What a move does. -/
def move (tidy : Tidying H) (h : Hub H E) (m : Move H E) : Hub H E :=
  { h.act tidy m with clock := h.clock + 1 }

/-- What a sequence of moves does. -/
def run (tidy : Tidying H) (h : Hub H E) (moves : List (Move H E)) : Hub H E :=
  moves.foldl (move tidy) h

/-- The calls that are made by a sequence of moves. -/
def calls (tidy : Tidying H) (h : Hub H E) : List (Move H E) → List (Call H E)
  | [] => []
  | m :: rest => (h.call? m).toList ++ calls tidy (h.move tidy m) rest

variable {tidy tidy' : Tidying H} {h h' : Hub H E} {m : Move H E}

/-- A list from which those who are gone are dropped is registered on by `Listeners.listen`. -/
theorem move_listen_prune (h : Hub H E) (scope : ScopeId) (handler : H) :
    (h.move Listeners.prune (.listen scope handler)).listeners =
      h.listeners.listen h.scopes scope ⟨h.clock, handler⟩ :=
  rfl

theorem run_append (moves more : List (Move H E)) :
    h.run tidy (moves ++ more) = (h.run tidy moves).run tidy more :=
  List.foldl_append

theorem calls_append (moves more : List (Move H E)) :
    h.calls tidy (moves ++ more) = h.calls tidy moves ++ (h.run tidy moves).calls tidy more := by
  induction moves generalizing h with
  | nil => rfl
  | cons m rest ih =>
    show _ ++ calls tidy (h.move tidy m) (rest ++ more) = _
    rw [ih, ← List.append_assoc]
    rfl

/-! ### Tidying up -/

theorem keeps_prune : Tidying.Keeps (Listeners.prune : Tidying H) := by
  intro s l
  exact Registration.filter_isLive (.refl s) (fun reg => reg) l.registrations

theorem keeps_none : (Tidying.none H).Keeps :=
  fun _ _ => rfl

/-- Scopes that are cancelled stay so. -/
theorem persists_move (tidy : Tidying H) (h : Hub H E) (m : Move H E) :
    h.scopes.Persists (h.move tidy m).scopes := by
  cases m with
  | newScope parent => exact h.scopes.persists_derive parent
  | cancel scope => exact h.scopes.persists_cancel scope
  | listen | count | deliver | turn => exact .refl _

/-! ### Who is called -/

section Turns

variable (s : Scopes) (regs : List (Registration (Placed H)))

theorem head?_dropWhile_cancelled :
    (regs.dropWhile fun reg => s.isCancelled reg.scope).head? =
      (regs.filter (·.isLive s)).head? := by
  induction regs with
  | nil => rfl
  | cons reg rest ih =>
    by_cases hreg : s.isCancelled reg.scope = true
    · simpa [hreg, Registration.isLive] using ih
    · simp [hreg, Registration.isLive]

theorem filter_tail_dropWhile :
    (regs.dropWhile fun reg => s.isCancelled reg.scope).tail.filter (·.isLive s) =
      (regs.filter (·.isLive s)).tail := by
  induction regs with
  | nil => rfl
  | cons reg rest ih =>
    by_cases hreg : s.isCancelled reg.scope = true
    · simpa [hreg, Registration.isLive] using ih
    · simp [hreg, Registration.isLive]

end Turns

/-- A turn depends on those who are live only. -/
theorem call?_turn (h : Hub H E) (n : Nat) : h.call? (.turn n) =
    (h.deliveries.map (·.live h.scopes))[n]?.bind fun d => d.waiting.head?.map (⟨n, d.event, ·⟩) := by
  simp only [call?, List.getElem?_map]
  cases h.deliveries[n]? with
  | none => rfl
  | some d => simp [Delivery.left, Delivery.live, head?_dropWhile_cancelled]

/-- After a turn the tail of those waits who are live. -/
theorem map_live_modify_next (s : Scopes) (n : Nat) (ds : List (Delivery H E)) :
    (ds.modify n (·.next s)).map (·.live s) =
      (ds.map (·.live s)).modify n fun d => { d with waiting := d.waiting.tail } := by
  refine List.ext_getElem? fun i => ?_
  simp only [List.getElem?_map, List.getElem?_modify]
  cases ds[i]? with
  | none => rfl
  | some d =>
    by_cases hi : n = i
    · simp [hi, Delivery.live, Delivery.next, Delivery.left, filter_tail_dropWhile]
    · simp [hi]

/-! ### Hubs that cannot be told apart -/

/-- Two hubs that differ in listeners that are gone only. -/
structure Alike (h h' : Hub H E) : Prop where
  clock : h'.clock = h.clock
  scopes : h'.scopes = h.scopes
  live : h'.listeners.live h.scopes = h.listeners.live h.scopes
  deliveries : h'.deliveries.map (·.live h.scopes) = h.deliveries.map (·.live h.scopes)

namespace Alike

theorem refl (h : Hub H E) : h.Alike h :=
  ⟨rfl, rfl, rfl, rfl⟩

theorem call?_eq (ha : h.Alike h') (m : Move H E) : h'.call? m = h.call? m := by
  cases m with
  | turn n => rw [call?_turn, call?_turn, ha.scopes, ha.deliveries]
  | _ => rfl

theorem liveCount_eq (ha : h.Alike h') : h'.liveCount = h.liveCount := by
  unfold liveCount Listeners.liveCount
  rw [ha.scopes, ha.live]

/-- Later on, more of the listeners are gone. -/
theorem live_of_persists (ha : h.Alike h') {s : Scopes} (hs : h.scopes.Persists s) :
    h'.listeners.live s = h.listeners.live s ∧
      h'.deliveries.map (·.live s) = h.deliveries.map (·.live s) := by
  have hfilter : ∀ regs : List (Registration (Placed H)),
      (regs.filter (·.isLive h.scopes)).filter (·.isLive s) = regs.filter (·.isLive s) :=
    Registration.filter_isLive hs fun reg => reg
  have hlive : ∀ l : Listeners (Placed H), (l.live h.scopes).filter (·.isLive s) = l.live s :=
    fun l => hfilter l.registrations
  have hdelivery : ∀ ds : List (Delivery H E),
      (ds.map (·.live h.scopes)).map (·.live s) = ds.map (·.live s) := by
    intro ds
    simp only [List.map_map, Function.comp_def, Delivery.live, hfilter]
  constructor
  · rw [← hlive, ha.live, hlive]
  · rw [← hdelivery, ha.deliveries, hdelivery]

/-- One move does not tell them apart, however the two lists are tidied up. -/
theorem move (ha : h.Alike h') (htidy : tidy.Keeps) (htidy' : tidy'.Keeps) (m : Move H E) :
    (h.move tidy m).Alike (h'.move tidy' m) := by
  have hclock : h'.clock + 1 = h.clock + 1 := congrArg (· + 1) ha.clock
  have hkept : (tidy' h.scopes h'.listeners).live h.scopes =
      (tidy h.scopes h.listeners).live h.scopes := by
    rw [htidy', htidy, ha.live]
  cases m with
  | newScope parent =>
    obtain ⟨hlive, hdeliveries⟩ := ha.live_of_persists (h.scopes.persists_derive parent)
    exact ⟨hclock, congrArg (·.derive parent) ha.scopes, hlive, hdeliveries⟩
  | cancel scope =>
    obtain ⟨hlive, hdeliveries⟩ := ha.live_of_persists (h.scopes.persists_cancel scope)
    exact ⟨hclock, congrArg (·.cancel scope) ha.scopes, hlive, hdeliveries⟩
  | listen scope handler =>
    refine ⟨hclock, ha.scopes, ?_, ha.deliveries⟩
    simp only [Hub.move, act, ha.scopes, ha.clock]
    split
    · exact hkept
    · unfold Listeners.live at hkept ⊢
      rw [List.filter_append, List.filter_append, hkept]
  | count =>
    refine ⟨hclock, ha.scopes, ?_, ha.deliveries⟩
    simp only [Hub.move, act, ha.scopes]
    exact hkept
  | deliver event =>
    refine ⟨hclock, ha.scopes, ?_, ?_⟩
    · simp only [Hub.move, act, ha.scopes]
      exact hkept
    · have hwaiting : (tidy' h.scopes h'.listeners).registrations.filter (·.isLive h.scopes) =
          (tidy h.scopes h.listeners).registrations.filter (·.isLive h.scopes) := hkept
      have hnew : Delivery.live h.scopes ⟨event, (tidy' h.scopes h'.listeners).registrations⟩ =
          Delivery.live h.scopes ⟨event, (tidy h.scopes h.listeners).registrations⟩ :=
        congrArg (Delivery.mk event) hwaiting
      simp only [Hub.move, act, ha.scopes, List.map_append, ha.deliveries, List.map_cons,
        List.map_nil, hnew]
  | turn n =>
    refine ⟨hclock, ha.scopes, ha.live, ?_⟩
    simp only [Hub.move, act, ha.scopes, map_live_modify_next, ha.deliveries]

theorem run (ha : h.Alike h') (htidy : tidy.Keeps) (htidy' : tidy'.Keeps)
    (moves : List (Move H E)) : (h.run tidy moves).Alike (h'.run tidy' moves) := by
  induction moves generalizing h h' with
  | nil => exact ha
  | cons m rest ih => exact ih (ha.move htidy htidy' m)

end Alike

end Hub

end Listeners

end PagePilot
