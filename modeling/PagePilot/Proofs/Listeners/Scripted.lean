import PagePilot.Proofs.Listeners.Law
import PagePilot.Proofs.Listeners.Moves
/-!
# PagePilot.Proofs.Listeners.Scripted

Scripted runs as usages of a list of listeners. A script is run step by step, and a delivery in it
calls handlers with scripts of their own before it returns; taken apart, that is a sequence of
moves. Every step goes through its own moves (`Script.StepMoves`, `Script.runStep_plays`), in which
the same handlers are called, and after which all its deliveries are over (`Script.Plays`).

The depth that a run is given bounds how deep calls may be nested. It is never reached: every step
is run at most once, so what is left of all scripts (`Script.State.weight`) shrinks with each level
(`Script.suffices_depth`).
-/

namespace PagePilot.Listeners

/-- One turn of a delivery: those who are gone are passed over, and the next one is called. -/
theorem callAll_eq_turn {H σ : Type} (scopesOf : σ → Scopes) (call : H → σ → σ)
    (regs : List (Registration H)) (s : σ) : callAll scopesOf call regs s =
      match regs.dropWhile fun reg => (scopesOf s).isCancelled reg.scope with
      | [] => s
      | reg :: rest => callAll scopesOf call rest (call reg.handler s) := by
  induction regs with
  | nil => rfl
  | cons reg rest ih =>
    show callAll scopesOf call rest (if (scopesOf s).isCancelled reg.scope then s else _) = _
    rw [List.dropWhile_cons]
    by_cases hgone : (scopesOf s).isCancelled reg.scope = true
    · rw [if_pos hgone, if_pos hgone, ih]
    · rw [if_neg hgone, if_neg hgone]

namespace Script

open Wire (Event)

/-- A listener without the position of its registration. -/
def bare {H : Type} (reg : Registration (Placed H)) : Registration H :=
  ⟨reg.scope, reg.handler.handler⟩

/-- What is written down of a call. -/
def note (call : Call Handler Event) : String × String :=
  (call.listener.handler.handler.name, call.event.method)

/-- How many steps there are in some scripts. -/
def sizeOfScripts : List (List Step) → Nat
  | [] => 0
  | script :: rest => sizeOfSteps script + sizeOfScripts rest

namespace State

/-- How many steps there are in the scripts that have not run. -/
def weight (s : State) : Nat :=
  sizeOfScripts s.scripts

/-- What is known in a state of names and handlers. -/
def book (s : State) : Book :=
  { names := s.scopeOf?, scripts := s.scripts }

/-- A state whose scopes and listeners are those of a hub. -/
structure Shows (s : State) (h : Hub Handler Event) : Prop where
  scopes : s.scopes = h.scopes
  listeners : s.listeners.registrations = h.listeners.registrations.map bare
  named : ∀ entry ∈ s.names, entry.2 < s.scopes.next
  distinct : (s.names.map (·.1)).Nodup

end State

/-- From a state to another one, as a hub has it that goes through some moves: the same are called,
and the deliveries that begin are over. -/
structure Plays (s : State) (h : Hub Handler Event) (moves : List (Move Handler Event))
    (s' : State) : Prop where
  shows : s'.Shows (h.run prune moves)
  seen : s'.seen = s.seen ++ (h.calls prune moves).map note
  finished : ∃ done, (h.run prune moves).deliveries = h.deliveries ++ done ∧
    ∀ d ∈ done, d.waiting = []

variable {s s' s'' : State} {h : Hub Handler Event} {moves more : List (Move Handler Event)}
  {event : Event} {depth : Nat}

/-! ### Weights -/

theorem sizeOfScripts_set_nil (scripts : List (List Step)) (i : Nat) :
    sizeOfSteps ((scripts[i]?).getD []) + sizeOfScripts (scripts.set i []) =
      sizeOfScripts scripts := by
  induction scripts generalizing i with
  | nil => simp [sizeOfSteps, sizeOfScripts]
  | cons script rest ih =>
    cases i with
    | zero => simp [sizeOfSteps, sizeOfScripts]
    | succ i =>
      have hrest := ih i
      simp only [List.getElem?_cons_succ, List.set_cons_succ, sizeOfScripts]
      omega

theorem sizeOfScripts_concat (scripts : List (List Step)) (next : List Step) :
    sizeOfScripts (scripts ++ [next]) = sizeOfScripts scripts + sizeOfSteps next := by
  induction scripts with
  | nil => simp [sizeOfScripts]
  | cons script rest ih => simp only [List.cons_append, sizeOfScripts, ih, Nat.add_assoc]

/-- A handler is called: the call is written down, and its script is taken. -/
def State.begin (s : State) (event : Event) (handler : Handler) : State :=
  { s with
    scripts := s.scripts.set handler.script []
    seen := s.seen ++ [(handler.name, event.method)] }

theorem State.weight_begin (s : State) (event : Event) (handler : Handler) :
    sizeOfSteps (s.book.scriptOf handler) + (s.begin event handler).weight = s.weight :=
  sizeOfScripts_set_nil s.scripts handler.script

theorem callAllScripts_succ (depth : Nat) (event : Event) (s : State)
    (regs : List (Registration Handler)) : callAllScripts (depth + 1) event s regs =
      callAll State.scopes (fun handler s =>
        runSteps depth (s.book.scriptOf handler) (s.begin event handler)) regs s := by
  rw [callAllScripts]
  rfl

theorem callAllScripts_eq_turn (depth : Nat) (event : Event) (s : State)
    (regs : List (Registration Handler)) : callAllScripts (depth + 1) event s regs =
      match regs.dropWhile fun reg => s.scopes.isCancelled reg.scope with
      | [] => s
      | reg :: rest =>
          callAllScripts (depth + 1) event
            (runSteps depth (s.book.scriptOf reg.handler) (s.begin event reg.handler)) rest := by
  simp only [callAllScripts_succ]
  rw [callAll_eq_turn]
  cases regs.dropWhile fun reg => s.scopes.isCancelled reg.scope <;> rfl

/-! ### One after the other -/

namespace Plays

theorem nil (hs : s.Shows h) : Plays s h [] s where
  shows := hs
  seen := by simp [Hub.calls]
  finished := ⟨[], by simp [Hub.run], nofun⟩

theorem append (hp : Plays s h moves s') (hp' : Plays s' (h.run prune moves) more s'') :
    Plays s h (moves ++ more) s'' where
  shows := by
    rw [Hub.run_append]
    exact hp'.shows
  seen := by
    rw [Hub.calls_append, hp'.seen, hp.seen, List.map_append, List.append_assoc]
  finished := by
    obtain ⟨done, hdone, hover⟩ := hp.finished
    obtain ⟨done', hdone', hover'⟩ := hp'.finished
    refine ⟨done ++ done', ?_, List.forall_mem_append.mpr ⟨hover, hover'⟩⟩
    rw [Hub.run_append, hdone', hdone, List.append_assoc]

/-- A move that has to do with no delivery. -/
theorem single {m : Move Handler Event} (hs : s'.Shows (h.move prune m))
    (hseen : s'.seen = s.seen) (hcall : h.call? m = none)
    (hdeliveries : (h.move prune m).deliveries = h.deliveries) : Plays s h [m] s' where
  shows := hs
  seen := by simp [Hub.calls, hcall, hseen]
  finished := ⟨[], by simpa [Hub.run] using hdeliveries, nofun⟩

end Plays

/-! ### Names -/

section Lookup

variable {names : List (String × ScopeId)} {name other : String} {id : ScopeId}

theorem lookup_filter_ne (hother : other ≠ name) :
    (names.filter fun entry => entry.1 ≠ name).lookup other = names.lookup other := by
  induction names with
  | nil => rfl
  | cons entry rest ih =>
    obtain ⟨known, id⟩ := entry
    rw [List.filter_cons, List.lookup_cons]
    by_cases hname : known = name
    · rw [if_neg (by simpa using hname), ih, beq_false_of_ne (hname ▸ hother)]
    · rw [if_pos (by simpa using hname), List.lookup_cons, ih]

theorem lookup_eq_some_iff_mem (hdistinct : (names.map (·.1)).Nodup) :
    names.lookup name = some id ↔ (name, id) ∈ names := by
  induction names with
  | nil => simp
  | cons entry rest ih =>
    obtain ⟨known, _⟩ := entry
    obtain ⟨hfresh, hrest⟩ := List.nodup_cons.mp hdistinct
    rw [List.lookup_cons, List.mem_cons, Prod.mk.injEq]
    by_cases hname : name = known
    · subst hname
      have hnone : (name, id) ∉ rest := fun hmem => hfresh (List.mem_map.mpr ⟨_, hmem, rfl⟩)
      simp [hnone, eq_comm]
    · rw [beq_false_of_ne hname, ih hrest]
      simp [hname]

end Lookup

theorem State.book_addScope (s : State) (name : String) (parent : Option ScopeId) :
    (s.addScope name parent).book = s.book.entitle name s.scopes.next := by
  refine congrArg (Book.mk · s.scripts) (funext fun other => ?_)
  show List.lookup other ((name, _) :: _) = _
  by_cases hother : other = name
  · subst hother
    simp
  · rw [List.lookup_cons, if_neg hother, beq_false_of_ne hother]
    exact lookup_filter_ne hother

/-! ### Steps -/

theorem addScope_plays (hs : s.Shows h) (name : String) (parent : Option ScopeId)
    (hparent : ∀ p ∈ parent, p < s.scopes.next) :
    Plays s h [.newScope parent] (s.addScope name parent) := by
  have hderive : (s.addScope name parent).scopes = s.scopes.derive parent := by
    unfold State.addScope Scopes.derive
    cases parent with
    | none => rfl
    | some p => exact (if_pos (hparent p rfl)).symm
  have hnext : (s.scopes.derive parent).next = s.scopes.next + 1 := by
    unfold Scopes.derive
    split
    · split <;> simp [Scopes.addChild, Scopes.addRoot, Scopes.next]
    · simp [Scopes.addRoot, Scopes.next]
  refine .single ⟨?_, hs.listeners, fun entry hentry => ?_, ?_⟩ rfl rfl rfl
  · rw [hderive, hs.scopes]
    rfl
  · rw [hderive, hnext]
    rcases List.mem_cons.mp hentry with rfl | hentry
    · exact Nat.lt_succ_self _
    · exact Nat.lt_succ_of_lt (hs.named entry (List.mem_filter.mp hentry).1)
  · refine List.nodup_cons.mpr ⟨by simp, ?_⟩
    exact hs.distinct.sublist (List.filter_sublist.map _)

/-- A scope that is named is there, or it is made. -/
theorem scopeNamed_plays (hs : s.Shows h) (name : String) :
    (∃ moves, NameMoves h.scopes.next name s.book moves (s.scopeNamed name).1
          (s.scopeNamed name).2.book ∧ Plays s h moves (s.scopeNamed name).2) ∧
      (s.scopeNamed name).1 < (s.scopeNamed name).2.scopes.next ∧
      (s.scopeNamed name).2.scripts = s.scripts := by
  unfold State.scopeNamed
  split
  next id hid =>
    obtain ⟨_, _, hnames, -⟩ := List.lookup_eq_some_iff.mp hid
    have hmem : (name, id) ∈ s.names := by simp [hnames]
    exact ⟨⟨[], .known hid, .nil hs⟩, hs.named _ hmem, rfl⟩
  next hnone =>
    have hmade : NameMoves h.scopes.next name s.book [.newScope none] s.scopes.next
        (s.addScope name none).book := by
      rw [State.book_addScope, hs.scopes]
      exact .made hnone
    refine ⟨⟨_, hmade, addScope_plays hs name none (by simp)⟩, ?_, rfl⟩
    simp [State.addScope, Scopes.addRoot, Scopes.next]

theorem State.Shows.live (hs : s.Shows h) :
    s.listeners.live s.scopes = (h.listeners.live h.scopes).map bare := by
  unfold Listeners.live
  rw [hs.listeners, hs.scopes, List.filter_map]
  rfl

theorem listen_plays (hs : s.Shows h) (id : ScopeId) (handler : Handler)
    (scripts : List (List Step)) : Plays s h [.listen id handler]
      { s with
        listeners := s.listeners.listen s.scopes id handler
        scripts := scripts } := by
  refine .single ⟨hs.scopes, ?_, hs.named, hs.distinct⟩ rfl rfl rfl
  have hlive := hs.live
  rw [Hub.move_listen_prune]
  unfold Listeners.listen
  rw [hs.scopes] at hlive ⊢
  by_cases hgone : h.scopes.isCancelled id = true
  · rw [if_pos hgone, if_pos hgone]
    exact hlive
  · rw [if_neg hgone, if_neg hgone, hlive, List.map_append]
    rfl

theorem cancel_plays (hs : s.Shows h) (id : ScopeId) :
    Plays s h [.cancel id] { s with scopes := s.scopes.cancel id } := by
  have hscopes : s.scopes.cancel id = h.scopes.cancel id := congrArg (·.cancel id) hs.scopes
  refine .single ⟨hscopes, hs.listeners, fun entry hentry => ?_, hs.distinct⟩ rfl rfl rfl
  rw [Scopes.next_cancel]
  exact hs.named entry hentry

/-! ### Deliveries -/

theorem modify_append_cons {α : Type} (before : List α) (x : α) (after : List α) (f : α → α) :
    (before ++ x :: after).modify before.length f = before ++ f x :: after := by
  induction before with
  | nil => rfl
  | cons first rest ih => simp [ih]

section Turns

variable {before after : List (Delivery Handler Event)} {d : Delivery Handler Event}
  {reg : Registration (Placed Handler)} {regs rest : List (Registration (Placed Handler))}

/-- A turn has to do with its own delivery only. -/
theorem turn_at (hd : h.deliveries = before ++ d :: after) :
    h.call? (.turn before.length) =
        (d.left h.scopes).head?.map (⟨before.length, d.event, ·⟩) ∧
      (h.move prune (.turn before.length)).deliveries = before ++ d.next h.scopes :: after := by
  constructor
  · simp [Hub.call?, hd]
  · show h.deliveries.modify _ _ = _
    rw [hd, modify_append_cons]

/-- From a state to another one in the course of a delivery, which comes after those in `before`:
as in `Plays`, and it is over as well. -/
structure PlaysOut (before : List (Delivery Handler Event)) (event : Event)
    (after : List (Delivery Handler Event)) (s : State) (h : Hub Handler Event)
    (moves : List (Move Handler Event)) (s' : State) : Prop where
  shows : s'.Shows (h.run prune moves)
  seen : s'.seen = s.seen ++ (h.calls prune moves).map note
  finished : ∃ done, (h.run prune moves).deliveries = before ++ ⟨event, []⟩ :: (after ++ done) ∧
    ∀ d ∈ done, d.waiting = []

namespace PlaysOut

/-- A turn that calls nobody is the last one. -/
theorem last (hs : s.Shows h) (hd : h.deliveries = before ++ ⟨event, regs⟩ :: after)
    (hleft : (⟨event, regs⟩ : Delivery Handler Event).left h.scopes = []) :
    PlaysOut before event after s h [.turn before.length] s := by
  obtain ⟨hcall, hmoved⟩ := turn_at hd
  rw [hleft] at hcall
  rw [Delivery.next, hleft] at hmoved
  refine ⟨⟨hs.scopes, hs.listeners, hs.named, hs.distinct⟩, by simp [Hub.calls, hcall], [], ?_,
    List.forall_mem_nil _⟩
  rw [List.append_nil]
  exact hmoved

/-- A turn that calls a handler, what the handler does, and the turns of the others. -/
theorem turn {done : List (Delivery Handler Event)}
    (hcall : h.call? (.turn before.length) = some ⟨before.length, event, reg⟩)
    (hp : Plays (s.begin event reg.handler.handler) (h.move prune (.turn before.length)) moves s')
    (hover : ∀ d ∈ done, d.waiting = [])
    (hrest : PlaysOut before event (after ++ done) s'
      ((h.move prune (.turn before.length)).run prune moves) more s'') :
    PlaysOut before event after s h (.turn before.length :: (moves ++ more)) s'' where
  shows := by
    show s''.Shows ((h.move prune _).run prune (moves ++ more))
    rw [Hub.run_append]
    exact hrest.shows
  seen := by
    show _ = s.seen ++ ((h.call? _).toList ++ (h.move prune _).calls prune (moves ++ more)).map note
    rw [Hub.calls_append, hcall, hrest.seen, hp.seen]
    simp [State.begin, note]
  finished := by
    obtain ⟨done', hdone', hover'⟩ := hrest.finished
    refine ⟨done ++ done', ?_, List.forall_mem_append.mpr ⟨hover, hover'⟩⟩
    show ((h.move prune _).run prune (moves ++ more)).deliveries = _
    rw [Hub.run_append, hdone', List.append_assoc]

end PlaysOut

/-- A depth at which whatever is left to run can be run. -/
def Suffices (depth : Nat) : Prop :=
  ∀ (steps : List Step) (s : State) (h : Hub Handler Event), s.Shows h →
    sizeOfSteps steps + s.weight < depth →
      (∃ moves, ScriptMoves steps s.book h moves (runSteps depth steps s).book ∧
          Plays s h moves (runSteps depth steps s)) ∧
        (runSteps depth steps s).weight ≤ sizeOfSteps steps + s.weight

/-- The turns of a delivery, one after the other: what the handler does comes after its turn. -/
theorem callAllScripts_plays (hdepth : Suffices depth) (hs : s.Shows h)
    (hd : h.deliveries = before ++ ⟨event, regs⟩ :: after) (hweight : s.weight < depth) :
    (∃ moves, TurnMoves before.length s.book h moves
          (callAllScripts (depth + 1) event s (regs.map bare)).book ∧
        PlaysOut before event after s h moves
          (callAllScripts (depth + 1) event s (regs.map bare))) ∧
      (callAllScripts (depth + 1) event s (regs.map bare)).weight ≤ s.weight := by
  induction hlength : regs.length using Nat.strongRecOn generalizing regs after s h with
  | ind length ih =>
    obtain ⟨hcall, hmoved⟩ := turn_at hd
    have hbare : (regs.map bare).dropWhile (fun reg => s.scopes.isCancelled reg.scope) =
        ((⟨event, regs⟩ : Delivery Handler Event).left h.scopes).map bare := by
      rw [List.dropWhile_map, hs.scopes]
      rfl
    rw [callAllScripts_eq_turn, hbare]
    cases hleft : (⟨event, regs⟩ : Delivery Handler Event).left h.scopes with
    | nil =>
      rw [hleft] at hcall
      exact ⟨⟨_, .last hcall, .last hs hd hleft⟩, Nat.le_refl _⟩
    | cons reg rest =>
      rw [hleft] at hcall
      rw [Delivery.next, hleft] at hmoved
      have hshorter : rest.length < length := by
        have hsuffix : reg :: rest <:+ regs := hleft ▸ List.dropWhile_suffix _
        exact hlength ▸ hsuffix.length_le
      have hs₁ : (s.begin event reg.handler.handler).Shows (h.move prune (.turn before.length)) :=
        ⟨hs.scopes, hs.listeners, hs.named, hs.distinct⟩
      have hbegin := s.weight_begin event reg.handler.handler
      obtain ⟨⟨moves, hscript, hp⟩, hweight₁⟩ :=
        hdepth (s.book.scriptOf reg.handler.handler) _ _ hs₁ (by omega)
      obtain ⟨done, hdone, hover⟩ := hp.finished
      rw [hmoved, List.append_assoc, List.cons_append] at hdone
      obtain ⟨⟨more, hturns, hrest⟩, hweight₂⟩ :=
        ih rest.length hshorter hp.shows hdone (by omega) rfl
      exact ⟨⟨_, .call hcall hscript hturns, .turn hcall hp hover hrest⟩,
        Nat.le_trans hweight₂ (by omega)⟩

end Turns

theorem deliver_plays (hdepth : Suffices depth) (hs : s.Shows h) (hweight : s.weight < depth)
    (event : Event) :
    (∃ moves, StepMoves (.deliver event) s.book h moves
          (runStep (depth + 1) (.deliver event) s).book ∧
        Plays s h moves (runStep (depth + 1) (.deliver event) s)) ∧
      (runStep (depth + 1) (.deliver event) s).weight ≤ s.weight := by
  let pruned : State := { s with listeners := s.listeners.prune s.scopes }
  let h₁ := h.move prune (.deliver event)
  have hlive : pruned.listeners.registrations = (h.listeners.live h.scopes).map bare := hs.live
  have hs₁ : pruned.Shows h₁ := ⟨hs.scopes, hlive, hs.named, hs.distinct⟩
  have hd : h₁.deliveries = h.deliveries ++ [⟨event, h.listeners.live h.scopes⟩] := rfl
  obtain ⟨⟨moves, hturns, hp⟩, hweight'⟩ := callAllScripts_plays hdepth hs₁ hd hweight
  have hstep : runStep (depth + 1) (.deliver event) s =
      callAllScripts (depth + 1) event pruned ((h.listeners.live h.scopes).map bare) := by
    rw [← hlive, runStep]
  obtain ⟨done, hdone, hover⟩ := hp.finished
  rw [hstep]
  refine ⟨⟨_, .deliver hturns, hp.shows, hp.seen, ⟨event, []⟩ :: done, hdone, ?_⟩, hweight'⟩
  exact List.forall_mem_cons.mpr ⟨rfl, hover⟩

/-! ### Scripts -/

theorem runStep_plays (hdepth : Suffices depth) (hs : s.Shows h) (step : Step)
    (hweight : step.size + s.weight < depth + 1) :
    (∃ moves, StepMoves step s.book h moves (runStep (depth + 1) step s).book ∧
        Plays s h moves (runStep (depth + 1) step s)) ∧
      (runStep (depth + 1) step s).weight ≤ step.size + s.weight := by
  cases step with
  | scope name parent =>
    cases parent with
    | none =>
      rw [runStep, State.book_addScope, hs.scopes]
      exact ⟨⟨_, .root, addScope_plays hs name none (by simp)⟩, Nat.le_add_left ..⟩
    | some parent =>
      rw [runStep]
      obtain ⟨⟨moves, hp, hplays⟩, hlt, hscripts⟩ := scopeNamed_plays hs parent
      generalize s.scopeNamed parent = made at hp hplays hlt hscripts
      obtain ⟨p, s₁⟩ := made
      have hparent : ∀ q ∈ some p, q < s₁.scopes.next := by
        intro q hq
        cases hq
        exact hlt
      have hmoves : StepMoves (.scope name (some parent)) s.book h (moves ++ [.newScope (some p)])
          (s₁.addScope name (some p)).book := by
        rw [State.book_addScope, hplays.shows.scopes]
        exact .child hp
      refine ⟨⟨_, hmoves, hplays.append (addScope_plays hplays.shows name (some p) hparent)⟩, ?_⟩
      show sizeOfScripts s₁.scripts ≤ _
      rw [hscripts]
      exact Nat.le_add_left ..
  | cancel name =>
    rw [runStep]
    obtain ⟨⟨moves, hid, hp⟩, -, hscripts⟩ := scopeNamed_plays hs name
    generalize s.scopeNamed name = made at hid hp hscripts
    obtain ⟨id, s₁⟩ := made
    refine ⟨⟨_, .cancel hid, hp.append (cancel_plays hp.shows id)⟩, ?_⟩
    show sizeOfScripts s₁.scripts ≤ _
    rw [hscripts]
    exact Nat.le_add_left ..
  | listen scope name next =>
    rw [runStep]
    obtain ⟨⟨moves, hid, hp⟩, -, hscripts⟩ := scopeNamed_plays hs scope
    generalize s.scopeNamed scope = made at hid hp hscripts
    obtain ⟨id, s₁⟩ := made
    have hposition : s₁.scripts.length = s.book.scripts.length := congrArg List.length hscripts
    refine ⟨⟨_, .listen hid, ?_⟩, ?_⟩
    · rw [← hposition]
      exact hp.append (listen_plays hp.shows id ⟨name, s₁.scripts.length⟩ _)
    · show sizeOfScripts (s₁.scripts ++ [next]) ≤ _
      rw [sizeOfScripts_concat, hscripts, Step.size, State.weight]
      omega
  | deliver event =>
    obtain ⟨hplays, hle⟩ := deliver_plays hdepth hs (by simp [Step.size] at hweight; omega) event
    exact ⟨hplays, Nat.le_trans hle (Nat.le_add_left ..)⟩

/-- Any depth suffices, for what is less than it. -/
theorem suffices_depth (depth : Nat) : Suffices depth := by
  induction depth with
  | zero => exact fun steps s h _ hlt => absurd hlt (Nat.not_lt_zero _)
  | succ depth ih =>
    intro steps
    induction steps with
    | nil =>
      intro s h hs _
      rw [runSteps]
      exact ⟨⟨[], .nil, .nil hs⟩, Nat.le_add_left ..⟩
    | cons step rest ihsteps =>
      intro s h hs hlt
      rw [sizeOfSteps] at hlt ⊢
      obtain ⟨⟨moves, hstep, hp⟩, hweight⟩ := runStep_plays ih hs step (by omega)
      obtain ⟨⟨more, hrest, hp'⟩, hweight'⟩ := ihsteps _ _ hp.shows (by omega)
      rw [runSteps]
      exact ⟨⟨moves ++ more, .cons hstep hrest, hp.append hp'⟩, by omega⟩

/-! ### Reports -/

/-- Reports of a usage from a position on, where a script is run. Each is about the moves of one
step, after which all deliveries are over. -/
inductive Reports (r : Usage Handler Event) : Nat → Book → List Step → List Report → Prop
  | done {b : Book} : Reports r r.moves.length b [] []
  | step {k l : Nat} {b b' : Book} {step : Step} {steps : List Step} {report : Report}
      {rest : List Report} (hkl : k ≤ l)
      (moves : StepMoves step b (r.hub k) ((r.moves.take l).drop k) b')
      (seen : report.seen = (r.calls k l).map note) (live : report.live = (r.hub l).liveCount)
      (cancelled : ∀ name, name ∈ report.cancelled ↔
        ∃ id, b'.names name = some id ∧ (r.hub l).scopes.isCancelled id = true)
      (finished : ∀ n, r.waiting n l = []) (hrest : Reports r l b' steps rest) :
      Reports r k b (step :: steps) (report :: rest)

theorem State.Shows.mem_cancelledNames (hs : s.Shows h) {name : String} :
    name ∈ s.cancelledNames ↔
      ∃ id, s.book.names name = some id ∧ h.scopes.isCancelled id = true := by
  have hlookup : ∀ id, s.book.names name = some id ↔ (name, id) ∈ s.names :=
    fun id => lookup_eq_some_iff_mem hs.distinct
  simp only [State.cancelledNames, List.mem_map, List.mem_filter, hlookup, ← hs.scopes]
  constructor
  · rintro ⟨⟨_, id⟩, hentry, rfl⟩
    exact ⟨id, hentry⟩
  · rintro ⟨id, hentry⟩
    exact ⟨(name, id), hentry, rfl⟩

theorem State.Shows.liveCount (hs : s.Shows h) : s.liveCount = h.liveCount := by
  show (s.listeners.live s.scopes).length = (h.listeners.live h.scopes).length
  rw [hs.live, List.length_map]

theorem Plays.waiting (hp : Plays s h moves s') (hover : ∀ d ∈ h.deliveries, d.waiting = []) :
    ∀ d ∈ (h.run prune moves).deliveries, d.waiting = [] := by
  obtain ⟨done, hdone, hover'⟩ := hp.finished
  rw [hdone]
  exact List.forall_mem_append.mpr ⟨hover, hover'⟩

theorem reports_plays (steps : List Step) (hs : s.Shows h)
    (hover : ∀ d ∈ h.deliveries, d.waiting = [])
    (hweight : sizeOfSteps steps + s.weight < depth + 1) :
    ∃ moves, ∀ before, Hub.fresh.run prune before = h →
      Reports ⟨before ++ moves⟩ before.length s.book steps (reports (depth + 1) steps s) := by
  induction steps generalizing s h with
  | nil =>
    refine ⟨[], fun before _ => ?_⟩
    rw [List.append_nil]
    exact .done
  | cons step rest ih =>
    rw [sizeOfSteps] at hweight
    let blank : State := { s with seen := [] }
    have hblank : blank.Shows h := ⟨hs.scopes, hs.listeners, hs.named, hs.distinct⟩
    obtain ⟨⟨part, hpart, hp⟩, hle⟩ :=
      runStep_plays (suffices_depth depth) hblank step (by show _ + s.weight < _; omega)
    have hover' := hp.waiting hover
    obtain ⟨moves, hmoves⟩ := ih hp.shows hover'
      (by have hblank : blank.weight = s.weight := rfl; omega)
    refine ⟨part ++ moves, fun before hbefore => ?_⟩
    have hafter : Hub.fresh.run prune (before ++ part) = h.run prune part := by
      rw [Hub.run_append, hbefore]
    have hbegin := Usage.hub_append before (part ++ moves)
    have hhub := Usage.hub_append (before ++ part) moves
    have hcalls := Usage.calls_append before part moves
    have hown : ((before ++ (part ++ moves)).take (before ++ part).length).drop before.length =
        part := by
      rw [← List.append_assoc, List.take_left, List.drop_left]
    have hrest := hmoves (before ++ part) hafter
    rw [List.append_assoc, List.length_append] at hhub hrest
    rw [List.length_append] at hown
    refine .step (Nat.le_add_right ..) ?_ ?_ ?_ (fun name => ?_) (fun n => ?_) hrest
    · rw [hbegin, hown, hbefore]
      exact hpart
    · rw [hcalls, hbefore]
      exact hp.seen.trans (List.nil_append _)
    · rw [hhub, hafter]
      exact hp.shows.liveCount
    · rw [hhub, hafter]
      exact hp.shows.mem_cancelledNames
    · unfold Usage.waiting
      rw [hhub, hafter]
      cases hd : (h.run prune part).deliveries[n]? with
      | none => rfl
      | some d => exact hover' d (List.mem_of_getElem? hd)

/-- Every scripted run is a usage of a list of listeners. -/
theorem run_reports (steps : List Step) :
    ∃ r : Usage Handler Event, Reports r 0 .blank steps (run steps) := by
  have hs : State.initial.Shows .fresh := ⟨rfl, rfl, nofun, .nil⟩
  have hweight : sizeOfSteps steps + State.initial.weight < sizeOfSteps steps + 1 :=
    Nat.lt_succ_self _
  obtain ⟨moves, hmoves⟩ := reports_plays steps hs nofun hweight
  exact ⟨⟨moves⟩, hmoves [] rfl⟩

/-- A handler that registers another one, delivers the event once more and cancels the scope of the
handler whose turn would be next. -/
example : (run [.listen "page" "first"
      [.listen "page" "late" [], .deliver (.other "Page.opened" .null), .cancel "tab"],
    .listen "tab" "second" [],
    .deliver (.other "Page.opened" .null)]).map (·.seen) =
    [[], [], [("first", "Page.opened"), ("first", "Page.opened"), ("second", "Page.opened"),
      ("late", "Page.opened")]] := by
  cbv

end Script

/-- How events are delivered to listeners. -/
structure DeliveryLaw : Prop where
  /-- Whatever is done with a list of listeners, its deliveries keep to the law. -/
  usage : ∀ {H E : Type} (r : Usage H E), r.Law
  /-- A delivery goes from turn to turn, and what a handler does comes in between. -/
  turn : ∀ {H σ : Type} (scopesOf : σ → Scopes) (call : H → σ → σ)
    (regs : List (Registration H)) (s : σ), callAll scopesOf call regs s =
      match regs.dropWhile fun reg => (scopesOf s).isCancelled reg.scope with
      | [] => s
      | reg :: rest => callAll scopesOf call rest (call reg.handler s)
  /-- So every scripted run is a usage, step by step the moves of its script, with the calls, the
  numbers and the names that are reported. -/
  scripted : ∀ steps : List Script.Step,
    ∃ r : Usage Script.Handler Wire.Event, Script.Reports r 0 .blank steps (Script.run steps)
  /-- No step could move in any other way. -/
  moves_unique : ∀ {step : Script.Step} {b b' b'' : Script.Book}
    {h : Hub Script.Handler Wire.Event} {moves moves' : List (Move Script.Handler Wire.Event)},
    Script.StepMoves step b h moves b' → Script.StepMoves step b h moves' b'' →
      moves = moves' ∧ b' = b''

theorem delivery_law : DeliveryLaw where
  usage r := r.law
  turn := callAll_eq_turn
  scripted := Script.run_reports
  moves_unique := Script.StepMoves.unique

end PagePilot.Listeners
