import PagePilot.Proofs.Barrier.Delivery
/-!
# PagePilot.Proofs.Connection.Routes

Where the events of sessions go, and what one transition does to that:

* `World.rerouted?` is the session whose events go elsewhere from now on, and where, and
  `apply_routeOf?` says that nothing else changes the routes;
* `World.adopted?` is the page that somebody takes hold of, and `apply_page` says that a page
  stays, and that one that is gone comes back by nothing else.
-/

namespace PagePilot

open Wire

namespace Connection

theorem lookup_route (routes : List (Option SessionId × PageKey))
    (session session' : Option SessionId) (page : PageKey) :
    ((session', page) :: routes).lookup session =
      if session' = session then some page else routes.lookup session := by
  rw [List.lookup_cons]
  by_cases hsession : session' = session
  · simp [hsession]
  · simp [hsession, beq_false_of_ne (Ne.symm hsession)]

theorem routeOf?_unroute (c : Connection) (session session' : Option SessionId) :
    (c.unroute session').routeOf? session =
      if session' = session then none else c.routeOf? session := by
  obtain ⟨nextId, parked, replies, routes, closed⟩ := c
  show (routes.filter fun route => route.1 ≠ session').lookup session =
    if session' = session then none else routes.lookup session
  induction routes with
  | nil => simp
  | cons route rest ih =>
    obtain ⟨session'', page⟩ := route
    rw [lookup_route]
    by_cases hdropped : session'' = session'
    · rw [List.filter_cons_of_neg (by simpa using hdropped), ih, hdropped]
      split <;> rfl
    · rw [List.filter_cons_of_pos (by simpa using hdropped), lookup_route, ih]
      by_cases hsession : session' = session
      · simp [hsession ▸ hdropped, hsession]
      · simp [hsession]

theorem routeOf?_route (c : Connection) (session session' : Option SessionId) (page : PageKey) :
    (c.route session' page).routeOf? session =
      if session' = session then some page else c.routeOf? session := by
  refine (lookup_route (c.unroute session').routes session session' page).trans ?_
  have hrest := c.routeOf?_unroute session session'
  unfold routeOf? at hrest ⊢
  rw [hrest]
  split <;> rfl

theorem routeOf?_answer (c : Connection) (r : Response) (session : Option SessionId) :
    (c.answer r).routeOf? session = c.routeOf? session := by
  unfold answer
  split <;> rfl

end Connection

/-- The page that an act takes hold of. -/
def Act.adopted? : Act → Option PageKey
  | .handOver page => some page
  | _ => none

namespace World

/-! ### What a transition is about -/

/-- The event that is taken in by a transition, with the page that its session belongs to. -/
def routed? (w : World) (t : Transition) : Option (EventMessage × PageKey) :=
  match w.incoming? t with
  | some (.event e) => (w.connection.routeOf? e.sessionId).map (e, ·)
  | _ => none

/-- The session whose events go elsewhere after a transition, and the page that gets them, if
any does: a page is registered or unregistered, or found to be gone by an event for it. -/
def rerouted? (w : World) : Transition → Option (Option SessionId × Option PageKey)
  | .route session page => some (session, some page)
  | .unroute session => some (session, none)
  | .step task =>
      match w.deed? (.step task) with
      | some (_, ⟨.openPage session, page⟩) => some (some session, some page)
      | _ => none
  | t =>
      match w.routed? t with
      | some (e, page) => if w.isAlive page then none else some (e.sessionId, none)
      | none => none

/-- The page that somebody takes hold of by a transition. -/
def adopted? (w : World) : Transition → Option PageKey
  | .sharePage page _ => some page
  | .step task => (w.deed? (.step task)).bind fun d => d.2.act.adopted?
  | _ => none

/-- The page that gets the events of a session after they go elsewhere, or nowhere. -/
def routeAfter (w : World) (change : Option (Option SessionId × Option PageKey))
    (session : Option SessionId) : Option PageKey :=
  match change with
  | some (session', page) =>
      if session' = session then page else w.connection.routeOf? session
  | none => w.connection.routeOf? session

variable {w w' : World} {page page' : PageKey} {session : Option SessionId}

/-! ### Routes -/

theorem routeAfter_self (w : World) (session : Option SessionId) (target : Option PageKey) :
    w.routeAfter (some (session, target)) session = target :=
  if_pos rfl

theorem routeAfter_of_ne {change : Option (Option SessionId × Option PageKey)}
    (h : ∀ target, change ≠ some (session, target)) :
    w.routeAfter change session = w.connection.routeOf? session := by
  unfold routeAfter
  split
  next session' target =>
    refine if_neg ?_
    rintro rfl
    exact h target rfl
  next => rfl

/-- When each change is known, a page is in the table at a position if it was put there before,
and nothing has changed that since. -/
theorem routeOf?_history {world : Nat → World} {session : Option SessionId}
    {changes : Nat → Option (Option SessionId × Option PageKey)}
    (hstart : (world 0).connection.routeOf? session = none)
    (hstep : ∀ k, (world (k + 1)).connection.routeOf? session =
      (world k).routeAfter (changes k) session) {k : Nat} {page : PageKey} :
    (world k).connection.routeOf? session = some page ↔
      ∃ m < k, changes m = some (session, some page) ∧
        ∀ l, m < l → l < k → ∀ target, changes l ≠ some (session, target) := by
  induction k with
  | zero => simp [hstart]
  | succ k ih =>
    by_cases hchange : ∃ target, changes k = some (session, target)
    · -- The last change counts, and whatever came before it does not.
      obtain ⟨target, hchange⟩ := hchange
      rw [hstep, hchange, routeAfter_self]
      constructor
      · rintro rfl
        exact ⟨k, Nat.lt_succ_self k, hchange, fun l hkl hlk => absurd hlk (by omega)⟩
      · rintro ⟨m, hmk, hput, hsince⟩
        rcases Nat.lt_succ_iff_lt_or_eq.mp hmk with hlt | rfl
        · exact absurd hchange (hsince k hlt (Nat.lt_succ_self k) target)
        · cases hchange.symm.trans hput
          rfl
    · have hsame : ∀ target, changes k ≠ some (session, target) :=
        fun target h => hchange ⟨target, h⟩
      rw [hstep, routeAfter_of_ne hsame, ih]
      constructor
      · rintro ⟨m, hmk, hput, hsince⟩
        refine ⟨m, Nat.lt_succ_of_lt hmk, hput, fun l hml hlk => ?_⟩
        rcases Nat.lt_succ_iff_lt_or_eq.mp hlk with hlt | rfl
        · exact hsince l hml hlt
        · exact hsame
      · rintro ⟨m, hmk, hput, hsince⟩
        rcases Nat.lt_succ_iff_lt_or_eq.mp hmk with hlt | rfl
        · exact ⟨m, hlt, hput, fun l hml hlk => hsince l hml (Nat.lt_succ_of_lt hlk)⟩
        · exact absurd hput (hsame _)

theorem routed?_eq_some {t : Transition} {e : EventMessage} {page : PageKey} :
    w.routed? t = some (e, page) ↔
      w.incoming? t = some (.event e) ∧ w.connection.routeOf? e.sessionId = some page := by
  unfold routed?
  split
  next e' h =>
    rw [h, Option.map_eq_some_iff]
    constructor
    · rintro ⟨page', hroute, heq⟩
      cases heq
      exact ⟨rfl, hroute⟩
    · rintro ⟨heq, hroute⟩
      cases heq
      exact ⟨page, hroute, rfl⟩
  next h =>
    constructor
    · rintro ⟨⟩
    · rintro ⟨heq, -⟩
      exact absurd heq (h e)

theorem perform_routeOf? {task : TaskId} {a : Act} {reply : a.Reply}
    (hd : w.deed? (.step task) = some (task, ⟨a, reply⟩))
    (hp : w.perform task a = some (reply, w')) (session : Option SessionId) :
    w'.connection.routeOf? session = w.routeAfter (w.rerouted? (.step task)) session := by
  cases performed_of_perform hp with
  | learn hquiet | note hquiet =>
    simp only [rerouted?, hd]
    cases a <;> first | rfl | cases hquiet
  | openPage session' =>
    cases hp
    simp only [rerouted?, hd]
    exact Connection.routeOf?_route ..
  | startReading =>
    rw [startReading_connection]
    simp [rerouted?, hd, routeAfter]
  | allocate | park | unpark | arm | disarm | setFrame | handOver | save =>
    simp only [rerouted?, hd]
    rfl

theorem step_routeOf? (w : World) (task : TaskId) (session : Option SessionId) :
    (w.step task).connection.routeOf? session =
      w.routeAfter (w.rerouted? (.step task)) session := by
  match htask : w.tasks[task]? with
  | some (.running (.done outcome)) =>
    simp only [step, rerouted?, deed?, htask]
    rfl
  | some (.running (.act a next)) =>
    cases hp : w.perform task a with
    | none => simp [step, rerouted?, deed?, htask, hp, routeAfter]
    | some result =>
      have hroute := perform_routeOf? (by simp [deed?, htask, hp]) hp session
      simp only [step, htask, hp]
      exact hroute
  | some (.ended _) | some .aborted | none => simp [step, rerouted?, deed?, htask, routeAfter]

/-- An event changes the routes when the page of its session is gone. -/
theorem hand_routeOf? (w : World) (e : EventMessage) (session : Option SessionId) :
    (w.hand e).connection.routeOf? session = w.routeAfter
      (match (w.connection.routeOf? e.sessionId).map (e, ·) with
        | some (e, page) => if w.isAlive page then none else some (e.sessionId, none)
        | none => none) session := by
  unfold hand
  cases w.connection.routeOf? e.sessionId with
  | none => rfl
  | some page =>
    dsimp only [Option.map_some]
    split
    · rw [(deliver_aside ..).connection]
      rfl
    · exact Connection.routeOf?_unroute ..

theorem read_routeOf? (w : World) (session : Option SessionId) :
    w.read.connection.routeOf? session = w.routeAfter (w.rerouted? .read) session := by
  unfold read
  cases hreading : w.inbound.reading with
  | notStarted | ended | stopped | closing =>
    simp only [rerouted?, routed?, incoming?, hreading]
    rfl
  | running owner =>
    cases hinbox : w.inbound.inbox with
    | nil =>
      simp only [rerouted?, routed?, incoming?, hreading, hinbox]
      split <;> rfl
    | cons message rest =>
      simp only [rerouted?, routed?, incoming?, hreading, hinbox, take]
      cases Message.decode message with
      | error cause => rfl
      | ok m =>
        cases m with
        | response response =>
          dsimp only [Except.toOption]
          rw [answer_connection, Connection.routeOf?_answer]
          rfl
        | event e => exact hand_routeOf? _ e session

/-- Nothing else changes where events go. -/
theorem apply_routeOf? (w : World) (t : Transition) (session : Option SessionId) :
    (w.apply t).connection.routeOf? session = w.routeAfter (w.rerouted? t) session := by
  cases t with
  | step task => exact step_routeOf? w task session
  | read => exact read_routeOf? w session
  | route session' page => exact Connection.routeOf?_route ..
  | unroute session' => exact Connection.routeOf?_unroute ..
  | deliver page event => exact congrArg (·.routeOf? session) (deliver_aside ..).connection
  | release key => exact congrArg (·.routeOf? session) (release_aside ..).connection
  | startReading => exact congrArg (·.routeOf? session) (startReading_connection ..)
  | abort task =>
    simp only [apply, abort]
    split <;> rfl
  | inject message =>
    simp only [apply, inject]
    split <;> rfl
  | receive =>
    simp only [apply, receive]
    split <;> rfl
  | stopReading =>
    simp only [apply, stopReading]
    split <;> rfl
  | _ => rfl

/-! ### Pages -/

theorem isAlive_eq_true : w.isAlive page = true ↔
    ∃ p, w.pages[page]? = some p ∧ p.alive = true := by
  unfold isAlive
  cases w.pages[page]? <;> simp

/-- A page that is changed without anybody taking hold of it. -/
theorem modifyPage_page {p : PageState} {f : PageState → PageState}
    (hf : ∀ p : PageState, (f p).alive = true → p.alive = true) (h : w.pages[page]? = some p) :
    ∃ p', (w.modifyPage page' f).pages[page]? = some p' ∧ (p'.alive = true → p.alive = true) := by
  simp only [modifyPage, List.getElem?_modify, h]
  by_cases hpage : page' = page
  · exact ⟨f p, by simp [hpage], hf p⟩
  · exact ⟨p, by simp [hpage], fun h => h⟩

theorem alive_of_dropHolder {p : PageState} {holder : Holder}
    (h : (p.dropHolder holder).alive = true) : p.alive = true := by
  unfold PageState.alive PageState.dropHolder at *
  cases hholders : p.holders with
  | nil => simp [hholders] at h
  | cons => rfl

theorem dropHoldings_page {p : PageState} (h : w.pages[page]? = some p) (holder : Holder) :
    ∃ p', (w.dropHoldings holder).pages[page]? = some p' ∧ (p'.alive = true → p.alive = true) :=
  ⟨p.dropHolder holder, by simp [dropHoldings, releaseAbandoned, h], alive_of_dropHolder⟩

theorem openPage_page {p : PageState} {frame : Option FrameId} {holder : Holder}
    (h : w.pages[page]? = some p) : (w.openPage session frame holder).pages[page]? = some p := by
  rw [openPage, List.getElem?_append_left (List.getElem?_eq_some_iff.mp h).1, h]

/-- A page that somebody may take hold of. -/
theorem adopt_page {p : PageState} {holder : Holder} (h : w.pages[page]? = some p) :
    ∃ p', (w.modifyPage page' fun p => { p with holders := p.holders ++ [holder] }).pages[page]? =
      some p' ∧ (p'.alive = true → p.alive = true ∨ some page' = some page) := by
  simp only [modifyPage, List.getElem?_modify, h]
  by_cases hpage : page' = page
  · exact ⟨{ p with holders := p.holders ++ [holder] }, by simp [hpage],
      fun _ => .inr (congrArg some hpage)⟩
  · exact ⟨p, by simp [hpage], .inl⟩

theorem deliver_page {p : PageState} (event : Event) (h : w.pages[page]? = some p) :
    ∃ p', (w.deliver page' event).pages[page]? = some p' ∧ (p'.alive = true → p.alive = true) := by
  have hfollow : ∃ p', (w.follow page' event).pages[page]? = some p' ∧
      (p'.alive = true → p.alive = true) := by
    unfold follow
    split
    · exact modifyPage_page (fun _ halive => halive) h
    · exact ⟨p, h, fun halive => halive⟩
  obtain ⟨p', hp', hback⟩ := hfollow
  rw [deliver_eq_callListeners]
  unfold callListeners
  split
  · exact ⟨p', hp', hback⟩
  · rw [callAll_pages]
    have hpruned : ∃ p'', ((w.follow page' event).modifyPage page' fun p =>
        { p with listeners := p.listeners.prune (w.follow page' event).scopes }).pages[page]? =
          some p'' ∧ (p''.alive = true → p'.alive = true) :=
      modifyPage_page (fun _ halive => halive) hp'
    obtain ⟨p'', hp'', hback'⟩ := hpruned
    exact ⟨p'', hp'', hback ∘ hback'⟩

theorem hand_page {p : PageState} (e : EventMessage) (h : w.pages[page]? = some p) :
    ∃ p', (w.hand e).pages[page]? = some p' ∧ (p'.alive = true → p.alive = true) := by
  unfold hand
  split
  · exact ⟨p, h, fun halive => halive⟩
  · split
    · exact deliver_page (w := w.note _) _ h
    · exact ⟨p, h, fun halive => halive⟩

theorem read_page {p : PageState} (h : w.pages[page]? = some p) :
    ∃ p', w.read.pages[page]? = some p' ∧ (p'.alive = true → p.alive = true) := by
  have hsame : ∀ w' : World, w'.pages = w.pages →
      ∃ p', w'.pages[page]? = some p' ∧ (p'.alive = true → p.alive = true) :=
    fun w' hpages => ⟨p, by rw [hpages, h], fun halive => halive⟩
  unfold read
  split
  · split
    · unfold take
      split
      · refine hsame _ ?_
        unfold answer
        split <;> rfl
      · exact hand_page _ h
      · exact hsame _ rfl
    · split <;> exact hsame _ rfl
  · exact hsame _ rfl
  · exact hsame _ rfl

theorem perform_page {p : PageState} {task : TaskId} {a : Act} {reply : a.Reply}
    (h : w.pages[page]? = some p) (hp : w.perform task a = some (reply, w')) :
    ∃ p', w'.pages[page]? = some p' ∧
      (p'.alive = true → p.alive = true ∨ a.adopted? = some page) := by
  have hkept : (∃ p', w'.pages[page]? = some p' ∧ (p'.alive = true → p.alive = true)) →
      ∃ p', w'.pages[page]? = some p' ∧
        (p'.alive = true → p.alive = true ∨ a.adopted? = some page) := by
    rintro ⟨p', hp', hback⟩
    exact ⟨p', hp', fun halive => .inl (hback halive)⟩
  cases performed_of_perform hp with
  | handOver page' => exact adopt_page h
  | setFrame | arm => exact hkept (modifyPage_page (fun _ halive => halive) h)
  | openPage session => exact ⟨p, openPage_page h, .inl⟩
  | startReading =>
    refine ⟨p, ?_, .inl⟩
    unfold startReading
    split <;> exact h
  | learn | note | allocate | park | unpark | disarm | save => exact ⟨p, h, .inl⟩

theorem step_page {p : PageState} (task : TaskId) (h : w.pages[page]? = some p) :
    ∃ p', (w.step task).pages[page]? = some p' ∧
      (p'.alive = true → p.alive = true ∨ w.adopted? (.step task) = some page) := by
  match htask : w.tasks[task]? with
  | some (.running (.done outcome)) =>
    obtain ⟨p', hp', hback⟩ := dropHoldings_page h (.task task)
    simp only [step, htask]
    exact ⟨p', hp', fun halive => .inl (hback halive)⟩
  | some (.running (.act a next)) =>
    cases hp : w.perform task a with
    | none =>
      simp only [step, htask, hp]
      exact ⟨p, h, .inl⟩
    | some result =>
      have hpage := perform_page h hp
      simp only [step, adopted?, deed?, htask, hp]
      exact hpage
  | some (.ended _) | some .aborted | none =>
    simp only [step, htask]
    exact ⟨p, h, .inl⟩

/-- A page that is there stays, and it is kept by somebody only if it was before, or if somebody
takes hold of it now. -/
theorem apply_page {p : PageState} (t : Transition) (h : w.pages[page]? = some p) :
    ∃ p', (w.apply t).pages[page]? = some p' ∧
      (p'.alive = true → p.alive = true ∨ w.adopted? t = some page) := by
  have hkept : ∀ {w' : World}, (∃ p', w'.pages[page]? = some p' ∧
      (p'.alive = true → p.alive = true)) → ∃ p', w'.pages[page]? = some p' ∧
        (p'.alive = true → p.alive = true ∨ w.adopted? t = some page) := by
    rintro w' ⟨p', hp', hback⟩
    exact ⟨p', hp', fun halive => .inl (hback halive)⟩
  cases t with
  | step task => exact step_page task h
  | sharePage page' task => exact adopt_page h
  | read => exact hkept (read_page h)
  | deliver page' event => exact hkept (deliver_page event h)
  | dropPage page' => exact hkept (modifyPage_page (fun _ => alive_of_dropHolder) h)
  | openPage => exact ⟨p, openPage_page h, .inl⟩
  | setFrame | arm | armMilestone | listen =>
    exact hkept (modifyPage_page (fun _ halive => halive) h)
  | abort task =>
    simp only [apply, abort]
    split
    · exact hkept (dropHoldings_page h _)
    · exact ⟨p, h, .inl⟩
  | release key =>
    simp only [apply, release]
    split <;> exact ⟨p, h, .inl⟩
  | inject message =>
    simp only [apply, inject]
    split <;> exact ⟨p, h, .inl⟩
  | receive =>
    simp only [apply, receive]
    split <;> exact ⟨p, h, .inl⟩
  | startReading =>
    simp only [apply, startReading]
    split <;> exact ⟨p, h, .inl⟩
  | stopReading =>
    simp only [apply, stopReading]
    split <;> exact ⟨p, h, .inl⟩
  | _ => exact ⟨p, h, .inl⟩

end World

end PagePilot
