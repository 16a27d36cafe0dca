import PagePilot.Proofs.Barrier.History
import PagePilot.Proofs.Barrier.Outcome
import PagePilot.Scenario.Run
/-!
# PagePilot.Proofs.Context.Lineage

Contexts make a forest: one is made on its own or derived from another (`Making`), and a
context with those above it is a lineage (`Run.Lineage`). Two things are inherited along it, in
different ways. A cancellation is handed down when it comes, and to what is derived later; a
deadline is copied when a context is derived, as the earlier of the parent's and the own one.

`Run.context_ends` says that both agree with the lineage, however the making of contexts,
cancellations and the clock are interleaved: a context is cancelled when one of its lineage was,
and past its deadline when the earliest of its lineage is. It is an induction on the lineage:

* scopes keep their parents (`Scopes.Extends`), so what a scope derives from is its lineage
  (`Run.Lineage.descends_iff`), and cancellations are known by `Run.isCancelled_context`;
* the deadline of a context is the least in its lineage (`Run.Lineage.deadline`).
-/

namespace PagePilot

/-! ### Scopes keep their parents -/

/-- Scopes that have come about from others: those that were there have the same parents. -/
structure Scopes.Extends (s s' : Scopes) : Prop where
  next : s.next ≤ s'.next
  parent : ∀ x < s.next, s'.parentOf? x = s.parentOf? x

namespace Scopes.Extends

variable {s s' s'' : Scopes}

theorem refl (s : Scopes) : s.Extends s :=
  ⟨Nat.le_refl _, fun _ _ => rfl⟩

theorem trans (h : s.Extends s') (h' : s'.Extends s'') : s.Extends s'' :=
  ⟨Nat.le_trans h.next h'.next,
    fun x hx => (h'.parent x (Nat.lt_of_lt_of_le hx h.next)).trans (h.parent x hx)⟩

theorem addRoot (s : Scopes) : s.Extends s.addRoot :=
  ⟨Nat.le_of_lt (Nat.lt_of_lt_of_eq (Nat.lt_succ_self _) (Board.next_addRoot s).symm),
    fun _ _ => parentOf?_addRoot⟩

theorem addChild (s : Scopes) (p : ScopeId) : s.Extends (s.addChild p) :=
  ⟨Nat.le_of_lt (Nat.lt_of_lt_of_eq (Nat.lt_succ_self _) (Board.next_addChild s p).symm),
    fun _ hx => parentOf?_addChild (Nat.ne_of_lt hx)⟩

theorem cancel (s : Scopes) (id : ScopeId) : s.Extends (s.cancel id) :=
  ⟨Nat.le_of_eq next_cancel.symm, fun _ _ => parentOf?_cancel⟩

theorem of_frees {b b' : Board} {freed : BarrierKey → Prop} (h : b.Frees b' freed) :
    b.scopes.Extends b'.scopes :=
  ⟨Nat.le_of_eq h.next.symm, fun x _ => h.parent x⟩

end Scopes.Extends

namespace World

variable {w : World}

theorem BoardStep.extends {armed : BarrierKey → Arming → Prop} {w₀ w₁ : World} {t : Transition}
    (hstep : w.BoardStep t w₀ w₁) (hw : w₀.board.Tidy) (hr : w₀.board.Registered armed) :
    w₀.scopes.Extends w₁.scopes := by
  cases hstep with
  | rest | openPage | listen => exact .refl _
  | newScope parent =>
    cases parent with
    | none => exact .addRoot _
    | some p => exact .addChild _ p
  | cancel scope => exact .cancel _ scope
  | arm holder => exact .addChild _ _
  | give key => exact .of_frees (modifyBarrier_frees hw key fun _ => ⟨rfl, rfl⟩)
  | release key => exact .of_frees (release_frees hw key)
  | loosen hl => exact .of_frees (regrip_frees hw _ hl.place)
  | retire => exact .of_frees (dropHoldings_frees hw _)
  | deliver => exact .of_frees (deliver_matches hw _ _ fun l hl => hr.place hl).1.toFrees

end World

namespace Run

variable {r : Run} {k m n : Nat}

theorem extends_succ (hr : r.Admissible) (k : Nat) :
    (r.world k).scopes.Extends (r.world (k + 1)).scopes := by
  cases ht : r.transitions[k]? with
  | none => exact world_succ_of_none ht ▸ .refl _
  | some t =>
    have hsound := sound hr k
    obtain ⟨w₀, w₁, h₀, hstep, h₁⟩ := (World.apply_board (r.world k) t).step
    have hgrowth := hstep.extends (h₀ ▸ hsound.tidy) (h₀ ▸ hsound.registered)
    have hscopes₀ : w₀.scopes = (r.world k).scopes := congrArg Board.scopes h₀
    have hscopes₁ : ((r.world k).apply t).scopes = w₁.scopes := congrArg Board.scopes h₁
    rw [world_succ ht, hscopes₁, ← hscopes₀]
    exact hgrowth

/-- Whatever happens, scopes keep their parents. -/
theorem extends_of_le (hr : r.Admissible) (hmn : m ≤ n) :
    (r.world m).scopes.Extends (r.world n).scopes := by
  induction hmn with
  | refl => exact .refl _
  | @step n _ ih => exact ih.trans (extends_succ hr n)

theorem now_mono (hmn : m ≤ n) : (r.world m).now ≤ (r.world n).now :=
  induction (P := fun w => (r.world m).now ≤ w.now) hmn (Nat.le_refl _)
    fun k t _ _ h => Nat.le_trans h (World.now_le_apply (r.world k) t)

/-- Nobody is told of a time that has not come. -/
theorem served_le_now (hr : r.Admissible) (k : Nat) : (r.world k).served ≤ (r.world k).now := by
  rw [← staggered_world]
  exact Staggered.served_le_now hr.staggered k

/-- A context that has ended stays so. -/
theorem ended_mono (hr : r.Admissible) {ctx : Context} (hmn : m ≤ n)
    (h : ((r.world m).endOf ctx).isSome) : ((r.world n).endOf ctx).isSome := by
  refine Option.isSome_iff_ne_none.mpr fun hnone => ?_
  refine absurd (Context.errorAt_none_of_le (isCancelled_mono hr hmn) (now_mono hmn) hnone) ?_
  exact Option.isSome_iff_ne_none.mp h

end Run

/-! ### Making contexts -/

/-- The ways to make a context. -/
inductive Making
  | new
  | withDeadline (deadline : Nat)
  | withTimeout (timeout : Nat)
  | child (parent : Context)
  | childWithTimeout (parent : Context) (timeout : Nat)

namespace Making

/-- The context that it derives from. -/
def parent? : Making → Option Context
  | .child parent | .childWithTimeout parent _ => some parent
  | .new | .withDeadline _ | .withTimeout _ => none

/-- The deadline that the context sets itself if it is made at a time. -/
def own? (now : Nat) : Making → Option Nat
  | .withDeadline deadline => some deadline
  | .withTimeout timeout | .childWithTimeout _ timeout => some (now + timeout)
  | .new | .child _ => none

/-- The deadline that the context gets. -/
def deadline (now : Nat) : Making → Option Nat
  | .new => Context.derivedDeadline none now none
  | .withDeadline deadline => some deadline
  | .withTimeout timeout => Context.derivedDeadline none now (some timeout)
  | .child parent => Context.derivedDeadline parent.deadline now none
  | .childWithTimeout parent timeout => Context.derivedDeadline parent.deadline now (some timeout)

/-- The making with a parent and a timeout, if there are such. -/
def within : Option Context → Option Nat → Making
  | none, none => .new
  | none, some timeout => .withTimeout timeout
  | some parent, none => .child parent
  | some parent, some timeout => .childWithTimeout parent timeout

end Making

/-- The context that comes of a making. -/
def World.made (w : World) (making : Making) : Context where
  scope := w.scopes.next
  deadline := making.deadline w.now

/-- What a scenario calls a context is one that was made with its parent and its timeout. -/
theorem Scenario.State.addContext_eq (s : Scenario.State) (name : String)
    (parent : Option Context) (limit : Option Nat) :
    (s.addContext name parent limit).2 =
      let making := Making.within parent limit
      { s.apply (.newScope (making.parent?.map (·.scope))) with
        contexts := Names.bind s.contexts name (s.world.made making) } := by
  cases parent <;> cases limit <;> rfl

/-! ### Lineages -/

/-- A context of a lineage, with the deadline that it set itself. -/
structure Forebear where
  context : Context
  own : Option Nat

/-- What a making adds to a lineage. -/
def World.forebear (w : World) (making : Making) : Forebear where
  context := w.made making
  own := making.own? w.now

/-- The earliest deadline that was set in a lineage. -/
def earliestOf (lineage : List Forebear) : Option Nat :=
  (lineage.filterMap Forebear.own).min?

namespace Run

variable (r : Run)

/-- A context that is made at a position, followed by those above it. -/
inductive Lineage : Nat → List Forebear → Prop
  | root {m : Nat} {making : Making} (hparent : making.parent? = none)
      (ht : r.transitions[m]? = some (.newScope none)) :
      Lineage m [(r.world m).forebear making]
  | derived {m n : Nat} {making : Making} {p : Forebear} {above : List Forebear}
      (hparent : making.parent? = some p.context) (habove : Lineage n (p :: above)) (hnm : n < m)
      (ht : r.transitions[m]? = some (.newScope (some p.context.scope))) :
      Lineage m ((r.world m).forebear making :: p :: above)

/-- One of the contexts was cancelled before a position. -/
def CancelledIn (k : Nat) (lineage : List Forebear) : Prop :=
  ∃ a ∈ lineage, ∃ c < k, r.transitions[c]? = some (.cancel a.context.scope)

/-- How a context `c` ends that was made at `m` below the contexts `above`. -/
structure ContextEnds (m : Nat) (c : Forebear) (above : List Forebear) : Prop where
  /-- It is cancelled when it was, or one above it, be that before or after it was made. -/
  cancelled : ∀ k, m < k →
    ((r.world k).endOf c.context = some .cancelled ↔ r.CancelledIn k (c :: above))
  /-- Else it has ended when the earliest deadline of its lineage is not after the present. -/
  exceeded : ∀ k, m < k → ((r.world k).endOf c.context = some .deadlineExceeded ↔
    ¬ r.CancelledIn k (c :: above) ∧ ∃ d, earliestOf (c :: above) = some d ∧ d ≤ (r.world k).now)
  /-- And it has not ended for any other reason. -/
  alive : ∀ k, m < k → ((r.world k).endOf c.context = none ↔
    ¬ r.CancelledIn k (c :: above) ∧
      ∀ d, earliestOf (c :: above) = some d → (r.world k).now < d)
  /-- It has ended when one above it has. -/
  inherits : ∀ k, m < k → ∀ a ∈ above, ((r.world k).endOf a.context).isSome →
    ((r.world k).endOf c.context).isSome
  /-- To cancel what derives from it does nothing to it. -/
  child : ∀ k n d, m < k → r.Lineage n (d :: c :: above) →
    r.transitions[k]? = some (.cancel d.context.scope) →
    (r.world (k + 1)).endOf c.context = (r.world k).endOf c.context
  /-- Nor does it to cancel another one that derives from its parent. -/
  sibling : ∀ k n d p rest, m < k → above = p :: rest → r.Lineage n (d :: p :: rest) → n ≠ m →
    r.transitions[k]? = some (.cancel d.context.scope) →
    (r.world (k + 1)).endOf c.context = (r.world k).endOf c.context
  /-- Once it has ended it stays so. -/
  persists : ∀ k l, m < k → k ≤ l → ((r.world k).endOf c.context).isSome →
    ((r.world l).endOf c.context).isSome
  /-- Who waits for its end learns what a look at it would tell then. -/
  done : ∀ k task e, m < k → r.Does k task (.awaitEnd c.context) e →
    (r.world k).endOf c.context = some e
  /-- The wait is over at a cancellation, and else when those who wait have been told of a time
  at or after the earliest deadline. -/
  resolves : ∀ k task, m < k → (((r.world k).perform task (.awaitEnd c.context)).isSome ↔
    r.CancelledIn k (c :: above) ∨
      ∃ d, earliestOf (c :: above) = some d ∧ d ≤ (r.world k).served)

end Run

variable {r : Run} {k m n : Nat} {c : Forebear} {above : List Forebear}

theorem passed_earliestOf {lineage : List Forebear} {time : Nat} :
    (∃ d, earliestOf lineage = some d ∧ d ≤ time) ↔
      ∃ a ∈ lineage, ∃ d, a.own = some d ∧ d ≤ time := by
  unfold earliestOf
  constructor
  · rintro ⟨d, hmin, hd⟩
    obtain ⟨a, ha, hown⟩ := List.mem_filterMap.mp (List.min?_mem hmin)
    exact ⟨a, ha, d, hown, hd⟩
  · rintro ⟨a, ha, d, hown, hd⟩
    have hmem : d ∈ lineage.filterMap Forebear.own := List.mem_filterMap.mpr ⟨a, ha, hown⟩
    obtain ⟨least, hleast⟩ := Option.isSome_iff_exists.mp (List.isSome_min?_of_mem hmem)
    exact ⟨least, hleast, Nat.le_trans ((List.min?_eq_some_iff.mp hleast).2 d hmem) hd⟩

namespace Run

namespace Lineage

/-- The scope of a context is the next one where it is made. -/
theorem scope_eq (h : r.Lineage m (c :: above)) : c.context.scope = (r.world m).scopes.next := by
  cases h <;> rfl

/-- From its making on a context has its place: a scope below that of its parent. -/
theorem place_succ (hr : r.Admissible) (h : r.Lineage m (c :: above)) :
    (r.world (m + 1)).board.IsContext c.context.scope ∧
      (r.world (m + 1)).scopes.parentOf? c.context.scope = (above.head?.map (·.context.scope)) := by
  have hunused : ∀ key ctx, (r.world m).board.place? key ≠ some ((r.world m).scopes.next, ctx) :=
    fun key ctx hplace => Nat.lt_irrefl _ ((sound hr m).tidy.lt_next hplace)
  rw [h.scope_eq]
  cases h with
  | root hparent ht =>
    rw [world_succ ht]
    refine ⟨⟨?_, hunused⟩, ?_⟩
    · exact Nat.lt_of_lt_of_eq (Nat.lt_succ_self _) (Board.next_addRoot _).symm
    · exact Scopes.parentOf?_addRoot.trans (Scopes.parentOf?_eq_none (Nat.le_refl _))
  | derived hparent habove hnm ht =>
    rw [world_succ ht]
    refine ⟨⟨?_, hunused⟩, Scopes.parentOf?_addChild_next⟩
    exact Nat.lt_of_lt_of_eq (Nat.lt_succ_self _) (Board.next_addChild _ _).symm

theorem isContext (hr : r.Admissible) (h : r.Lineage m (c :: above)) (hmk : m < k) :
    (r.world k).board.IsContext c.context.scope :=
  isContext_mono hr hmk (h.place_succ hr).1

theorem parentOf? (hr : r.Admissible) (h : r.Lineage m (c :: above)) (hmk : m < k) :
    (r.world k).scopes.parentOf? c.context.scope = (above.head?.map (·.context.scope)) := by
  obtain ⟨hcontext, hparent⟩ := h.place_succ hr
  exact ((extends_of_le hr hmk).parent _ hcontext.1).trans hparent

/-- What a context derives from is its lineage. -/
theorem descends_iff (hr : r.Admissible) {lineage : List Forebear} (h : r.Lineage m lineage)
    {c : Forebear} {above : List Forebear} (hlineage : lineage = c :: above) (hmk : m < k)
    {a : ScopeId} : (r.world k).scopes.Descends a c.context.scope ↔
      ∃ b ∈ lineage, b.context.scope = a := by
  induction h generalizing c above with
  | root hparent ht =>
    have hplace := (Lineage.root hparent ht).parentOf? hr hmk
    cases hlineage
    constructor
    · intro hdescends
      cases hdescends with
      | self => exact ⟨_, List.mem_cons_self, rfl⟩
      | child hx => exact absurd (hplace.symm.trans hx) nofun
    · rintro ⟨b, hb, rfl⟩
      rw [List.mem_singleton.mp hb]
      exact .self
  | derived hparent habove hnm ht ih =>
    have hplace := (Lineage.derived hparent habove hnm ht).parentOf? hr hmk
    have hup := ih rfl (Nat.lt_trans hnm hmk)
    cases hlineage
    constructor
    · intro hdescends
      cases hdescends with
      | self => exact ⟨_, List.mem_cons_self, rfl⟩
      | child hx hp =>
        cases hplace.symm.trans hx
        obtain ⟨b, hb, rfl⟩ := hup.mp hp
        exact ⟨b, List.mem_cons_of_mem _ hb, rfl⟩
    · rintro ⟨b, hb, rfl⟩
      rcases List.mem_cons.mp hb with rfl | hb
      · exact .self
      · exact .child hplace (hup.mpr ⟨b, hb, rfl⟩)

/-- Those above a context have lineages of their own, which are parts of its own. -/
theorem of_mem {lineage : List Forebear} (h : r.Lineage m lineage) {a : Forebear}
    (ha : a ∈ lineage) : ∃ n rest, n ≤ m ∧ r.Lineage n (a :: rest) ∧ (a :: rest) ⊆ lineage := by
  induction h with
  | @root m making hparent ht =>
    obtain rfl := List.mem_singleton.mp ha
    exact ⟨m, [], Nat.le_refl m, .root hparent ht, List.Subset.refl _⟩
  | @derived m n making p above hparent habove hnm ht ih =>
    rcases List.mem_cons.mp ha with rfl | ha
    · exact ⟨m, p :: above, Nat.le_refl m, .derived hparent habove hnm ht, List.Subset.refl _⟩
    · obtain ⟨l, rest, hln, hl, hsub⟩ := ih ha
      exact ⟨l, rest, Nat.le_trans hln (Nat.le_of_lt hnm), hl, List.subset_cons_of_subset _ hsub⟩

/-- The deadline of a context is the earliest that was set in its lineage. -/
theorem deadline {lineage : List Forebear} (h : r.Lineage m lineage) {c : Forebear}
    {above : List Forebear} (hlineage : lineage = c :: above) :
    c.context.deadline = earliestOf lineage := by
  induction h generalizing c above with
  | @root m making hparent ht =>
    cases hlineage
    cases making with
    | new | withDeadline | withTimeout => rfl
    | child | childWithTimeout => cases hparent
  | @derived m n making p above' hparent habove hnm ht ih =>
    have hp : p.context.deadline = earliestOf (p :: above') := ih rfl
    cases hlineage
    cases making with
    | new | withDeadline | withTimeout => cases hparent
    | child parent =>
      cases hparent
      exact hp
    | childWithTimeout parent timeout =>
      cases hparent
      -- The earlier of the own deadline and what was the earliest above.
      show some (Context.earliest p.context.deadline ((r.world m).now + timeout)) =
        (((r.world m).now + timeout) :: (p :: above').filterMap Forebear.own).min?
      rw [hp, List.min?_cons, earliestOf]
      cases ((p :: above').filterMap Forebear.own).min? with
      | none => rfl
      | some d => exact congrArg some (Nat.min_comm d _)

/-- A context was cancelled when one of its lineage was. -/
theorem isCancelled_iff (hr : r.Admissible) (h : r.Lineage m (c :: above)) (hmk : m < k) :
    (r.world k).scopes.isCancelled c.context.scope = true ↔ r.CancelledIn k (c :: above) := by
  rw [isCancelled_context hr (h.isContext hr hmk)]
  simp only [Cancelled, h.descends_iff hr rfl hmk]
  constructor
  · rintro ⟨n, hn, _, hcancel, a, ha, rfl⟩
    exact ⟨a, ha, n, hn, hcancel⟩
  · rintro ⟨a, ha, n, hn, hcancel⟩
    exact ⟨n, hn, _, hcancel, a, ha, rfl⟩

/-- Why a context has ended at a time, in terms of its lineage. -/
theorem errorAt_eq_some (hr : r.Admissible) (h : r.Lineage m (c :: above)) (hmk : m < k)
    {time : Nat} {e : Error} : c.context.errorAt (r.world k).scopes time = some e ↔
      (r.CancelledIn k (c :: above) ∧ e = .cancelled) ∨
        (¬ r.CancelledIn k (c :: above) ∧ (∃ d, earliestOf (c :: above) = some d ∧ d ≤ time) ∧
          e = .deadlineExceeded) := by
  rw [Context.errorAt_eq_some, h.isCancelled_iff hr hmk, h.deadline rfl]

theorem isSome_errorAt (hr : r.Admissible) (h : r.Lineage m (c :: above)) (hmk : m < k)
    {time : Nat} : (c.context.errorAt (r.world k).scopes time).isSome ↔
      r.CancelledIn k (c :: above) ∨ ∃ d, earliestOf (c :: above) = some d ∧ d ≤ time := by
  simp only [Option.isSome_iff_exists, h.errorAt_eq_some hr hmk]
  grind

/-- A cancellation outside its lineage does nothing to a context. -/
theorem endOf_of_apart (hr : r.Admissible) (h : r.Lineage m (c :: above)) (hmk : m < k)
    {a : ScopeId} (ht : r.transitions[k]? = some (.cancel a))
    (hapart : ∀ b ∈ c :: above, b.context.scope ≠ a) :
    (r.world (k + 1)).endOf c.context = (r.world k).endOf c.context := by
  have hsame : r.CancelledIn (k + 1) (c :: above) ↔ r.CancelledIn k (c :: above) := by
    refine exists_congr fun b => and_congr_right fun hb => ?_
    rw [Nat.exists_lt_succ_right, or_iff_left]
    intro hcancel
    cases ht.symm.trans hcancel
    exact hapart b hb rfl
  have hnow : (r.world (k + 1)).now = (r.world k).now := by
    rw [world_succ ht]
    rfl
  refine Option.ext fun e => ?_
  show c.context.errorAt _ _ = some e ↔ c.context.errorAt _ _ = some e
  rw [h.errorAt_eq_some hr (Nat.lt_succ_of_lt hmk), h.errorAt_eq_some hr hmk, hsame, hnow]

/-- Contexts that are made later have later scopes. -/
theorem scope_lt (hr : r.Admissible) (h : r.Lineage m (c :: above)) {d : Forebear}
    {above' : List Forebear} (h' : r.Lineage n (d :: above')) (hmn : m < n) :
    c.context.scope < d.context.scope := by
  rw [h'.scope_eq]
  exact (h.isContext hr hmn).1

/-- The contexts above one are older, and so are their scopes. -/
theorem scope_lt_of_above (hr : r.Admissible) (h : r.Lineage m (c :: above)) {b : Forebear}
    (hb : b ∈ above) : b.context.scope < c.context.scope := by
  cases h with
  | root => cases hb
  | derived hparent habove hnm ht =>
    obtain ⟨l, rest, hln, hl, -⟩ := habove.of_mem hb
    exact hl.scope_lt hr (.derived hparent habove hnm ht) (Nat.lt_of_le_of_lt hln hnm)

end Lineage

/-- Contexts end as their lineages say, for every forest of contexts and every order of making
them, cancelling them and letting time pass. -/
theorem context_ends (hr : r.Admissible) (h : r.Lineage m (c :: above)) :
    r.ContextEnds m c above where
  cancelled k hmk := (h.errorAt_eq_some hr hmk).trans (by simp)
  exceeded k hmk := (h.errorAt_eq_some hr hmk).trans (by simp)
  alive k hmk := by
    have hsome : ((r.world k).endOf c.context).isSome ↔ _ := h.isSome_errorAt hr hmk
    rw [← Option.not_isSome_iff_eq_none]
    refine (not_congr hsome).trans ?_
    simp only [not_or, not_exists, not_and, Nat.not_le]
  inherits k hmk a ha hended := by
    obtain ⟨n, rest, hnm, hn, hsub⟩ := h.of_mem (List.mem_cons_of_mem _ ha)
    refine (h.isSome_errorAt hr hmk).mpr ?_
    rcases (hn.isSome_errorAt hr (Nat.lt_of_le_of_lt hnm hmk)).mp hended with hcancel | hpassed
    · obtain ⟨b, hb, hcancel⟩ := hcancel
      exact .inl ⟨b, hsub hb, hcancel⟩
    · obtain ⟨b, hb, hpassed⟩ := passed_earliestOf.mp hpassed
      exact .inr (passed_earliestOf.mpr ⟨b, hsub hb, hpassed⟩)
  child k n d hmk hd ht :=
    h.endOf_of_apart hr hmk ht fun b hb => Nat.ne_of_lt (hd.scope_lt_of_above hr hb)
  sibling k n d p rest hmk heq hd hnm ht := by
    subst heq
    refine h.endOf_of_apart hr hmk ht fun b hb => ?_
    rcases List.mem_cons.mp hb with rfl | hb
    · rcases Nat.lt_or_gt_of_ne hnm with hlt | hlt
      · exact Nat.ne_of_gt (hd.scope_lt hr h hlt)
      · exact Nat.ne_of_lt (h.scope_lt hr hd hlt)
    · exact Nat.ne_of_lt (hd.scope_lt_of_above hr hb)
  persists _ _ _ hkl := ended_mono hr hkl
  done k task e hmk hdoes := by
    have htold := hdoes.learns (f := fun w => w.toldEndOf c.context) rfl
    have hserved := served_le_now hr k
    refine (h.errorAt_eq_some hr hmk).mpr ?_
    rcases (h.errorAt_eq_some hr hmk).mp htold with hcancel | ⟨hlive, ⟨d, hd, hpassed⟩, he⟩
    · exact .inl hcancel
    · exact .inr ⟨hlive, ⟨d, hd, Nat.le_trans hpassed hserved⟩, he⟩
  resolves k task hmk := by
    show (((r.world k).toldEndOf c.context).map (·, r.world k)).isSome ↔ _
    rw [Option.isSome_map]
    exact h.isSome_errorAt hr hmk

/-- A context with a timeout, a child that is cancelled, and a grandchild with a timeout of its
own that is made after that. -/
def family : Run where
  start := .initial [] .none
  transitions := [.newScope none, .tick 10, .newScope (some 0), .cancel 1, .newScope (some 1)]

theorem family_admissible : family.Admissible :=
  admissible_of_admits ⟨trivial, trivial, ⟨by decide, nofun⟩, ⟨by decide, nofun⟩,
    ⟨by decide, nofun⟩, trivial⟩

theorem context_ends_family : family.Admissible ∧
    family.Lineage 4 [⟨⟨2, some 50⟩, some 110⟩, ⟨⟨1, some 50⟩, none⟩, ⟨⟨0, some 50⟩, some 50⟩] ∧
      (family.world 5).endOf ⟨2, some 50⟩ = some .cancelled := by
  have hparent := @Lineage.root family 0 (.withTimeout 50) rfl rfl
  have hchild := @Lineage.derived family 2 0 (.child ⟨0, some 50⟩) _ _ rfl hparent (by decide) rfl
  have hgrandchild := @Lineage.derived family 4 2 (.childWithTimeout ⟨1, some 50⟩ 100) _ _ rfl
    hchild (by decide) rfl
  refine ⟨family_admissible, hgrandchild, ?_⟩
  have hends := context_ends family_admissible hgrandchild
  exact (hends.cancelled 5 (by decide)).mpr
    ⟨_, List.mem_cons_of_mem _ List.mem_cons_self, 3, by decide, rfl⟩

end Run

end PagePilot
