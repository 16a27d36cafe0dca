import PagePilot.Scope
/-!
# PagePilot.Proofs.Scope

What a cancellation reaches. Parents come before their children, so one pass over the
scopes reaches all descendants of a scope (`isCancelled_cancel`), and nothing else is
touched. From that follow the two cases that barriers rest on: cancelling a scope without
children concerns this scope only (`isCancelled_cancel_leaf`), and cancelling a scope
once more changes nothing (`cancel_of_isCancelled`).
-/

namespace PagePilot

namespace Scopes

variable {s : Scopes} {id x p : ScopeId}

/-! ### Parents -/

/-- The parent of a scope, if it has one. -/
def parentOf? (s : Scopes) (x : ScopeId) : Option ScopeId :=
  s.nodes[x]?.bind (·.parent)

/-- Scopes as they come about: parents come before their children, and what derives from a
cancelled scope is cancelled. -/
structure Grown (s : Scopes) : Prop where
  ordered : ∀ x p, s.parentOf? x = some p → p < x
  closed : ∀ x p, s.parentOf? x = some p → s.isCancelled p = true → s.isCancelled x = true

/-- `s.Descends a x`: the scope `x` is `a` itself or derives from it. -/
inductive Descends (s : Scopes) (a : ScopeId) : ScopeId → Prop
  | self : Descends s a a
  | child {x p : ScopeId} (hx : s.parentOf? x = some p) (hp : Descends s a p) : Descends s a x

theorem lt_next_of_parentOf? (h : s.parentOf? x = some p) : x < s.next := by
  obtain ⟨node, hnode, -⟩ := Option.bind_eq_some_iff.mp h
  exact (List.getElem?_eq_some_iff.mp hnode).1

theorem lt_next_of_isCancelled (h : s.isCancelled x = true) : x < s.next := by
  unfold isCancelled cancelledIn at h
  split at h
  next node hnode => exact (List.getElem?_eq_some_iff.mp hnode).1
  next => cases h

theorem Descends.isCancelled (hs : s.Grown) (h : s.Descends id x)
    (hid : s.isCancelled id = true) : s.isCancelled x = true := by
  induction h with
  | self => exact hid
  | child hx _ ih => exact hs.closed _ _ hx ih

/-! ### New scopes -/

theorem cancelledIn_append {nodes more : List ScopeNode} (h : x < nodes.length) :
    cancelledIn (nodes ++ more) x = cancelledIn nodes x := by
  simp [cancelledIn, List.getElem?_append_left h]

theorem isCancelled_addRoot : s.addRoot.isCancelled x = s.isCancelled x := by
  rcases Nat.lt_or_ge x s.nodes.length with h | h
  · exact cancelledIn_append h
  · simp only [isCancelled, cancelledIn, addRoot, List.getElem?_eq_none h]
    rcases Nat.eq_or_lt_of_le h with rfl | h
    · simp
    · simp [List.getElem?_eq_none (l := s.nodes ++ [_]) (i := x) (by simp; omega)]

theorem isCancelled_addChild (h : x < s.next) :
    (s.addChild p).isCancelled x = s.isCancelled x :=
  cancelledIn_append h

/-- A new scope is cancelled if its parent is. -/
theorem isCancelled_addChild_next : (s.addChild p).isCancelled s.next = s.isCancelled p := by
  simp [isCancelled, cancelledIn, addChild, next]

theorem parentOf?_append {node : ScopeNode} (h : x ≠ s.next) :
    (Scopes.mk (s.nodes ++ [node])).parentOf? x = s.parentOf? x := by
  unfold parentOf?
  rcases Nat.lt_or_ge x s.nodes.length with hlt | hge
  · simp [List.getElem?_append_left hlt]
  · have hgt : s.nodes.length < x := Nat.lt_of_le_of_ne hge (Ne.symm h)
    rw [List.getElem?_eq_none hge, List.getElem?_eq_none (by simp; omega)]

theorem parentOf?_next {node : ScopeNode} :
    (Scopes.mk (s.nodes ++ [node])).parentOf? s.next = node.parent := by
  simp [parentOf?, next]

theorem parentOf?_eq_none (h : s.next ≤ x) : s.parentOf? x = none := by
  simp [parentOf?, List.getElem?_eq_none h]

theorem parentOf?_addRoot : s.addRoot.parentOf? x = s.parentOf? x := by
  by_cases h : x = s.next
  · subst h
    exact parentOf?_next.trans (parentOf?_eq_none (Nat.le_refl _)).symm
  · exact parentOf?_append h

theorem parentOf?_addChild (h : x ≠ s.next) : (s.addChild p).parentOf? x = s.parentOf? x :=
  parentOf?_append h

theorem parentOf?_addChild_next : (s.addChild p).parentOf? s.next = some p :=
  parentOf?_next

theorem Grown.empty : Grown .empty :=
  ⟨nofun, nofun⟩

theorem Grown.addRoot (hs : s.Grown) : s.addRoot.Grown := by
  constructor
  · intro x p hx
    rw [parentOf?_addRoot] at hx
    exact hs.ordered x p hx
  · intro x p hx hp
    rw [parentOf?_addRoot] at hx
    rw [isCancelled_addRoot] at hp ⊢
    exact hs.closed x p hx hp

theorem Grown.addChild (hs : s.Grown) (hid : id < s.next) : (s.addChild id).Grown := by
  constructor
  · intro x p hx
    by_cases h : x = s.next
    · subst h
      cases parentOf?_addChild_next.symm.trans hx
      exact hid
    · rw [parentOf?_addChild h] at hx
      exact hs.ordered x p hx
  · intro x p hx hp
    by_cases h : x = s.next
    · subst h
      cases parentOf?_addChild_next.symm.trans hx
      rwa [isCancelled_addChild_next, ← isCancelled_addChild hid]
    · rw [parentOf?_addChild h] at hx
      have hlt := lt_next_of_parentOf? hx
      rw [isCancelled_addChild (Nat.lt_trans (hs.ordered x p hx) hlt)] at hp
      rw [isCancelled_addChild hlt]
      exact hs.closed x p hx hp

/-! ### Cancelling -/

theorem spread_eq (id : ScopeId) (done rest : List ScopeNode) :
    ∃ tail, spread id done rest = done ++ tail ∧ tail.length = rest.length ∧
      ∀ x : Nat, tail[x]? = rest[x]?.map fun node =>
        ScopeNode.mk node.parent (reached id (done ++ tail.take x) node) := by
  induction rest generalizing done with
  | nil => exact ⟨[], by simp [spread], rfl, fun x => rfl⟩
  | cons node rest ih =>
    let treated : ScopeNode := { node with cancelled := reached id done node }
    obtain ⟨tail, htail, hlength, hget⟩ := ih (done ++ [treated])
    refine ⟨treated :: tail, ?_, ?_, ?_⟩
    · simp [spread, treated, htail]
    · simp [hlength]
    · intro x
      cases x with
      | zero => simp [treated]
      | succ x => simp [hget]

theorem nodes_cancel :
    (s.cancel id).nodes[x]? = s.nodes[x]?.map fun node =>
      ScopeNode.mk node.parent (reached id ((s.cancel id).nodes.take x) node) := by
  obtain ⟨tail, htail, -, hget⟩ := spread_eq id [] s.nodes
  have hnodes : (s.cancel id).nodes = tail := htail
  rw [hnodes, hget]
  rfl

theorem next_cancel : (s.cancel id).next = s.next := by
  obtain ⟨tail, htail, hlength, -⟩ := spread_eq id [] s.nodes
  exact (congrArg List.length htail).trans hlength

theorem parentOf?_cancel : (s.cancel id).parentOf? x = s.parentOf? x := by
  unfold parentOf?
  rw [nodes_cancel]
  cases s.nodes[x]? <;> rfl

/-- A cancelled scope was cancelled before, or is the one, or has a cancelled parent. -/
theorem isCancelled_cancel_iff (hs : s.Grown) :
    (s.cancel id).isCancelled x = true ↔
      s.isCancelled x = true ∨ (x = id ∧ x < s.next) ∨
        ∃ p, s.parentOf? x = some p ∧ (s.cancel id).isCancelled p = true := by
  have hparent := fun p => hs.ordered x p
  unfold isCancelled cancelledIn parentOf? next at *
  rw [nodes_cancel]
  cases hnode : s.nodes[x]? with
  | none =>
    have hout : ¬ x < s.nodes.length := Nat.not_lt.mpr (List.getElem?_eq_none_iff.mp hnode)
    simp [hout]
  | some node =>
    have hlt := (List.getElem?_eq_some_iff.mp hnode).1
    have hlength : (s.cancel id).nodes.length = s.nodes.length := next_cancel
    have hmin : min x s.nodes.length = x := Nat.min_eq_left (Nat.le_of_lt hlt)
    simp only [hnode, Option.bind_some] at hparent
    simp only [Option.map_some, Option.bind_some, reached, List.length_take, hlength, hmin, hlt,
      and_true, Bool.or_eq_true, decide_eq_true_eq, or_assoc]
    refine or_congr_right (or_congr_right ?_)
    -- The parent comes before, so it has been treated when the pass comes to `x`.
    cases hp : node.parent with
    | none => simp
    | some p =>
      simp [cancelledIn, hparent p hp]

theorem Grown.cancel (hs : s.Grown) : (s.cancel id).Grown := by
  constructor
  · intro x p hx
    rw [parentOf?_cancel] at hx
    exact hs.ordered x p hx
  · intro x p hx hp
    rw [parentOf?_cancel] at hx
    exact (isCancelled_cancel_iff hs).mpr (.inr (.inr ⟨p, hx, hp⟩))

/-- A cancellation reaches a scope and what derives from it, and nothing else. -/
theorem isCancelled_cancel (hs : s.Grown) (hid : id < s.next) :
    (s.cancel id).isCancelled x = true ↔ s.isCancelled x = true ∨ s.Descends id x := by
  constructor
  · intro h
    -- Upwards from `x` to the parents, until one is met that was cancelled before or is `id`.
    induction x using Nat.strongRecOn with
    | ind x ih =>
      rcases (isCancelled_cancel_iff hs).mp h with h | ⟨rfl, -⟩ | ⟨p, hp, h⟩
      · exact .inl h
      · exact .inr .self
      · rcases ih p (hs.ordered x p hp) h with h | h
        · exact .inl (hs.closed x p hp h)
        · exact .inr (.child hp h)
  · intro hreached
    rcases hreached with h | h
    · exact (isCancelled_cancel_iff hs).mpr (.inl h)
    · induction h with
      | self => exact (isCancelled_cancel_iff hs).mpr (.inr (.inl ⟨rfl, hid⟩))
      | child hx _ ih => exact (isCancelled_cancel_iff hs).mpr (.inr (.inr ⟨_, hx, ih⟩))

theorem eq_of_descends_leaf (hleaf : ∀ y, s.parentOf? y ≠ some id) (h : s.Descends id x) :
    x = id := by
  induction h with
  | self => rfl
  | child hx _ ih => exact absurd (ih ▸ hx) (hleaf _)

/-- Cancelling a scope without children concerns this scope only. -/
theorem isCancelled_cancel_leaf (hs : s.Grown) (hid : id < s.next)
    (hleaf : ∀ y, s.parentOf? y ≠ some id) :
    (s.cancel id).isCancelled x = true ↔ s.isCancelled x = true ∨ x = id := by
  rw [isCancelled_cancel hs hid]
  refine or_congr_right ⟨eq_of_descends_leaf hleaf, ?_⟩
  rintro rfl
  exact .self

/-- Cancelling a scope that is cancelled changes nothing. -/
theorem cancel_of_isCancelled (hs : s.Grown) (hid : s.isCancelled id = true) :
    s.cancel id = s := by
  have hiff : ∀ x, (s.cancel id).isCancelled x = s.isCancelled x := fun x => by
    rw [Bool.eq_iff_iff, isCancelled_cancel hs (lt_next_of_isCancelled hid)]
    exact ⟨fun h => h.elim (fun h => h) fun h => h.isCancelled hs hid, .inl⟩
  -- Parents and flags are all that a node has, and neither has changed.
  obtain ⟨nodes⟩ := s
  refine congrArg Scopes.mk (List.ext_getElem? ?_)
  intro x
  have hx := hiff x
  show (Scopes.cancel ⟨nodes⟩ id).nodes[x]? = nodes[x]?
  unfold isCancelled cancelledIn at hx
  rw [nodes_cancel] at hx ⊢
  cases hnode : nodes[x]? with
  | none => rfl
  | some node =>
    simp only [hnode, Option.map_some] at hx ⊢
    rw [hx]

theorem descends_congr {s' : Scopes} (h : ∀ x, s'.parentOf? x = s.parentOf? x) :
    s'.Descends id x ↔ s.Descends id x := by
  constructor
  · intro hx
    induction hx with
    | self => exact .self
    | child hp _ ih => exact .child (h _ ▸ hp) ih
  · intro hx
    induction hx with
    | self => exact .self
    | child hp _ ih => exact .child ((h _).symm ▸ hp) ih

/-- A new scope has no part in what derived from what before. -/
theorem descends_addChild (hs : s.Grown) (hx : x < s.next) :
    (s.addChild p).Descends id x ↔ s.Descends id x := by
  constructor
  · intro h
    induction h with
    | self => exact .self
    | @child y q hq _ ih =>
      rw [parentOf?_addChild (Nat.ne_of_lt hx)] at hq
      exact .child hq (ih (Nat.lt_trans (hs.ordered y q hq) hx))
  · intro h
    induction h with
    | self => exact .self
    | @child y q hq _ ih =>
      exact .child ((parentOf?_addChild (Nat.ne_of_lt hx)).trans hq)
        (ih (Nat.lt_trans (hs.ordered y q hq) hx))

/-- A new scope derives from itself and from what its parent derives from. -/
theorem descends_addChild_next (hs : s.Grown) (hp : p < s.next) :
    (s.addChild p).Descends id s.next ↔ id = s.next ∨ s.Descends id p := by
  constructor
  · generalize hx : s.next = x
    intro h
    cases h with
    | self => exact .inl rfl
    | child hq h =>
      subst hx
      cases parentOf?_addChild_next.symm.trans hq
      exact .inr ((descends_addChild hs hp).mp h)
  · intro hreached
    rcases hreached with rfl | h
    · exact .self
    · exact .child parentOf?_addChild_next ((descends_addChild hs hp).mpr h)

end Scopes

end PagePilot
