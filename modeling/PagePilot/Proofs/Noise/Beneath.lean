import PagePilot.Proofs.Noise.Messages
/-!
# PagePilot.Proofs.Noise.Beneath

Two worlds of which one lies beneath the noise in the other: hushed they are the same, their routes
are alike, and the messages on the way are the same without the noise, which is known by the
numbers of messages (`World.Beneath`). There are three things that can happen then:

* `World.Beneath.apply`: what has nothing to do with noise happens in both;
* `World.Beneath.send_noise`: the browser sends noise, in the one world only;
* `World.Beneath.take_noise`: the reader takes noise, in the one world only.
-/

namespace PagePilot

open Wire

/-! ### Queues -/

/-- What is left of a queue without noise, if its first has the number `n`. -/
def siftFrom {α : Type} (noise : Nat → Bool) : Nat → List α → List α
  | _, [] => []
  | n, x :: rest => if noise n then siftFrom noise (n + 1) rest else x :: siftFrom noise (n + 1) rest

theorem siftFrom_append {α : Type} (noise : Nat → Bool) (n : Nat) (xs ys : List α) :
    siftFrom noise n (xs ++ ys) =
      siftFrom noise n xs ++ siftFrom noise (n + xs.length) ys := by
  induction xs generalizing n with
  | nil => rfl
  | cons x rest ih =>
    have hnumber : n + 1 + rest.length = n + (rest.length + 1) := by omega
    simp only [List.cons_append, siftFrom, ih, List.length_cons, hnumber]
    split <;> rfl

namespace World

variable {w w' : World} {noise : Nat → Bool} {taken : Nat} {t : Transition} {message : Json}

/-- `w'` is what lies beneath the noise in `w`, when so many messages have been taken there. -/
structure Beneath (noise : Nat → Bool) (taken : Nat) (w w' : World) : Prop where
  hushed : w'.hushed = w.hushed
  routes : w.RoutesAlike w'
  inbox : w'.inbound.inbox = siftFrom noise taken w.inbound.inbox
  wire : w'.inbound.wire = siftFrom noise (taken + w.inbound.inbox.length) w.inbound.wire

/-- A transition that has nothing to do with noise. -/
def Heeded (noise : Nat → Bool) (taken : Nat) (w : World) (t : Transition) : Prop :=
  ((w.sent? t).isSome → noise (taken + w.pending.length) = false) ∧
    ((w.taken? t).isSome → noise taken = false)

/-- The connection is closed by the reader when nothing is left to take. -/
theorem closes_iff_taken? : w.Closes t ↔ t = .read ∧
    (∃ owner, w.inbound.reading = .running owner) ∧ w.taken? t = none ∧
      w.inbound.inboxOpen = false := by
  unfold Closes
  refine and_congr_right fun ht => and_congr_right fun hreading => and_congr_left fun _ => ?_
  obtain ⟨owner, hreading⟩ := hreading
  subst ht
  cases hinbox : w.inbound.inbox <;> simp [taken?, hreading, hinbox]

namespace Beneath

theorem sent?_eq (h : Beneath noise taken w w') (t : Transition) : w'.sent? t = w.sent? t := by
  have hopen : w'.inbound.wireOpen = w.inbound.wireOpen := congrArg (·.inbound.wireOpen) h.hushed
  cases t
  case inject message =>
    unfold sent?
    rw [hopen]
  all_goals rfl

/-- The same message is taken, unless it is noise. -/
theorem taken?_eq (h : Beneath noise taken w w') (ht : Heeded noise taken w t) :
    w'.taken? t = w.taken? t := by
  have hreading : w'.inbound.reading = w.inbound.reading := congrArg (·.inbound.reading) h.hushed
  cases t
  case read =>
    have hheeded := ht.2
    unfold taken? at hheeded ⊢
    rw [hreading, h.inbox]
    cases hr : w.inbound.reading with
    | running owner =>
      cases hinbox : w.inbound.inbox with
      | nil => rfl
      | cons message rest =>
        simp only [hr, hinbox, Option.isSome_some, forall_const] at hheeded
        simp [siftFrom, hheeded]
    | _ => rfl
  all_goals rfl

theorem incoming?_eq (h : Beneath noise taken w w') (ht : Heeded noise taken w t) :
    w'.incoming? t = w.incoming? t := by
  rw [incoming?_eq_bind, incoming?_eq_bind, h.taken?_eq ht]

theorem hushed_apply (h : Beneath noise taken w w') (ht : Heeded noise taken w t) :
    (w'.apply t).hushed = (w.apply t).hushed := by
  by_cases hread : t = .read
  · subst hread
    have htaken := h.taken?_eq ht
    cases hmessage : w.taken? .read with
    | none =>
      show w'.read.hushed = w.read.hushed
      rw [hushed_read_of_none hmessage, hushed_read_of_none (htaken.trans hmessage), h.hushed]
    | some message =>
      obtain ⟨-, owner, rest, hreading, hinbox⟩ := taken?_eq_some.mp hmessage
      obtain ⟨-, owner', rest', hreading', hinbox'⟩ := taken?_eq_some.mp (htaken.trans hmessage)
      rw [apply_read_of_message hreading hinbox, apply_read_of_message hreading' hinbox']
      have hhushed : (w'.withInbox rest').hushed = (w.withInbox rest).hushed := h.hushed
      have hsinks : ∀ session,
          (w'.withInbox rest').sinkOf? session = (w.withInbox rest).sinkOf? session :=
        h.routes.sinkOf?_eq (congrArg (·.pages) h.hushed)
      exact hushed_take_congr hhushed hsinks message
  · rw [← World.hushed_apply w hread, ← World.hushed_apply w' hread, h.hushed]

theorem inbox_apply (h : Beneath noise taken w w') (ht : Heeded noise taken w t) :
    (w'.apply t).inbound.inbox =
      siftFrom noise (taken + (w.taken? t).toList.length) (w.apply t).inbound.inbox := by
  have htaken := h.taken?_eq ht
  have hreceiving : w'.inbound.receiving = w.inbound.receiving :=
    congrArg (·.inbound.receiving) h.hushed
  rw [(apply_queues w' t).1, (apply_queues w t).1]
  unfold inboxAfter
  split
  · rw [hreceiving, h.inbox, h.wire]
    split
    · rw [siftFrom_append]
      rfl
    · rfl
  · rw [htaken, h.inbox]
    cases hmessage : w.taken? t with
    | none => rfl
    | some message =>
      obtain ⟨-, owner, rest, -, hinbox⟩ := taken?_eq_some.mp hmessage
      have hheeded := ht.2 (by rw [hmessage]; rfl)
      simp [hinbox, siftFrom, hheeded]

theorem wire_apply (h : Beneath noise taken w w') (ht : Heeded noise taken w t) :
    (w'.apply t).inbound.wire = siftFrom noise
      (taken + (w.taken? t).toList.length + (w.apply t).inbound.inbox.length)
        (w.apply t).inbound.wire := by
  have hreceiving : w'.inbound.receiving = w.inbound.receiving :=
    congrArg (·.inbound.receiving) h.hushed
  have hqueue := congrArg List.length (taken?_append_drop w t)
  rw [List.length_append] at hqueue
  rw [(apply_queues w' t).2, (apply_queues w t).2, (apply_queues w t).1]
  unfold wireAfter inboxAfter
  split
  · rw [hreceiving, h.wire]
    split <;> rfl
  · -- The number of the first on the wire stays the same.
    rw [h.sent?_eq, h.wire, Nat.add_assoc, hqueue, siftFrom_append]
    congr 1
    cases hsent : w.sent? t with
    | none => rfl
    | some message =>
      have hheeded := ht.1 (by rw [hsent]; rfl)
      rw [pending, List.length_append, ← Nat.add_assoc] at hheeded
      simp [siftFrom, hheeded]

theorem closes_iff (h : Beneath noise taken w w') (ht : Heeded noise taken w t) :
    w'.Closes t ↔ w.Closes t := by
  have hreading : w'.inbound.reading = w.inbound.reading := congrArg (·.inbound.reading) h.hushed
  have hopen : w'.inbound.inboxOpen = w.inbound.inboxOpen :=
    congrArg (·.inbound.inboxOpen) h.hushed
  rw [closes_iff_taken?, closes_iff_taken?, hreading, hopen, h.taken?_eq ht]

/-- What has nothing to do with noise happens to both alike. -/
theorem apply (h : Beneath noise taken w w') (ht : Heeded noise taken w t) (hg : t.Grounded w) :
    Beneath noise (taken + (w.taken? t).toList.length) (w.apply t) (w'.apply t) where
  hushed := h.hushed_apply ht
  routes := h.routes.apply h.hushed hg (h.incoming?_eq ht)
  inbox := h.inbox_apply ht
  wire := h.wire_apply ht

/-- Noise is sent: it is on the wire, and not beneath. -/
theorem send_noise (h : Beneath noise taken w w') (hsent : w.sent? t = some message)
    (hnoise : noise (taken + w.pending.length) = true) : Beneath noise taken (w.apply t) w' := by
  obtain ⟨rfl, -⟩ := sent?_eq_some.mp hsent
  rw [pending, List.length_append, ← Nat.add_assoc] at hnoise
  obtain ⟨hinbox, hwire⟩ := apply_queues w (.inject message)
  have hinbox : (w.apply (.inject message)).inbound.inbox = w.inbound.inbox := hinbox
  have hwire : (w.apply (.inject message)).inbound.wire =
      w.inbound.wire ++ (w.sent? (.inject message)).toList := hwire
  refine ⟨?_, fun session => ?_, ?_, ?_⟩
  · rw [h.hushed]
    simp only [World.apply, inject]
    split <;> rfl
  · have hpages : (w.apply (.inject message)).pages = w.pages := by
      simp only [World.apply, inject]
      split <;> rfl
    rw [apply_routeOf?, hpages]
    exact h.routes session
  · rw [hinbox, h.inbox]
  · rw [hinbox, hwire, h.wire, hsent, siftFrom_append]
    simp [siftFrom, hnoise]

/-- Noise is taken: the reader takes it, and nothing happens beneath. -/
theorem take_noise (h : Beneath noise taken w w') (htaken : w.taken? t = some message)
    (hnoise : noise taken = true) (hignored : w.ignores message = true)
    (hthere : ∀ {session page}, w.connection.routeOf? session = some page →
      ∃ p, w.pages[page]? = some p) : Beneath noise (taken + 1) (w.apply t) w' := by
  obtain ⟨rfl, owner, rest, -, hinbox⟩ := taken?_eq_some.mp htaken
  obtain ⟨hinbox', hwire'⟩ := apply_queues w .read
  have hrest : (w.apply .read).inbound.inbox = rest := by
    have hdrop : w.inboxAfter .read = w.inbound.inbox.drop (w.taken? .read).toList.length := rfl
    rw [hinbox', hdrop, htaken, hinbox]
    rfl
  have hwire : (w.apply .read).inbound.wire = w.inbound.wire := hwire'.trans (List.append_nil _)
  refine ⟨?_, h.routes.apply_noise htaken hignored hthere, ?_, ?_⟩
  · rw [h.hushed, hushed_apply_of_noise htaken hignored]
  · rw [hrest, h.inbox, hinbox]
    simp [siftFrom, hnoise]
  · have hnumber : taken + w.inbound.inbox.length = taken + 1 + rest.length := by
      rw [hinbox, List.length_cons]
      omega
    rw [hwire, hrest, h.wire, hnumber]

end Beneath

end World

end PagePilot
