import PagePilot.Proofs.Delivery.Calls
import PagePilot.Proofs.Noise.Beneath
import PagePilot.Proofs.Noise.Frames
/-!
# PagePilot.Proofs.Noise.Insertion

Runs with noise in between. The messages of a run are numbered in the order in which the browser
sent them, and some of the numbers are said to be noise. The run that they were put into is the one
without them (`Run.without`): it lacks the transitions by which they are sent and those by which
they are taken, and all others happen there too, each at a position of its own (`Run.beneath`).

If each of those messages is noise at the time when it is taken (`Run.Ignores`), then nothing but
the noise itself is different (`Run.Unnoticed`). The proof goes along the run with noise: its
worlds and those of the other one stay such that the one lies beneath the other
(`Run.beneath_world`), and what is seen of a world is seen of both.
-/

namespace PagePilot

open Wire

/-- The request that was written, and the task that wrote it. -/
def Occurrence.wrote? : Occurrence → Option (TaskId × Request)
  | .wrote task request => some (task, request)
  | _ => none

/-- The requests that were written so far. -/
def World.written (w : World) : List (TaskId × Request) :=
  w.trace.filterMap Occurrence.wrote?

/-- What is read from the trace besides the log. -/
theorem World.filterMap_of_hushed {w w' : World} (h : w'.hushed = w.hushed)
    {f : Occurrence → Option α} (hf : ∀ record, f (.logged record) = none) :
    w'.trace.filterMap f = w.trace.filterMap f := by
  have hfilter : ∀ v : World, v.trace.filterMap f = v.hushed.trace.filterMap f := by
    intro v
    show _ = (v.trace.filter fun o => !o.isComplaint).filterMap f
    rw [List.filterMap_filter]
    congr 1
    funext o
    cases o with
    | logged record => simp [hf]
    | _ => rfl
  rw [hfilter w', h, ← hfilter w]

namespace Run

variable (r : Run) (noise : Nat → Bool)

/-- Whether the message that is sent or taken at a position is noise, by its number. -/
def isNoise (k : Nat) : Bool :=
  ((r.sent? k).isSome && noise (r.sentBefore k).length) ||
    ((r.taken? k).isSome && noise (r.takenBefore k).length)

/-- What happens at a position, unless it has to do with noise. -/
def heeded? (k : Nat) : Option Transition :=
  if r.isNoise noise k then none else r.transitions[k]?

/-- The run that the noise was put into. -/
def without : Run where
  start := r.start
  transitions := (List.range r.transitions.length).filterMap (r.heeded? noise)

/-- The position without noise that belongs to a position. -/
def beneath (k : Nat) : Nat :=
  ((List.range k).filterMap (r.heeded? noise)).length

/-- What is taken for noise is noise when it is taken. -/
def Ignores : Prop :=
  ∀ k message, r.taken? k = some message → noise (r.takenBefore k).length = true →
    (r.world k).ignores message = true

/-- What noise leaves as it is. -/
structure Unnoticed : Prop where
  /-- The run that the noise was put into is a run like any other. -/
  grounded : (r.without noise).Grounded
  /-- Without the noise the world is the same at each position but for the messages on the way,
  the routes to pages that are gone and the log's records about messages. -/
  same : ∀ k, ((r.without noise).world (r.beneath noise k)).hushed = (r.world k).hushed
  /-- The same tasks do the same acts, and learn the same by them. -/
  acts : ∀ k task a reply, r.Does k task a reply ↔
    r.isNoise noise k = false ∧ (r.without noise).Does (r.beneath noise k) task a reply
  /-- The same requests are written in the same order. -/
  written : ∀ k, ((r.without noise).world (r.beneath noise k)).written = (r.world k).written
  /-- Tasks end with the same outcomes. -/
  outcomes : ∀ k, ((r.without noise).world (r.beneath noise k)).tasks.map Task.outcome? =
    (r.world k).tasks.map Task.outcome?
  /-- The same events are handed to the same pages. -/
  handed : ∀ k, ((r.without noise).world (r.beneath noise k)).handings = (r.world k).handings
  /-- Listeners hear the same. -/
  heard : ∀ k, ((r.without noise).world (r.beneath noise k)).heard = (r.world k).heard
  /-- The connection is closed at the same point. -/
  closes : ∀ k, r.Closes k ↔
    r.isNoise noise k = false ∧ (r.without noise).Closes (r.beneath noise k)

variable {r} {noise} {k : Nat} {t : Transition}

/-! ### Positions -/

theorem heeded?_eq_some :
    r.heeded? noise k = some t ↔ r.isNoise noise k = false ∧ r.transitions[k]? = some t := by
  unfold heeded?
  by_cases h : r.isNoise noise k = true <;> simp [h]

theorem beneath_succ_of_some (h : r.heeded? noise k = some t) :
    r.beneath noise (k + 1) = r.beneath noise k + 1 := by
  simp [beneath, filterMap_range_succ, h]

theorem beneath_succ_of_none (h : r.heeded? noise k = none) :
    r.beneath noise (k + 1) = r.beneath noise k := by
  simp [beneath, filterMap_range_succ, h]

/-- What happens without noise happens at a position of the run that has nothing to do with it. -/
theorem without_transition?_eq_some {j : Nat} :
    (r.without noise).transitions[j]? = some t ↔
      ∃ k, r.heeded? noise k = some t ∧ r.beneath noise k = j := by
  refine getElem?_filterMap_range.trans (exists_congr fun k => and_iff_right_of_imp fun h => ?_)
  exact (List.getElem?_eq_some_iff.mp (heeded?_eq_some.mp h.1).2).1

theorem transition?_beneath (h : r.isNoise noise k = false) :
    (r.without noise).transitions[r.beneath noise k]? = r.transitions[k]? := by
  cases ht : r.transitions[k]? with
  | some t => exact without_transition?_eq_some.mpr ⟨k, heeded?_eq_some.mpr ⟨h, ht⟩, rfl⟩
  | none =>
    have hsublist := List.range_sublist.mpr (List.getElem?_eq_none_iff.mp ht)
    exact List.getElem?_eq_none (hsublist.filterMap _).length_le

theorem world_beneath_succ (h : r.heeded? noise k = some t) :
    (r.without noise).world (r.beneath noise (k + 1)) =
      ((r.without noise).world (r.beneath noise k)).apply t := by
  rw [beneath_succ_of_some h, world_succ (without_transition?_eq_some.mpr ⟨k, h, rfl⟩)]

theorem takenBefore_succ (r : Run) (k : Nat) :
    r.takenBefore (k + 1) = r.takenBefore k ++ (r.taken? k).toList :=
  filterMap_range_succ r.taken? k

/-- The number of a message that is sent is that of the messages that were taken and of those on
the way. -/
theorem length_sentBefore (hr : r.Grounded) (k : Nat) :
    (r.sentBefore k).length = (r.takenBefore k).length + (r.world k).pending.length := by
  rw [← takenBefore_append_pending hr, List.length_append]

/-- A page to which events go is there, even if nobody keeps it. -/
theorem exists_page_of_route (hr : r.Grounded) {session : Option SessionId} {page : PageKey}
    (h : (r.world k).connection.routeOf? session = some page) :
    ∃ p, (r.world k).pages[page]? = some p := by
  obtain ⟨p, hp, -⟩ := (serves_of_routeOf? hr h).routeOf? hr
  exact ⟨p, hp⟩

/-! ### What lies beneath -/

theorem heeded_of_isNoise (hr : r.Grounded) (ht : r.transitions[k]? = some t)
    (h : r.isNoise noise k = false) :
    World.Heeded noise (r.takenBefore k).length (r.world k) t := by
  unfold isNoise sent? taken? at h
  rw [ht, length_sentBefore hr] at h
  simp only [Option.bind_some, Bool.or_eq_false_iff, Bool.and_eq_false_imp] at h
  exact h

/-- Noise is sent or taken. -/
theorem exists_of_isNoise (hr : r.Grounded) (ht : r.transitions[k]? = some t)
    (h : r.isNoise noise k = true) :
    (∃ message, (r.world k).sent? t = some message ∧
      noise ((r.takenBefore k).length + (r.world k).pending.length) = true) ∨
    (∃ message, (r.world k).taken? t = some message ∧ noise (r.takenBefore k).length = true) := by
  unfold isNoise sent? taken? at h
  rw [ht, length_sentBefore hr] at h
  simpa only [Option.bind_some, Bool.or_eq_true, Bool.and_eq_true, Option.isSome_iff_exists,
    exists_and_right] using h

/-- What lies beneath the noise at a position. -/
theorem beneath_world (hr : r.Grounded) (hn : r.Ignores noise) (k : Nat) :
    World.Beneath noise (r.takenBefore k).length (r.world k)
      ((r.without noise).world (r.beneath noise k)) := by
  induction k with
  | zero =>
    obtain ⟨refused, network, hstart⟩ := hr.initial
    show World.Beneath noise 0 r.start r.start
    rw [hstart]
    exact ⟨rfl, .refl _, rfl, rfl⟩
  | succ k ih =>
    rw [takenBefore_succ, List.length_append]
    cases ht : r.transitions[k]? with
    | none =>
      have hheeded : r.heeded? noise k = none := by
        unfold heeded?
        rw [ht, ite_self]
      have htaken : r.taken? k = none := by simp [taken?, ht]
      rw [world_succ_of_none ht, beneath_succ_of_none hheeded, htaken]
      exact ih
    | some t =>
      have htaken : r.taken? k = (r.world k).taken? t := by simp [taken?, ht]
      rw [world_succ ht, htaken]
      cases hnoise : r.isNoise noise k with
      | false =>
        rw [world_beneath_succ (heeded?_eq_some.mpr ⟨hnoise, ht⟩)]
        exact ih.apply (heeded_of_isNoise hr ht hnoise) (hr.step k t ht)
      | true =>
        have hheeded : r.heeded? noise k = none := by simp [heeded?, hnoise]
        rw [beneath_succ_of_none hheeded]
        rcases exists_of_isNoise hr ht hnoise with
          ⟨message, hsent, hnumber⟩ | ⟨message, hmessage, hnumber⟩
        · have hnone : (r.world k).taken? t = none := by
            obtain ⟨rfl, -⟩ := World.sent?_eq_some.mp hsent
            rfl
          rw [hnone]
          exact ih.send_noise hsent hnumber
        · rw [hmessage]
          exact ih.take_noise hmessage hnumber (hn k message (htaken.trans hmessage) hnumber)
            (exists_page_of_route hr)

/-! ### What is seen -/

theorem deed?_of_isNoise (h : r.isNoise noise k = true) : r.deed? k = none := by
  unfold deed?
  cases ht : r.transitions[k]? with
  | none => rfl
  | some t =>
    unfold isNoise sent? taken? at h
    rw [ht] at h
    cases t with
    | step task => cases h
    | _ => rfl

theorem does_iff (hr : r.Grounded) (hn : r.Ignores noise) {task : TaskId} {a : Act}
    {reply : a.Reply} : r.Does k task a reply ↔
      r.isNoise noise k = false ∧ (r.without noise).Does (r.beneath noise k) task a reply := by
  unfold Does
  cases hnoise : r.isNoise noise k with
  | true => simp [deed?_of_isNoise hnoise]
  | false =>
    have hdeed : (r.without noise).deed? (r.beneath noise k) = r.deed? k := by
      unfold deed?
      rw [transition?_beneath hnoise]
      refine congrArg _ (funext fun t => ?_)
      exact World.deed?_congr (beneath_world hr hn k).hushed t
    simp [hdeed]

theorem not_closes_of_isNoise (h : r.isNoise noise k = true) : ¬ r.Closes k := by
  intro hcloses
  obtain ⟨t, ht, hcloses⟩ := hcloses
  obtain ⟨rfl, -, htaken, -⟩ := World.closes_iff_taken?.mp hcloses
  unfold isNoise sent? taken? at h
  simp [ht, htaken, World.sent?] at h

theorem closes_iff (hr : r.Grounded) (hn : r.Ignores noise) : r.Closes k ↔
    r.isNoise noise k = false ∧ (r.without noise).Closes (r.beneath noise k) := by
  cases hnoise : r.isNoise noise k with
  | true => simp [not_closes_of_isNoise hnoise]
  | false =>
    unfold Closes
    rw [transition?_beneath hnoise, eq_self, true_and]
    refine exists_congr fun t => and_congr_right fun ht => ?_
    exact ((beneath_world hr hn k).closes_iff (heeded_of_isNoise hr ht hnoise)).symm

theorem without_grounded (hr : r.Grounded) (hn : r.Ignores noise) :
    (r.without noise).Grounded where
  initial := hr.initial
  step j t ht := by
    obtain ⟨k, hk, rfl⟩ := without_transition?_eq_some.mp ht
    exact World.grounded_congr (beneath_world hr hn k).hushed
      (hr.step k t (heeded?_eq_some.mp hk).2)

/-- Noise in between changes nothing. -/
theorem noise_unnoticed (hr : r.Grounded) (hn : r.Ignores noise) : r.Unnoticed noise ∧
    ∀ script : Socket.Script, Socket.exchange script.withoutNoise = Socket.exchange script := by
  have hsame : ∀ k, ((r.without noise).world (r.beneath noise k)).hushed = (r.world k).hushed :=
    fun k => (beneath_world hr hn k).hushed
  have htasks : ∀ k, ((r.without noise).world (r.beneath noise k)).tasks = (r.world k).tasks :=
    fun k => congrArg (·.tasks) (hsame k)
  refine ⟨?_, Socket.exchange_withoutNoise⟩
  exact
    { grounded := without_grounded hr hn
      same := hsame
      acts := fun k task a reply => does_iff hr hn
      written := fun k => World.filterMap_of_hushed (hsame k) fun _ => rfl
      outcomes := fun k => congrArg (List.map Task.outcome?) (htasks k)
      handed := fun k => World.filterMap_of_hushed (hsame k) fun _ => rfl
      heard := fun k => World.filterMap_of_hushed (hsame k) fun _ => rfl
      closes := fun k => closes_iff hr hn }

/-- The browser sends what is no message, answers to requests that do not wait, and events of a
session whose page is gone. Between them come an answer that is waited for and an event that is
listened to. -/
def disturbed : Run where
  start := .initial [] .none
  transitions :=
    [.openPage (some ⟨"S"⟩) none, .openPage (some ⟨"T"⟩) none, .newScope none, .startReading,
      .route (some ⟨"S"⟩) 0, .route (some ⟨"T"⟩) 1, .listen 0 0 "log", .dropPage 1,
      .spawn ((send none none "Browser.getVersion" .null).task .json),
      .step 0, .step 0, .step 0, .inject (.int 5), .step 0, .step 0,
      .inject (.object [("id", .int 7), ("result", .null)]), .inject (notice "a" (.string "T")),
      .inject (notice "b" (.string "S")), .inject (notice "c" (.string "T")),
      .inject (.object [("id", .int 0), ("result", .int 7)]),
      .inject (.object [("id", .int 0), ("result", .int 8)]), .receive,
      .read, .read, .read, .read, .read, .read, .read, .step 0, .step 0, .disconnect, .receive,
      .read]

/-- The messages of `disturbed` that are noise. -/
def disturbance (n : Nat) : Bool :=
  n ∈ [0, 1, 2, 4, 6]

theorem disturbed_grounded : disturbed.Grounded where
  initial := ⟨[], .none, rfl⟩
  step k t ht := by
    have hall : ∀ k < 34, ∀ t ∈ disturbed.transitions[k]?, t.Grounded (disturbed.world k) := by
      decide
    exact hall k (List.getElem?_eq_some_iff.mp ht).1 t ht

theorem disturbed_ignores : disturbed.Ignores disturbance := by
  have hall : ∀ k < 34, ∀ message ∈ disturbed.taken? k,
      disturbance (disturbed.takenBefore k).length = true →
        (disturbed.world k).ignores message = true := by
    decide
  intro k message htaken
  obtain ⟨t, ht, -⟩ := Option.bind_eq_some_iff.mp htaken
  exact hall k (List.getElem?_eq_some_iff.mp ht).1 message htaken

theorem noise_unnoticed_disturbed : disturbed.Grounded ∧ disturbed.Ignores disturbance ∧
    disturbed.Unnoticed disturbance ∧ (disturbed.without disturbance).transitions.length = 24 ∧
      (disturbed.world 34).tasks.map Task.outcome? = [some (.operation (.ok (.json (.int 7))))] :=
  ⟨disturbed_grounded, disturbed_ignores, (noise_unnoticed disturbed_grounded disturbed_ignores).1,
    by decide, rfl⟩

end Run

end PagePilot
