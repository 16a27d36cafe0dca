import PagePilot.Proofs.Barrier.Board
/-!
# PagePilot.Proofs.Machine.Trace

What is noted by one transition. The trace only grows, and what becomes of events is noted in it
by deliveries alone: that an event was handed to a page, what a recorder heard, and which
barriers were matched (`Occurrence.ofEvent`). All other transitions are silent about events
(`World.apply_silent`).
-/

namespace PagePilot

open Wire

/-- Whether an occurrence tells what became of an event. -/
def Occurrence.ofEvent : Occurrence → Bool
  | .handed .. | .heard .. | .matched _ => true
  | .wrote .. | .answered _ | .printed .. | .logged _ | .visited _ => false

namespace World

/-- `w'` has noted at most something more than `w`, and nothing about events. -/
def Silent (w w' : World) : Prop :=
  ∃ news, w'.trace = w.trace ++ news ∧ ∀ o ∈ news, o.ofEvent = false

variable {w w' : World}

theorem silent_of_trace (h : w'.trace = w.trace) : w.Silent w' :=
  ⟨[], h.trans (List.append_nil _).symm, nofun⟩

theorem silent_note {o : Occurrence} (h : o.ofEvent = false) : w.Silent (w.note o) := by
  refine ⟨[o], rfl, fun o' ho => ?_⟩
  rwa [List.mem_singleton.mp ho]

/-- What is read from the trace about events stays the same. -/
theorem Silent.filterMap (h : w.Silent w') {f : Occurrence → Option α}
    (hf : ∀ o, o.ofEvent = false → f o = none) :
    w'.trace.filterMap f = w.trace.filterMap f := by
  obtain ⟨news, htrace, hnews⟩ := h
  have hnone : news.filterMap f = [] :=
    List.filterMap_eq_nil_iff.mpr fun o ho => hf o (hnews o ho)
  rw [htrace, List.filterMap_append, hnone, List.append_nil]

theorem startReading_silent (w : World) (owner : Option TaskId) :
    w.Silent (w.startReading owner).2 := by
  unfold startReading
  split <;> exact silent_of_trace rfl

theorem perform_silent {task : TaskId} {a : Act} {reply : a.Reply}
    (hp : w.perform task a = some (reply, w')) : w.Silent w' := by
  cases a
  case write request =>
    obtain rfl : (w.write task request).2 = w' := congrArg Prod.snd (Option.some.inj hp)
    unfold write
    split
    · exact silent_of_trace rfl
    · exact silent_note rfl
  case get origin path =>
    obtain rfl : (w.get origin path).2 = w' := congrArg Prod.snd (Option.some.inj hp)
    unfold get
    split
    · exact silent_of_trace rfl
    · exact silent_note rfl
  case print | log =>
    cases hp
    exact silent_note rfl
  case awaitEnd | sleep | awaitReply | awaitMatch =>
    obtain ⟨_, -, h⟩ := Option.map_eq_some_iff.mp hp
    cases h
    exact silent_of_trace rfl
  case awaitReader =>
    simp only [perform] at hp
    split at hp
    · cases hp
      exact silent_of_trace rfl
    · cases hp
  case startReading =>
    obtain rfl : (w.startReading (some task)).2 = w' := congrArg Prod.snd (Option.some.inj hp)
    exact startReading_silent ..
  all_goals
    cases hp
    exact silent_of_trace rfl

theorem step_silent (w : World) (task : TaskId) : w.Silent (w.step task) := by
  unfold step
  split
  · exact silent_of_trace rfl
  · split
    · rename_i hp
      have hsilent := perform_silent hp
      exact hsilent
    · exact silent_of_trace rfl
  · exact silent_of_trace rfl

theorem answer_silent (w : World) (response : Response) : w.Silent (w.answer response) := by
  unfold answer
  split <;> exact silent_note rfl

/-- A message that reaches no page says nothing about events. -/
theorem read_silent (w : World) (h : w.delivered? .read = none) : w.Silent w.read := by
  unfold read
  cases hreading : w.inbound.reading with
  | notStarted | ended | stopped | closing => exact silent_of_trace rfl
  | running owner =>
    cases hinbox : w.inbound.inbox with
    | nil =>
      dsimp only
      split <;> exact silent_of_trace rfl
    | cons message rest =>
      rw [delivered?_read hreading hinbox] at h
      dsimp only [take]
      cases hdecode : Message.decode message with
      | error cause => exact silent_note rfl
      | ok m =>
        cases m with
        | response response => exact answer_silent ..
        | event e =>
          rw [hdecode] at h
          dsimp only at h ⊢
          unfold hand
          split
          next => exact silent_of_trace rfl
          next page hroute =>
            have hroute : w.connection.routeOf? e.sessionId = some page := hroute
            simp only [hroute] at h
            split
            next halive => cases (if_pos halive).symm.trans h
            next => exact silent_of_trace rfl

/-- What becomes of events is noted by deliveries alone. -/
theorem apply_silent (w : World) (t : Transition) (h : w.delivered? t = none) :
    w.Silent (w.apply t) := by
  cases t with
  | read => exact read_silent w h
  | deliver page event => cases h
  | step task => exact step_silent w task
  | startReading => exact startReading_silent ..
  | abort task =>
    simp only [apply, abort]
    split <;> exact silent_of_trace rfl
  | release key =>
    simp only [apply, release]
    split <;> exact silent_of_trace rfl
  | inject message =>
    simp only [apply, inject]
    split <;> exact silent_of_trace rfl
  | receive =>
    simp only [apply, receive]
    split <;> exact silent_of_trace rfl
  | stopReading =>
    simp only [apply, stopReading]
    split <;> exact silent_of_trace rfl
  | _ => exact silent_of_trace rfl

end World

end PagePilot
