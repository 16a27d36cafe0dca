import PagePilot.Proofs.Machine.Run
import PagePilot.Proofs.Output.Files
import PagePilot.Scenario.Run
/-!
# PagePilot.Proofs.Output.Outside

What a run leaves outside of the program: the files, and what its tasks have printed
(`World.outside`). There are two acts that change it, and nothing else that happens does
(`World.apply_outside`). So what a task has printed is read off its deeds
(`Run.outside_printed`), and a file is written by nothing but the act that says so.
-/

namespace PagePilot

open Wire

/-- What is outside of the program: the files, and the texts that each task has printed. -/
structure Outside where
  files : Files
  printed : TaskId → List String

/-- The text that an occurrence says a task has printed. -/
def Occurrence.printedBy? (task : TaskId) : Occurrence → Option String
  | .printed task' text => if task' = task then some text else none
  | _ => none

/-- What is outside, after a deed of a task. -/
def Outside.after (o : Outside) (task : TaskId) (d : Deed) : Outside :=
  match d.act with
  | .print text =>
      { o with
        printed := fun task' =>
          if task' = task then o.printed task' ++ [text] else o.printed task' }
  | .save path bytes => { o with files := (o.files.writeImage path bytes).1 }
  | _ => o

namespace World

variable {w w' : World}

/-- What is outside of the program in a world. -/
def outside (w : World) : Outside where
  files := w.files
  printed task := w.trace.filterMap (·.printedBy? task)

theorem printedBy_eq_join (w : World) (task : TaskId) :
    Scenario.printedBy w task = String.join (w.outside.printed task) := rfl

/-! ### One transition -/

theorem outside_note {o : Occurrence} (h : ∀ task, o.printedBy? task = none) :
    (w.note o).outside = w.outside := by
  have hprinted : (w.note o).outside.printed = w.outside.printed := by
    funext task
    show (w.trace ++ [o]).filterMap _ = _
    rw [List.filterMap_append, List.filterMap_cons_none (h task), List.filterMap_nil,
      List.append_nil]
    rfl
  exact congrArg (Outside.mk w.files) hprinted

theorem outside_print (w : World) (task : TaskId) (text : String) :
    (w.note (.printed task text)).outside = w.outside.after task ⟨.print text, ()⟩ := by
  refine congrArg (Outside.mk w.files) (funext fun task' => ?_)
  show (w.trace ++ [Occurrence.printed task text]).filterMap _ = _
  rw [List.filterMap_append]
  by_cases h : task' = task
  · subst h
    simp [outside, Occurrence.printedBy?]
  · simp [outside, Occurrence.printedBy?, h, Ne.symm h]

theorem startReading_outside (w : World) (owner : Option TaskId) :
    (w.startReading owner).2.outside = w.outside := by
  unfold startReading
  split <;> rfl

theorem perform_outside {task : TaskId} {a : Act} {reply : a.Reply}
    (hp : w.perform task a = some (reply, w')) :
    w'.outside = w.outside.after task ⟨a, reply⟩ := by
  cases a
  case print text =>
    cases hp
    exact outside_print ..
  case save path bytes =>
    obtain rfl : (w.save path bytes).2 = w' := congrArg Prod.snd (Option.some.inj hp)
    rfl
  case write request =>
    obtain rfl : (w.write task request).2 = w' := congrArg Prod.snd (Option.some.inj hp)
    unfold write
    split
    · rfl
    · exact outside_note fun _ => rfl
  case get origin path =>
    obtain rfl : (w.get origin path).2 = w' := congrArg Prod.snd (Option.some.inj hp)
    unfold get
    split
    · rfl
    · exact outside_note fun _ => rfl
  case log =>
    cases hp
    exact outside_note fun _ => rfl
  case awaitEnd | sleep | awaitReply | awaitMatch =>
    obtain ⟨_, -, h⟩ := Option.map_eq_some_iff.mp hp
    cases h
    rfl
  case awaitReader =>
    simp only [perform] at hp
    split at hp
    · cases hp
      rfl
    · cases hp
  case startReading =>
    obtain rfl : (w.startReading (some task)).2 = w' := congrArg Prod.snd (Option.some.inj hp)
    exact startReading_outside ..
  all_goals
    cases hp
    rfl

theorem handle_outside (page : PageKey) (event : Event) (handler : Handler) (w : World) :
    (handle page event handler w).outside = w.outside := by
  cases handler with
  | recorder name => exact outside_note fun _ => rfl
  | barrier key wanted =>
    dsimp only [handle]
    split
    · exact outside_note (w := w.modifyBarrier key fun b => { b with matched := true })
        (o := .matched key) fun _ => rfl
    · rfl

theorem callAll_outside (page : PageKey) (event : Event) (regs : List (Registration Handler))
    (w : World) :
    (Listeners.callAll (·.scopes) (handle page event) regs w).outside = w.outside := by
  induction regs generalizing w with
  | nil => rfl
  | cons reg rest ih =>
    unfold Listeners.callAll
    split
    · exact ih w
    · exact (ih _).trans (handle_outside ..)

theorem deliver_outside (w : World) (page : PageKey) (event : Event) :
    (w.deliver page event).outside = w.outside := by
  have hfollow : (w.follow page event).outside = w.outside := by
    unfold follow
    split <;> rfl
  rw [deliver_eq_callListeners, ← hfollow]
  unfold callListeners
  split
  · rfl
  · exact callAll_outside ..

theorem take_outside (w : World) (message : Json) : (w.take message).outside = w.outside := by
  unfold take
  split
  · unfold answer
    split <;> exact outside_note fun _ => rfl
  · unfold hand
    split
    · rfl
    · split
      · exact (deliver_outside ..).trans (outside_note fun _ => rfl)
      · rfl
  · exact outside_note fun _ => rfl

theorem read_outside (w : World) : w.read.outside = w.outside := by
  unfold read
  split
  · split
    · exact take_outside ..
    · split <;> rfl
  · rfl
  · rfl

theorem step_outside (w : World) (task : TaskId) :
    (w.step task).outside = match w.deed? (.step task) with
      | some (task', d) => w.outside.after task' d
      | none => w.outside := by
  cases htask : w.tasks[task]? with
  | none => simp only [step, deed?, htask]
  | some state =>
    cases state with
    | ended | aborted => simp only [step, deed?, htask]
    | running program =>
      cases program with
      | done outcome =>
        simp only [step, deed?, htask]
        rfl
      | act a next =>
        simp only [step, deed?, htask]
        cases hp : w.perform task a with
        | none => rfl
        | some result =>
          have hperform := perform_outside hp
          exact hperform

/-- Nothing is changed outside but by a deed. -/
theorem apply_outside (w : World) (t : Transition) :
    (w.apply t).outside = match w.deed? t with
      | some (task, d) => w.outside.after task d
      | none => w.outside := by
  cases t with
  | step task => exact step_outside w task
  | read => exact read_outside w
  | deliver page event => exact deliver_outside w page event
  | startReading => exact startReading_outside ..
  | abort task =>
    simp only [apply, abort]
    split <;> rfl
  | release key =>
    simp only [apply, release]
    split <;> rfl
  | inject message =>
    simp only [apply, inject]
    split <;> rfl
  | receive =>
    simp only [apply, receive]
    split <;> rfl
  | stopReading =>
    simp only [apply, stopReading]
    split <;> rfl
  | _ => rfl

end World

/-! ### Runs -/

/-- The text that a deed prints. -/
def Deed.printed? (d : Deed) : Option String :=
  match d.act with
  | .print text => some text
  | _ => none

namespace Run

variable (r : Run)

/-- The texts that a task prints from position `i` on, before position `j`. -/
def printed (task : TaskId) (i j : Nat) : List String :=
  (r.deeds task i j).filterMap Deed.printed?

variable {r} {task : TaskId} {i j k s : Nat}

theorem printed_append (hij : i ≤ j) (hjk : j ≤ k) :
    r.printed task i k = r.printed task i j ++ r.printed task j k := by
  unfold printed
  rw [deeds_append hij hjk, List.filterMap_append]

/-- Where nothing is printed, nothing was printed before. -/
theorem printed_eq_nil (hij : i ≤ j) (hjk : j ≤ k) (h : r.printed task i k = []) :
    r.printed task i j = [] := by
  rw [printed_append hij hjk] at h
  exact (List.append_eq_nil_iff.mp h).1

theorem mem_printed {text : String} (hik : i ≤ k) (hkj : k < j)
    (h : r.Does k task (.print text) ()) : text ∈ r.printed task i j :=
  List.mem_filterMap.mpr ⟨⟨.print text, ()⟩, mem_deeds.mpr ⟨k, hik, hkj, h⟩, rfl⟩

theorem outside_succ (k : Nat) : (r.world (k + 1)).outside = match r.deed? k with
    | some (task, d) => (r.world k).outside.after task d
    | none => (r.world k).outside := by
  unfold deed?
  cases ht : r.transitions[k]? with
  | none => rw [world_succ_of_none ht, Option.bind_none]
  | some t =>
    rw [world_succ ht, Option.bind_some]
    exact World.apply_outside ..

theorem after_printed (o : Outside) (task task' : TaskId) (d : Deed) :
    (o.after task' d).printed task =
      o.printed task ++ if task' = task then d.printed?.toList else [] := by
  obtain ⟨a, reply⟩ := d
  cases a
  case print text =>
    by_cases h : task' = task
    · simp [Outside.after, Deed.printed?, h]
    · simp [Outside.after, h, Ne.symm h]
  all_goals simp [Outside.after, Deed.printed?]

/-- The output of a task grows by what the task prints. -/
theorem outside_printed (hij : i ≤ j) : (r.world j).outside.printed task =
    (r.world i).outside.printed task ++ r.printed task i j := by
  induction hij with
  | refl => simp [printed, deeds_self]
  | @step j hij ih =>
    have hdeed : (r.deedOf? task j).toList.filterMap Deed.printed? = match r.deed? j with
        | some (task', d) => if task' = task then d.printed?.toList else []
        | none => [] := by
      unfold deedOf?
      cases r.deed? j with
      | none => rfl
      | some e =>
        obtain ⟨task', d⟩ := e
        by_cases h : task' = task
        · cases hd : d.printed? <;> simp [h, hd]
        · simp [h]
    rw [outside_succ, printed, deeds_succ hij, List.filterMap_append, hdeed, ← List.append_assoc]
    cases r.deed? j with
    | none =>
      rw [List.append_nil]
      exact ih
    | some e =>
      dsimp only
      rw [after_printed, ih]
      rfl

theorem printedBy_world (hij : i ≤ j) : Scenario.printedBy (r.world j) task =
    Scenario.printedBy (r.world i) task ++ String.join (r.printed task i j) := by
  rw [World.printedBy_eq_join, World.printedBy_eq_join, outside_printed hij]
  exact String.join_append

/-- What an act that writes a file does, and what it tells. -/
theorem Does.saves {path : String} {bytes : List UInt8} {written : Except String Unit}
    (h : r.Does s task (.save path bytes) written) :
    (r.world (s + 1)).files = ((r.world s).files.writeImage path bytes).1 ∧
      written = ((r.world s).files.writeImage path bytes).2.mapError FileError.message := by
  constructor
  · have houtside := outside_succ (r := r) s
    rw [h] at houtside
    exact congrArg Outside.files houtside
  · obtain ⟨-, next, w', -, hp⟩ := h.spec
    exact (congrArg Prod.fst (Option.some.inj hp)).symm

/-- Files change by nothing else. -/
theorem files_succ (h : ∀ task path bytes written, ¬ r.Does k task (.save path bytes) written) :
    (r.world (k + 1)).files = (r.world k).files := by
  have houtside := outside_succ (r := r) k
  cases hd : r.deed? k with
  | none =>
    rw [hd] at houtside
    exact congrArg Outside.files houtside
  | some e =>
    obtain ⟨task, a, reply⟩ := e
    rw [hd] at houtside
    refine (congrArg Outside.files houtside).trans ?_
    cases a
    case save path bytes => exact absurd hd (h task path bytes reply)
    all_goals rfl

end Run

end PagePilot
