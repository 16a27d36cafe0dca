import PagePilot.Machine.Program
/-!
# PagePilot.Proofs.Program.Path

Paths through a program. A program is a tree whose branches are the replies of its
acts, so what it has done so far is a list of acts with their replies, and the list
determines what is left of it.

Paths know nothing of the machine. What a program does on its own is read off its
paths here; what holds of the world at each act is added by the runs of
`PagePilot.Proofs.Machine.Run`.
-/

namespace PagePilot

/-! ### Operations as trees -/

namespace Program

@[simp] theorem bind_done (x : α) (f : α → Program β) : (Program.done x).bind f = f x := rfl

@[simp] theorem bind_act (a : Act) (next : a.Reply → Program α) (f : α → Program β) :
    (Program.act a next).bind f = .act a fun r => (next r).bind f := rfl

theorem bind_assoc (p : Program α) (f : α → Program β) (g : β → Program γ) :
    (p.bind f).bind g = p.bind fun x => (f x).bind g := by
  induction p with
  | done x => rfl
  | act a next ih => simp [ih]

/-- What an operation does with the result of the one before it: it goes on, or
passes the error. -/
def carry (f : α → ExceptT ε Program β) : Except ε α → Program (Except ε β)
  | .ok a => (f a).run
  | .error e => .done (.error e)

/-- Two operations in a row are two programs in a row. -/
theorem run_bind (x : ExceptT ε Program α) (f : α → ExceptT ε Program β) :
    (x >>= f).run = x.run.bind (carry f) := by
  show Program.bind _ _ = _
  congr 1
  funext r
  cases r <;> rfl

end Program

/-! ### Deeds -/

/-- An act that was done, with what it gave. -/
structure Deed where
  act : Act
  reply : act.Reply

namespace Program

/-- `p.Leads path q`: after the deeds in `path`, `q` is what is left of `p`. -/
inductive Leads : Program α → List Deed → Program α → Prop
  | nil (p : Program α) : Leads p [] p
  | cons {a : Act} {next : a.Reply → Program α} {reply : a.Reply} {path : List Deed}
      {q : Program α} (rest : Leads (next reply) path q) :
      Leads (.act a next) (⟨a, reply⟩ :: path) q

namespace Leads

variable {p q : Program α} {path : List Deed}

/-- One more deed at the end of a path. -/
theorem snoc {a : Act} {next : a.Reply → Program α} (h : Leads p path (.act a next))
    (reply : a.Reply) : Leads p (path ++ [⟨a, reply⟩]) (next reply) := by
  generalize hq : Program.act a next = q at h
  induction h with
  | nil p => subst hq; exact .cons (.nil _)
  | cons _ ih => exact .cons (ih hq)

/-- A program that has its result does nothing more. -/
theorem of_done {x : α} (h : Leads (.done x) path q) : path = [] ∧ q = .done x := by
  cases h
  exact ⟨rfl, rfl⟩

/-- A program whose next act is `a` stands there still, or has done `a` first. -/
theorem of_act {a : Act} {next : a.Reply → Program α} (h : Leads (.act a next) path q) :
    (path = [] ∧ q = .act a next) ∨
      ∃ reply rest, path = ⟨a, reply⟩ :: rest ∧ Leads (next reply) rest q := by
  cases h with
  | nil => exact .inl ⟨rfl, rfl⟩
  | cons rest => exact .inr ⟨_, _, rfl, rest⟩

/-- A program that has its result after `path` has done its next act first. -/
theorem of_act_done {a : Act} {next : a.Reply → Program α} {x : α}
    (h : Leads (.act a next) path (.done x)) :
    ∃ reply rest, path = ⟨a, reply⟩ :: rest ∧ Leads (next reply) rest (.done x) := by
  rcases h.of_act with ⟨_, hq⟩ | h
  · exact absurd hq (by simp)
  · exact h

/-- The path determines what is left. -/
theorem unique {q' : Program α} (h : Leads p path q) (h' : Leads p path q') : q = q' := by
  induction h with
  | nil p => cases h'; rfl
  | cons _ ih => cases h' with | cons rest => exact ih rest

/-- What is left after a part of a path takes the rest of it. -/
theorem of_append {path' : List Deed} {q' : Program α} (h : Leads p path q)
    (h' : Leads p (path ++ path') q') : Leads q path' q' := by
  induction h with
  | nil p => exact h'
  | cons _ ih =>
    cases h' with
    | cons rest => exact ih rest

/-- A path in two parts leads somewhere in between. -/
theorem split {path' : List Deed} (h : Leads p (path ++ path') q) :
    ∃ p', Leads p path p' ∧ Leads p' path' q := by
  induction path generalizing p with
  | nil => exact ⟨p, .nil p, h⟩
  | cons d path ih =>
    cases h with
    | cons hrest =>
      obtain ⟨p', hp', hq⟩ := ih hrest
      exact ⟨p', .cons hp', hq⟩

/-- A path is taken by a program that goes on afterwards as well. -/
theorem bind (h : Leads p path q) (f : α → Program β) : Leads (p.bind f) path (q.bind f) := by
  induction h with
  | nil p => exact .nil _
  | cons _ ih => exact .cons ih

/-- A path through two programs in a row ends in the first, or passes the result of
the first. -/
theorem of_bind {f : α → Program β} {q : Program β} (h : Leads (p.bind f) path q) :
    (∃ p', Leads p path p' ∧ q = p'.bind f) ∨
      ∃ path₁ x path₂, path = path₁ ++ path₂ ∧ Leads p path₁ (.done x) ∧
        Leads (f x) path₂ q := by
  induction p generalizing path with
  | done x => exact .inr ⟨[], x, path, rfl, .nil _, h⟩
  | act a next ih =>
    rcases Leads.of_act h with ⟨rfl, rfl⟩ | ⟨reply, rest, rfl, hrest⟩
    · exact .inl ⟨_, .nil _, rfl⟩
    · rcases ih reply hrest with ⟨p', hp, rfl⟩ | ⟨path₁, x, path₂, rfl, hp, hf⟩
      · exact .inl ⟨p', .cons hp, rfl⟩
      · exact .inr ⟨⟨a, reply⟩ :: path₁, x, path₂, rfl, .cons hp, hf⟩

/-- Two programs in a row have a result only after the first has one. -/
theorem of_bind_done {f : α → Program β} {y : β} (h : Leads (p.bind f) path (.done y)) :
    ∃ path₁ x path₂, path = path₁ ++ path₂ ∧ Leads p path₁ (.done x) ∧
      Leads (f x) path₂ (.done y) := by
  rcases h.of_bind with ⟨p', hp, hy⟩ | h
  · cases p' with
    | done x => exact ⟨path, x, [], by simp, hp, hy ▸ .nil _⟩
    | act a next => exact absurd hy (by simp)
  · exact h

end Leads

end Program

end PagePilot
