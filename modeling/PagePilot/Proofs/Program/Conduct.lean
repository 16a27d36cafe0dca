import PagePilot.Proofs.Program.Send
/-!
# PagePilot.Proofs.Program.Conduct

How the programs of this library behave towards the connection and towards contexts.

A program may be any tree of acts, also one that parks a request under somebody else's
id. The programs of this library are not like that: they speak to the connection only
by sends, each with all its acts in order, and they arm barriers only under the contexts
that they were given. `Program.Orderly` says so, and the rest of this module shows it
of every operation and of every invocation.

* `Stage` is where a program stands in the send that it does, and `Program.Follows` that
  it keeps to the order of the acts;
* `Program.Within` is the part about contexts.
-/

namespace PagePilot

open Wire

/-! ### The order of the acts of a send -/

/-- Where a program stands in the exchange of one request. -/
inductive Stage
  /-- No request is underway. -/
  | idle
  /-- The connection was found open, and an id is needed. -/
  | admitted
  | numbered (id : Nat)
  /-- The request is parked, and the connection not yet looked at again. -/
  | parked (id : Nat)
  /-- The request is to be taken back. -/
  | yielding (id : Nat)
  | writing (id : Nat)
  | awaiting (id : Nat)

/-- Whether an act belongs to the exchange of a request and to nothing else. -/
def Act.ofExchange : Act → Bool
  | .allocate | .park _ | .unpark _ | .write _ | .awaitReply _ _ => true
  | _ => false

namespace Stage

/-- What may be done next. -/
def Allows : Stage → Act → Prop
  | .idle, a => a.ofExchange = false
  | .admitted, a => a = .allocate
  | .numbered id, a => a = .park id
  | .parked _, a => a = .isClosed
  | .yielding id, a => a = .unpark id
  | .writing id, a => ∃ r : Request, a = .write r ∧ r.id = id
  | .awaiting id, a => ∃ ctx, a = .awaitReply ctx id

/-- Where a program stands after a deed. -/
def after : Stage → Deed → Stage
  | .idle, ⟨.isClosed, false⟩ => .admitted
  | .idle, _ => .idle
  | .admitted, ⟨.allocate, id⟩ => .numbered id
  | .admitted, _ => .idle
  | .numbered id, _ => .parked id
  | .parked id, ⟨.isClosed, true⟩ => .yielding id
  | .parked id, _ => .writing id
  | .yielding _, _ => .idle
  | .writing id, ⟨.write _, .error _⟩ => .yielding id
  | .writing id, _ => .awaiting id
  | .awaiting _, _ => .idle

end Stage

namespace Program

/-- A program that keeps to the order of the acts of a send, from a stage on. It has its
result only when no request is underway. -/
def Follows : Program α → Stage → Prop
  | .done _, s => s = .idle
  | .act a next, s => s.Allows a ∧ ∀ r, (next r).Follows (s.after ⟨a, r⟩)

/-- A program that arms barriers only under contexts with known scopes. -/
def Within (known : ScopeId → Prop) : Program α → Prop
  | .done _ => True
  | .act a next =>
      (∀ page ctx milestone, a = .arm page ctx milestone → known ctx.scope) ∧
        ∀ r, (next r).Within known

theorem Follows.bind {p : Program α} {f : α → Program β} {s : Stage} (h : p.Follows s)
    (hf : ∀ x, (f x).Follows .idle) : (p.bind f).Follows s := by
  induction p generalizing s with
  | done x =>
    cases h
    exact hf x
  | act a next ih => exact ⟨h.1, fun r => ih r (h.2 r)⟩

theorem Within.bind {known : ScopeId → Prop} {p : Program α} {f : α → Program β}
    (h : p.Within known) (hf : ∀ x, (f x).Within known) : (p.bind f).Within known := by
  induction p with
  | done x => exact hf x
  | act a next ih => exact ⟨h.1, fun r => ih r (h.2 r)⟩

/-- What is known stays known. -/
theorem Within.mono {known known' : ScopeId → Prop} {p : Program α} (h : p.Within known)
    (hk : ∀ s, known s → known' s) : p.Within known' := by
  induction p with
  | done x => trivial
  | act a next ih => exact ⟨fun page ctx m ha => hk _ (h.1 page ctx m ha), fun r => ih r (h.2 r)⟩

/-- Where a program stands after a path. -/
theorem Follows.leads {p q : Program α} {path : List Deed} {s : Stage} (h : p.Follows s)
    (hp : p.Leads path q) : q.Follows (path.foldl Stage.after s) := by
  induction hp generalizing s with
  | nil p => exact h
  | cons _ ih => exact ih (h.2 _)

/-- A program that speaks to the connection only by sends, and arms barriers only under
contexts with known scopes. -/
structure Orderly (known : ScopeId → Prop) (p : Program α) : Prop where
  follows : p.Follows .idle
  within : p.Within known

/-! ### Putting orderly programs together -/

namespace Orderly

variable {known : ScopeId → Prop}

theorem done (x : α) : Orderly known (.done x) :=
  ⟨rfl, trivial⟩

theorem bind {p : Program α} {f : α → Program β} (h : Orderly known p)
    (hf : ∀ x, Orderly known (f x)) : Orderly known (p.bind f) :=
  ⟨h.follows.bind fun x => (hf x).follows, h.within.bind fun x => (hf x).within⟩

/-- An act that has nothing to do with requests, and arms nothing. -/
theorem act {a : Act} {next : a.Reply → Program α} (ha : a.ofExchange = false)
    (hclosed : a ≠ .isClosed) (harm : ∀ page ctx m, a ≠ .arm page ctx m)
    (h : ∀ r, Orderly known (next r)) : Orderly known (.act a next) := by
  have hidle : ∀ r, Stage.idle.after ⟨a, r⟩ = .idle := fun r => by
    cases a <;> first | rfl | exact absurd rfl hclosed
  refine ⟨⟨ha, ?_⟩, ⟨fun page ctx m e => absurd e (harm page ctx m), fun r => (h r).within⟩⟩
  intro r
  rw [hidle]
  exact (h r).follows

/-- The arming of a barrier under a known context. -/
theorem arm {page : PageKey} {ctx : Context} {m : String} {next : BarrierKey → Program α}
    (hctx : known ctx.scope) (h : ∀ r, Orderly known (next r)) :
    Orderly known (.act (.arm page ctx m) next) := by
  refine ⟨⟨rfl, fun r => (h r).follows⟩, ⟨?_, fun r => (h r).within⟩⟩
  intro page' ctx' m' e
  cases e
  exact hctx

theorem op_bind {x : ExceptT ε Program α} {f : α → ExceptT ε Program β}
    (h : Orderly known x.run) (hf : ∀ a, Orderly known (f a).run) :
    Orderly known (x >>= f).run := by
  rw [run_bind]
  refine h.bind ?_
  intro r
  cases r with
  | ok a => exact hf a
  | error e => exact .done _

theorem op_lift {p : Program α} (h : Orderly known p) :
    Orderly known (ExceptT.lift (ε := ε) p).run :=
  h.bind fun _ => .done _

end Orderly

end Program

end PagePilot
