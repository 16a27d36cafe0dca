import PagePilot.Listeners.Script
import PagePilot.Proofs.Listeners.Hub
/-!
# PagePilot.Proofs.Listeners.Moves

The moves of a script. Which moves a step makes depends on what is written in a `Book`: which
scopes have names, and which scripts handlers have not run yet. It depends on the list of listeners
as well, since it is there that the next scope gets its id and that a turn finds its handler.

* `StepMoves` are the moves of one step. A delivery begins, and its turns follow until one calls
  nobody (`TurnMoves`); after each other turn the moves of the handler's script are made;
* `ScriptMoves` are the moves of one step after the other.

There is one way only to move (`ScriptMoves.unique`).
-/

namespace PagePilot.Listeners.Script

open Wire (Event)

/-- What is known of names and handlers. -/
structure Book where
  /-- The scope that has a name. -/
  names : String → Option ScopeId
  /-- For each registered handler the script that it has not run yet. -/
  scripts : List (List Step)

namespace Book

/-- Nothing is known. -/
def blank : Book :=
  { names := fun _ => none, scripts := [] }

/-- A name is given to a scope, also if another one had it. -/
def entitle (b : Book) (name : String) (id : ScopeId) : Book :=
  { b with names := fun other => if other = name then some id else b.names other }

/-- A handler is registered, with the script that its first call runs. -/
def keep (b : Book) (next : List Step) : Book :=
  { b with scripts := b.scripts ++ [next] }

/-- The script that a handler has not run. -/
def scriptOf (b : Book) (handler : Handler) : List Step :=
  (b.scripts[handler.script]?).getD []

/-- The script of a handler is taken away. -/
def take (b : Book) (handler : Handler) : Book :=
  { b with scripts := b.scripts.set handler.script [] }

end Book

/-- The moves by which a named scope is found, where `next` would be the id of a new one: none if
there is such a scope, and otherwise it is made. -/
inductive NameMoves (next : ScopeId) (name : String) (b : Book) :
    List (Move Handler Event) → ScopeId → Book → Prop
  | known {id : ScopeId} (hid : b.names name = some id) : NameMoves next name b [] id b
  | made (hnone : b.names name = none) :
      NameMoves next name b [.newScope none] next (b.entitle name next)

mutual

/-- The moves of a step. -/
inductive StepMoves : Step → Book → Hub Handler Event → List (Move Handler Event) → Book → Prop
  | root {name : String} {b : Book} {h : Hub Handler Event} :
      StepMoves (.scope name none) b h [.newScope none] (b.entitle name h.scopes.next)
  | child {name parent : String} {b b' : Book} {h : Hub Handler Event} {p : ScopeId}
      {moves : List (Move Handler Event)} (hp : NameMoves h.scopes.next parent b moves p b') :
      StepMoves (.scope name (some parent)) b h (moves ++ [.newScope (some p)])
        (b'.entitle name (h.run prune moves).scopes.next)
  | cancel {name : String} {b b' : Book} {h : Hub Handler Event} {id : ScopeId}
      {moves : List (Move Handler Event)} (hid : NameMoves h.scopes.next name b moves id b') :
      StepMoves (.cancel name) b h (moves ++ [.cancel id]) b'
  | listen {scope name : String} {next : List Step} {b b' : Book} {h : Hub Handler Event}
      {id : ScopeId} {moves : List (Move Handler Event)}
      (hid : NameMoves h.scopes.next scope b moves id b') :
      StepMoves (.listen scope name next) b h (moves ++ [.listen id ⟨name, b.scripts.length⟩])
        (b'.keep next)
  | deliver {event : Event} {b b' : Book} {h : Hub Handler Event}
      {moves : List (Move Handler Event)}
      (hturns : TurnMoves h.deliveries.length b (h.move prune (.deliver event)) moves b') :
      StepMoves (.deliver event) b h (.deliver event :: moves) b'

/-- The turns of a delivery until it is over, and what handlers do in between. -/
inductive TurnMoves : Nat → Book → Hub Handler Event → List (Move Handler Event) → Book → Prop
  | last {n : Nat} {b : Book} {h : Hub Handler Event} (hnone : h.call? (.turn n) = none) :
      TurnMoves n b h [.turn n] b
  | call {n : Nat} {b b' b'' : Book} {h : Hub Handler Event} {call : Call Handler Event}
      {moves more : List (Move Handler Event)} (hcall : h.call? (.turn n) = some call)
      (hscript : ScriptMoves (b.scriptOf call.listener.handler.handler)
        (b.take call.listener.handler.handler) (h.move prune (.turn n)) moves b')
      (hrest : TurnMoves n b' ((h.move prune (.turn n)).run prune moves) more b'') :
      TurnMoves n b h (.turn n :: (moves ++ more)) b''

/-- The moves of steps one after the other. -/
inductive ScriptMoves :
    List Step → Book → Hub Handler Event → List (Move Handler Event) → Book → Prop
  | nil {b : Book} {h : Hub Handler Event} : ScriptMoves [] b h [] b
  | cons {step : Step} {rest : List Step} {b b' b'' : Book} {h : Hub Handler Event}
      {moves more : List (Move Handler Event)} (hstep : StepMoves step b h moves b')
      (hrest : ScriptMoves rest b' (h.run prune moves) more b'') :
      ScriptMoves (step :: rest) b h (moves ++ more) b''

end

variable {b b₁ b₂ : Book} {h : Hub Handler Event} {moves₁ moves₂ : List (Move Handler Event)}

theorem NameMoves.unique {next id₁ id₂ : ScopeId} {name : String}
    (h₁ : NameMoves next name b moves₁ id₁ b₁) (h₂ : NameMoves next name b moves₂ id₂ b₂) :
    moves₁ = moves₂ ∧ id₁ = id₂ ∧ b₁ = b₂ := by
  cases h₁ with
  | known hid =>
    cases h₂ with
    | known hid' => exact ⟨rfl, Option.some.inj (hid.symm.trans hid'), rfl⟩
    | made hnone => cases hid.symm.trans hnone
  | made hnone =>
    cases h₂ with
    | known hid => cases hid.symm.trans hnone
    | made _ => exact ⟨rfl, rfl, rfl⟩

mutual

theorem StepMoves.unique {step : Step} {moves₁ moves₂ : List (Move Handler Event)}
    {b b₁ b₂ : Book} {h : Hub Handler Event} :
    StepMoves step b h moves₁ b₁ → StepMoves step b h moves₂ b₂ → moves₁ = moves₂ ∧ b₁ = b₂
  | .root, .root => ⟨rfl, rfl⟩
  | .child hp, .child hp' => by
    obtain ⟨rfl, rfl, rfl⟩ := hp.unique hp'
    exact ⟨rfl, rfl⟩
  | .cancel hid, .cancel hid' => by
    obtain ⟨rfl, rfl, rfl⟩ := hid.unique hid'
    exact ⟨rfl, rfl⟩
  | .listen hid, .listen hid' => by
    obtain ⟨rfl, rfl, rfl⟩ := hid.unique hid'
    exact ⟨rfl, rfl⟩
  | .deliver hturns, .deliver hturns' => by
    obtain ⟨rfl, rfl⟩ := hturns.unique hturns'
    exact ⟨rfl, rfl⟩

theorem TurnMoves.unique {n : Nat} {moves₁ moves₂ : List (Move Handler Event)}
    {b b₁ b₂ : Book} {h : Hub Handler Event} :
    TurnMoves n b h moves₁ b₁ → TurnMoves n b h moves₂ b₂ → moves₁ = moves₂ ∧ b₁ = b₂
  | .last _, .last _ => ⟨rfl, rfl⟩
  | .last hnone, .call hcall _ _ => by cases hnone.symm.trans hcall
  | .call hcall _ _, .last hnone => by cases hnone.symm.trans hcall
  | .call hcall hscript hrest, .call hcall' hscript' hrest' => by
    obtain rfl := Option.some.inj (hcall.symm.trans hcall')
    obtain ⟨rfl, rfl⟩ := hscript.unique hscript'
    obtain ⟨rfl, rfl⟩ := hrest.unique hrest'
    exact ⟨rfl, rfl⟩

/-- There is one way only to move. -/
theorem ScriptMoves.unique {steps : List Step} {moves₁ moves₂ : List (Move Handler Event)}
    {b b₁ b₂ : Book} {h : Hub Handler Event} :
    ScriptMoves steps b h moves₁ b₁ → ScriptMoves steps b h moves₂ b₂ → moves₁ = moves₂ ∧ b₁ = b₂
  | .nil, .nil => ⟨rfl, rfl⟩
  | .cons hstep hrest, .cons hstep' hrest' => by
    obtain ⟨rfl, rfl⟩ := hstep.unique hstep'
    obtain ⟨rfl, rfl⟩ := hrest.unique hrest'
    exact ⟨rfl, rfl⟩

end

end PagePilot.Listeners.Script
