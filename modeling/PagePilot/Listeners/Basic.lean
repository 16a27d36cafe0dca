import PagePilot.Scope
/-!
# PagePilot.Listeners.Basic

Listeners for events. A listener is registered under a scope, and cancelling the
scope is the only way to be rid of it. Registrations whose scope is cancelled
are dropped whenever the list is touched; they are never called.

A delivery takes the registrations that are live when it starts, and looks at
each scope once more when its turn comes, because a handler may cancel scopes,
and may register, or deliver, itself.
-/

namespace PagePilot

/-- A handler under a scope. -/
structure Registration (H : Type) where
  scope : ScopeId
  handler : H
deriving Repr

/-- The registrations, in the order of their making. -/
structure Listeners (H : Type) where
  registrations : List (Registration H)
deriving Repr

namespace Listeners

variable {H : Type}

/-- No registrations. -/
def empty : Listeners H :=
  ⟨[]⟩

/-- The registrations whose scope is not cancelled. -/
def live (scopes : Scopes) (l : Listeners H) : List (Registration H) :=
  l.registrations.filter fun r => !scopes.isCancelled r.scope

/-- Drops the registrations whose scope is cancelled. -/
def prune (scopes : Scopes) (l : Listeners H) : Listeners H :=
  ⟨l.live scopes⟩

/-- Registers a handler; a scope that is cancelled already registers nothing. -/
def listen (scopes : Scopes) (scope : ScopeId) (handler : H) (l : Listeners H) : Listeners H :=
  if scopes.isCancelled scope then l.prune scopes
  else ⟨l.live scopes ++ [Registration.mk scope handler]⟩

/-- How many registrations are live. -/
def liveCount (scopes : Scopes) (l : Listeners H) : Nat :=
  (l.live scopes).length

/-- Calls the handlers of a delivery one after the other, passing over those
whose scope is cancelled by the time of their turn. `σ` is all that handlers can
change, and `scopesOf` the scopes in it. -/
def callAll (scopesOf : σ → Scopes) (call : H → σ → σ) : List (Registration H) → σ → σ
  | [], state => state
  | r :: rest, state =>
      callAll scopesOf call rest
        (if (scopesOf state).isCancelled r.scope then state else call r.handler state)

end Listeners

end PagePilot
