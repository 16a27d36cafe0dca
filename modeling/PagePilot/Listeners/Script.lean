import PagePilot.Listeners.Basic
import PagePilot.Wire.Event
/-!
# PagePilot.Listeners.Script

Scripted runs of one listener list, with handlers that act themselves: the first
time such a handler is called, it runs a script of its own, which may register,
cancel and deliver in turn.

Scopes are called by names in a script; a name that is not known yet makes a new
scope. A script that has run is gone, so every step of every script is run at
most once, and the number of all steps bounds the depth of calls.
-/

namespace PagePilot.Listeners.Script

open Wire (Event)

/-- A step of a script. -/
inductive Step
  /-- Makes a scope, derived from another one or on its own. -/
  | scope (name : String) (parent : Option String)
  | cancel (name : String)
  /-- Registers a handler, with the script that its first call runs. -/
  | listen (scope : String) (handler : String) (next : List Step)
  | deliver (event : Event)

mutual
/-- How many steps a step holds, itself included. -/
def Step.size : Step → Nat
  | .listen _ _ next => sizeOfSteps next + 1
  | _ => 1

/-- How many steps a script holds. -/
def sizeOfSteps : List Step → Nat
  | [] => 0
  | step :: rest => Step.size step + sizeOfSteps rest
end

/-- A registered handler: its name, and where its script is kept. -/
structure Handler where
  name : String
  script : Nat
deriving Repr

/-- The state of a run. -/
structure State where
  scopes : Scopes
  /-- The scopes that have names. -/
  names : List (String × ScopeId)
  listeners : Listeners Handler
  /-- For each registered handler the script that it has not run yet. -/
  scripts : List (List Step)
  /-- The calls so far: which handler saw an event of which method. -/
  seen : List (String × String)

namespace State

/-- Nothing has happened. -/
def initial : State :=
  { scopes := .empty, names := [], listeners := .empty, scripts := [], seen := [] }

/-- The scope of a name, if it has one. -/
def scopeOf? (s : State) (name : String) : Option ScopeId :=
  s.names.lookup name

/-- Gives a name to the next scope. -/
def addScope (s : State) (name : String) (parent : Option ScopeId) : State :=
  { s with
    scopes := match parent with
      | some p => s.scopes.addChild p
      | none => s.scopes.addRoot
    names := (name, s.scopes.next) :: s.names.filter (fun entry => entry.1 ≠ name) }

/-- The scope of a name, made if there is none. -/
def scopeNamed (s : State) (name : String) : ScopeId × State :=
  match s.scopeOf? name with
  | some id => (id, s)
  | none => (s.scopes.next, s.addScope name none)

/-- The names of cancelled scopes. -/
def cancelledNames (s : State) : List String :=
  (s.names.filter fun entry => s.scopes.isCancelled entry.2).map (·.1)

/-- How many registrations are live. -/
def liveCount (s : State) : Nat :=
  s.listeners.liveCount s.scopes

end State

mutual
/-- Runs one step, with calls nested at most so deep. -/
def runStep : Nat → Step → State → State
  | _, .scope name none, s => s.addScope name none
  | _, .scope name (some parent), s =>
      let (p, s) := s.scopeNamed parent
      s.addScope name (some p)
  | _, .cancel name, s =>
      let (id, s) := s.scopeNamed name
      { s with scopes := s.scopes.cancel id }
  | _, .listen scope handler next, s =>
      let (id, s) := s.scopeNamed scope
      { s with
        listeners := s.listeners.listen s.scopes id ⟨handler, s.scripts.length⟩
        scripts := s.scripts ++ [next] }
  | depth, .deliver event, s =>
      let s := { s with listeners := s.listeners.prune s.scopes }
      s.listeners.registrations |> callAllScripts depth event s

/-- Calls the handlers of one delivery in order. -/
def callAllScripts : Nat → Event → State → List (Registration Handler) → State
  | 0, _, s, _ => s
  | depth + 1, event, s, rs =>
      callAll State.scopes
        (fun h s =>
          let script := (s.scripts[h.script]?).getD []
          runSteps depth script
            { s with
              scripts := s.scripts.set h.script []
              seen := s.seen ++ [(h.name, event.method)] })
        rs s

/-- Runs steps one after the other. -/
def runSteps : Nat → List Step → State → State
  | _, [], s => s
  | depth, step :: rest, s => runSteps depth rest (runStep depth step s)
end

/-- What can be seen after a step: the calls made in it, the number of live
registrations, and the names of the cancelled scopes. -/
structure Report where
  seen : List (String × String)
  live : Nat
  cancelled : List String

/-- Runs a script and reports after each of its steps. -/
def reports (depth : Nat) : List Step → State → List Report
  | [], _ => []
  | step :: rest, s =>
      let after := runStep depth step { s with seen := [] }
      { seen := after.seen, live := after.liveCount, cancelled := after.cancelledNames }
        :: reports depth rest after

/-- The reports of a whole script. -/
def run (steps : List Step) : List Report :=
  reports (sizeOfSteps steps + 1) steps .initial

end PagePilot.Listeners.Script
