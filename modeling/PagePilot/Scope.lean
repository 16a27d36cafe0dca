/-!
# PagePilot.Scope

Cancellation scopes. A scope may have a parent; cancelling a scope cancels
everything derived from it, and a scope derived from a cancelled one is
cancelled from the start. A cancelled scope stays so.

The scopes are a list, a scope being its index, and a child always comes after
its parent. So one pass from left to right spreads a cancellation to all
descendants: when it reaches a scope, the parent has had its turn.
-/

namespace PagePilot

/-- A scope, by its position among all scopes. -/
abbrev ScopeId := Nat

/-- What is known of one scope. -/
structure ScopeNode where
  parent : Option ScopeId
  cancelled : Bool
deriving Repr, DecidableEq, Inhabited

/-- All scopes, in the order of their making. -/
structure Scopes where
  nodes : List ScopeNode
deriving Repr, DecidableEq, Inhabited

namespace Scopes

/-- No scopes. -/
def empty : Scopes :=
  ⟨[]⟩

/-- Whether a node of a list is cancelled. -/
def cancelledIn (nodes : List ScopeNode) (id : ScopeId) : Bool :=
  match nodes[id]? with
  | some node => node.cancelled
  | none => false

/-- Whether a scope is cancelled. -/
def isCancelled (s : Scopes) (id : ScopeId) : Bool :=
  cancelledIn s.nodes id

/-- The id that the next scope gets. -/
def next (s : Scopes) : ScopeId :=
  s.nodes.length

/-- A scope of its own. -/
def addRoot (s : Scopes) : Scopes :=
  ⟨s.nodes ++ [{ parent := none, cancelled := false }]⟩

/-- A scope that is cancelled together with `parent`. -/
def addChild (s : Scopes) (parent : ScopeId) : Scopes :=
  ⟨s.nodes ++ [{ parent := some parent, cancelled := s.isCancelled parent }]⟩

/-- Whether a cancellation of `id` reaches a node at position `done.length`, with
the nodes in front of it already treated. -/
def reached (id : ScopeId) (done : List ScopeNode) (node : ScopeNode) : Bool :=
  node.cancelled || done.length = id ||
    match node.parent with
    | some parent => cancelledIn done parent
    | none => false

/-- The nodes after a cancellation of `id`; `done` are those already treated. -/
def spread (id : ScopeId) (done : List ScopeNode) : List ScopeNode → List ScopeNode
  | [] => done
  | node :: rest => spread id (done ++ [{ node with cancelled := reached id done node }]) rest

/-- Cancels a scope and all that derive from it. -/
def cancel (s : Scopes) (id : ScopeId) : Scopes :=
  ⟨spread id [] s.nodes⟩

end Scopes

end PagePilot
