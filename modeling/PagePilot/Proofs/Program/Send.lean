import PagePilot.Operation.Execute
import PagePilot.Proofs.Program.Path
/-!
# PagePilot.Proofs.Program.Send

The paths of a send. A send is written as a chain of named programs, one for each act
that is still to be done, and `Sending` lists where a send can stand: the deeds so far
with the program that is left. What is proved of sends is a case analysis of `Sending`.
-/

namespace PagePilot

open Wire

namespace Send

variable (ctx : Option Context) (session : Option SessionId) (method : String) (params : Json)

/-! ### The chain -/

/-- The request that a send writes under an id. -/
def request (id : Nat) : Request :=
  { id, method, params, sessionId := session }

/-- The last act of a send: it waits for the answer. -/
def awaiting (id : Nat) : Program Reply :=
  .act (.awaitReply ctx id) .done

/-- A send that takes its request back, and fails. -/
def yielding (id : Nat) (e : Error) : Program Reply :=
  .act (.unpark id) fun _ => .done (.error e)

/-- A send that is about to write. -/
def writing (id : Nat) : Program Reply :=
  .act (.write (request session method params id)) fun
    | .error e => yielding id e
    | .ok () => awaiting ctx id

/-- A send that has parked its request, and looks at the connection once more. -/
def lookingAgain (id : Nat) : Program Reply :=
  .act .isClosed fun
    | true => yielding id .connectionClosed
    | false => writing ctx session method params id

/-- A send that was given its id. -/
def parking (id : Nat) : Program Reply :=
  .act (.park id) fun _ => lookingAgain ctx session method params id

/-- A send that has found the connection open. -/
def numbering : Program Reply :=
  .act .allocate (parking ctx session method params)

/-- A send after its look at the context. -/
def looking : Program Reply :=
  .act .isClosed fun
    | true => .done (.error .connectionClosed)
    | false => numbering ctx session method params

/-- A send from its start. -/
def tree : Program Reply :=
  match ctx with
  | none => looking none session method params
  | some c => .act (.endOf c) fun
    | some e => .done (.error e)
    | none => looking (some c) session method params

theorem act_congr {a : Act} {f g : a.Reply → Program α} (h : ∀ r, f r = g r) :
    Program.act a f = .act a g :=
  congrArg (Program.act a) (funext h)

/-- `send` is the chain of the programs above. -/
theorem send_run : (send ctx session method params).run = tree ctx session method params := by
  rcases ctx with _ | c
  case' some =>
    refine act_congr ?_
    intro ended
    rcases ended with _ | e
    case' some => rfl
  -- With or without a context, the rest of the chain is the same.
  all_goals
    refine act_congr ?_
    intro closed
    cases closed with
    | true => rfl
    | false =>
      refine act_congr fun id => act_congr fun _ => act_congr fun closed => ?_
      cases closed with
      | true => rfl
      | false =>
        refine act_congr ?_
        intro written
        cases written with
        | error e => rfl
        | ok _ => exact act_congr fun reply => by cases reply <;> rfl

/-! ### Where a send can stand -/

/-- The deeds of a send before it looks at the connection. -/
def looked : List Deed :=
  match ctx with
  | none => []
  | some c => [⟨.endOf c, none⟩]

/-- The deeds of a send between its look at the context and the parking of its request. -/
def parked (id : Nat) : List Deed :=
  [⟨.isClosed, false⟩, ⟨.allocate, id⟩, ⟨.park id, ()⟩]

/-- The deeds of a send between its look at the context and the writing of its
request. -/
def written (id : Nat) (result : Except Error Unit) : List Deed :=
  parked id ++ [⟨.isClosed, false⟩, ⟨.write (request session method params id), result⟩]

/-- Where a send can stand: what it has done, and what is left of it. -/
inductive Sending : List Deed → Program Reply → Prop
  | start : Sending [] (tree ctx session method params)
  /-- The context has ended before anything was done. -/
  | ended (c : Context) (e : Error) (h : ctx = some c) :
      Sending [⟨.endOf c, some e⟩] (.done (.error e))
  | looking : Sending (looked ctx ++ []) (looking ctx session method params)
  /-- The connection is closed, and nothing was done. -/
  | refused : Sending (looked ctx ++ [⟨.isClosed, true⟩]) (.done (.error .connectionClosed))
  | numbering :
      Sending (looked ctx ++ [⟨.isClosed, false⟩]) (numbering ctx session method params)
  | parking (id : Nat) :
      Sending (looked ctx ++ [⟨.isClosed, false⟩, ⟨.allocate, id⟩])
        (parking ctx session method params id)
  | lookingAgain (id : Nat) :
      Sending (looked ctx ++ parked id) (lookingAgain ctx session method params id)
  | turningBack (id : Nat) :
      Sending (looked ctx ++ (parked id ++ [⟨.isClosed, true⟩]))
        (yielding id .connectionClosed)
  /-- The connection has closed around the parking. -/
  | turnedBack (id : Nat) :
      Sending (looked ctx ++ (parked id ++ [⟨.isClosed, true⟩, ⟨.unpark id, ()⟩]))
        (.done (.error .connectionClosed))
  | writing (id : Nat) :
      Sending (looked ctx ++ (parked id ++ [⟨.isClosed, false⟩]))
        (writing ctx session method params id)
  | failing (id : Nat) (e : Error) :
      Sending (looked ctx ++ written session method params id (.error e)) (yielding id e)
  /-- The request could not be written. -/
  | failed (id : Nat) (e : Error) :
      Sending (looked ctx ++ (written session method params id (.error e) ++ [⟨.unpark id, ()⟩]))
        (.done (.error e))
  | awaiting (id : Nat) :
      Sending (looked ctx ++ written session method params id (.ok ())) (awaiting ctx id)
  /-- The wait has ended, with the answer or without. -/
  | answered (id : Nat) (reply : Reply) :
      Sending (looked ctx ++
          (written session method params id (.ok ()) ++ [⟨.awaitReply ctx id, reply⟩]))
        (.done reply)

/-- How a send can end: what it has done, and its result. -/
inductive Ending : List Deed → Reply → Prop
  /-- The context has ended before anything was done. -/
  | ended (c : Context) (e : Error) (h : ctx = some c) : Ending [⟨.endOf c, some e⟩] (.error e)
  /-- The connection is closed, and nothing was done. -/
  | refused : Ending (looked ctx ++ [⟨.isClosed, true⟩]) (.error .connectionClosed)
  /-- The connection has closed around the parking. -/
  | turnedBack (id : Nat) :
      Ending (looked ctx ++ (parked id ++ [⟨.isClosed, true⟩, ⟨.unpark id, ()⟩]))
        (.error .connectionClosed)
  /-- The request could not be written. -/
  | failed (id : Nat) (e : Error) :
      Ending (looked ctx ++ (written session method params id (.error e) ++ [⟨.unpark id, ()⟩]))
        (.error e)
  /-- The wait has ended, with the answer or without. -/
  | answered (id : Nat) (reply : Reply) :
      Ending (looked ctx ++
          (written session method params id (.ok ()) ++ [⟨.awaitReply ctx id, reply⟩]))
        reply

variable {ctx session method params} {path : List Deed} {q : Program Reply}

theorem sending_of_looking (h : (Send.looking ctx session method params).Leads path q) :
    Sending ctx session method params (looked ctx ++ path) q := by
  cases h with
  | nil => exact .looking
  | @cons _ _ closed _ _ h =>
  cases closed with
  | true =>
    obtain ⟨rfl, rfl⟩ := h.of_done
    exact .refused
  | false =>
  cases h with
  | nil => exact .numbering
  | @cons _ _ id _ _ h =>
  cases h with
  | nil => exact .parking id
  | @cons _ _ _ _ _ h =>
  cases h with
  | nil => exact .lookingAgain id
  | @cons _ _ closed _ _ h =>
  cases closed with
  | true =>
    cases h with
    | nil => exact .turningBack id
    | cons h =>
      obtain ⟨rfl, rfl⟩ := h.of_done
      exact .turnedBack id
  | false =>
  cases h with
  | nil => exact .writing id
  | @cons _ _ result _ _ h =>
  cases result with
  | error e =>
    cases h with
    | nil => exact .failing id e
    | cons h =>
      obtain ⟨rfl, rfl⟩ := h.of_done
      exact .failed id e
  | ok _ =>
    cases h with
    | nil => exact .awaiting id
    | @cons _ _ reply _ _ h =>
      obtain ⟨rfl, rfl⟩ := h.of_done
      exact .answered id _

/-- A send stands nowhere but where `Sending` says. -/
theorem sending_of_leads (h : (send ctx session method params).run.Leads path q) :
    Sending ctx session method params path q := by
  rw [send_run] at h
  cases ctx with
  | none => simpa [looked] using sending_of_looking h
  | some c =>
    cases h with
    | nil => exact .start
    | @cons _ _ ended _ _ h =>
    cases ended with
    | some e =>
      obtain ⟨rfl, rfl⟩ := h.of_done
      exact .ended c e rfl
    | none => simpa [looked] using sending_of_looking h

/-- A send consists of seven acts at most. -/
theorem length_of_leads (h : (send ctx session method params).run.Leads path q) :
    path.length ≤ 7 := by
  have hs := sending_of_leads h
  have hlooked : (looked ctx).length ≤ 1 := by cases ctx <;> simp [looked]
  cases hs <;> simp [written, parked] <;> omega

/-- A send that has got a reply is over. -/
theorem done_of_wait {id : Nat} {reply : Reply}
    (h : (send ctx session method params).run.Leads path q)
    (hmem : ⟨.awaitReply ctx id, reply⟩ ∈ path) : q = .done reply := by
  cases sending_of_leads h with
  | answered id' reply' =>
    cases ctx <;> simp [looked, written, parked] at hmem <;> rw [hmem.2]
  | _ => cases ctx <;> simp_all [looked, written, parked]

/-- A send ends in no other way than `Ending` says. -/
theorem ending_of_leads {result : Reply}
    (h : (send ctx session method params).run.Leads path (.done result)) :
    Ending ctx session method params path result := by
  have hs := sending_of_leads h
  generalize hq : Program.done result = q at hs
  cases hs with
  | start =>
    exfalso
    cases ctx <;> cases hq
  | ended c e hc =>
    cases hq
    exact .ended c e hc
  | refused =>
    cases hq
    exact .refused
  | turnedBack id =>
    cases hq
    exact .turnedBack id
  | failed id e =>
    cases hq
    exact .failed id e
  | answered id reply =>
    cases hq
    exact .answered id _
  | looking | numbering | parking | lookingAgain | turningBack | writing | failing | awaiting =>
    cases hq

end Send

end PagePilot
