import PagePilot.Console
import PagePilot.Proofs.Scenario
/-!
# PagePilot.Proofs.Console

The program as it is started from a command line. What an invocation comes to is read off the last
world of an admissible run in which it is the only task (`Console.exists_run`), so what holds of
all admissible runs holds of every start of the program whose words are understood.
-/

namespace PagePilot

namespace Scenario.Rehearsal

/-- The context of the only task. -/
def context (timeout : Nat) : Context where
  scope := 0
  deadline := Invocation.deadline timeout 0

/-- A run in which a program is rehearsed, with what it leaves behind. -/
structure Of (network : Network) (program : Program Outcome) (r : Run) (rehearsal : Rehearsal) :
    Prop where
  admissible : r.Admissible
  start : r.start = .initial [] network
  begins : [.newScope none, .spawn program] <+: r.transitions
  leaves : rehearsal =
    { result := resultOf r.last 0
      printed := printedBy r.last 0
      logged := loggedIn r.last.trace
      visited := visitedIn r.last.trace
      requests := written r.last 0
      files := r.last.files }

theorem goes_expire (deadline : Option Nat) (s : State) : s.Goes (expire deadline s) := by
  unfold expire
  split
  · split
    · exact (s.goes_advance _).trans (State.goes_settleWithAnswers _ _ _)
    · exact .refl s
  · exact .refl s

theorem exists_run (network : Network) (replies : Replies) (timeout : Nat)
    (program : Context → CommandOp Unit)
    (horderly : ∀ {known : ScopeId → Prop} {ctx : Context}, known ctx.scope →
      (program ctx).run.Orderly known) :
    ∃ r, Of network (program (context timeout)).task r (run network replies timeout program) := by
  let start : State :=
    .initial { reading := false, refused := [], replies, endpoint := none, network }
  let p := (program (context timeout)).task
  let begun := (start.apply (.newScope none)).spawn taskName p
  have hstart : Run.ComesTo ⟨.initial [] network, []⟩ start.world :=
    ⟨⟨⟨_, _, rfl⟩, nofun⟩, rfl, nofun, nofun⟩
  have hscope := hstart.isContext_newScope none
  have hmade := hstart.apply (t := .newScope none) trivial nofun nofun
  have hrun : (program (context timeout)).run.Orderly
      (World.IsContext ((World.initial [] network).apply (.newScope none))) := horderly hscope
  have hspawned := hmade.apply (t := .spawn p) (hrun.bind fun _ => .done _) nofun
    fun q hq => by cases hq; exact handsOpened_invocation _
  have hbegun : begun.Kept ⟨.initial [] network, [.newScope none, .spawn p]⟩ :=
    ⟨hspawned, nofun, nofun⟩
  have hgoes : begun.Goes (expire (context timeout).deadline (rest 0 begun)) :=
    (State.goes_settleWithAnswers _ _ _).trans (goes_expire _ _)
  obtain ⟨more, hmore⟩ := hgoes _ hbegun
  refine ⟨_, hmore.comes.admissible, rfl, List.prefix_append _ _, ?_⟩
  rw [hmore.comes.last]
  rfl

end Scenario.Rehearsal

namespace Console

open Scenario.Rehearsal in
/-- A run in which an invocation is the only task, and what the program ends with. -/
structure Ran (network : Network) (logging : Option String) (i : Invocation) (r : Run)
    (ending : Ending) : Prop where
  admissible : r.Admissible
  start : r.start = .initial [] network
  begins : [.newScope none, .spawn (i.runLogged (context i.timeout)).task] <+: r.transitions
  exitCode : ending.exitCode = exitCodeOf (resultOf r.last 0)
  output : ending.output = Scenario.printedBy r.last 0
  log : ending.log = logLines logging i.verbose (loggedIn r.last.trace)

/-- Whatever the program is started with, if its words are understood, all that comes of it comes of
an admissible run. -/
theorem exists_run (network : Network) (replies : Scenario.Replies) (s : Surroundings)
    {words : List String} {i : Invocation} (h : CommandLine.read s.environment words = .ok i) :
    ∃ r, Ran network s.logging i r (run network replies s words) := by
  obtain ⟨r, hr⟩ := Scenario.Rehearsal.exists_run network replies i.timeout i.runLogged
    (runLogged_orderly i)
  have hrun : run network replies s words = runInvocation network replies s.logging i := by
    rw [run, h]
  refine ⟨r, hr.admissible, hr.start, hr.begins, ?_, ?_, ?_⟩ <;>
    rw [hrun, runInvocation, hr.leaves]

end Console

end PagePilot
