import Mathlib.Logic.Relation
import WorksheetBar.Host.Background

/-!
# How a host and its background move

A host works on one thread, and its tasks go on beside it.  Between any two things the
thread does, also in the middle of pumping or settling, the background may move: a task
goes on and the service replies whatever it likes, more permits come to the gate, or
the provider changes its mind.

A **scene** is a host together with what its thread is at.  `Call` lists what an idle
host can be called for, `Work` what its thread then does until it is idle again, and
`Progress` what may happen around it.  Mounting, unmounting, looking at the provider and
handling the user are done at once; pumping and settling are taken apart, so that every
interleaving of them with the background is a sequence of moves.
-/

namespace WorksheetBar

/-- What the thread of a host is at: nothing; taking in answers, by itself or at the end
of a round of settling; at the head of the loop of settling, with so many rounds behind
it; or waiting, in a round of settling, for the tasks that are left, by their places. -/
inductive Activity where
  | idle
  | pumping (round : Option Nat)
  | settling (rounds : Nat)
  | awaiting (round : Nat) (left : List Nat)
  deriving DecidableEq, Repr

/-- The rounds of settling that have begun. -/
def Activity.rounds : Activity → Nat
  | idle | pumping none => 0
  | pumping (some round) | awaiting round _ => round
  | settling rounds => rounds

/-- A host and what its thread is at. -/
structure Scene where
  host : Host
  activity : Activity

namespace Host

/-- Takes every task out of the hold of the host, to wait for it. -/
def takeTasks (host : Host) : Host :=
  { host with tasks := host.tasks.map fun task => { task with isHeld := false } }

/-- Passes an answer to the shell. -/
def receive (host : Host) (completion : Completion) : Host :=
  (apply (.runtime (.fetched completion.ticket completion.result)) host).1

/-- What may happen around a host. -/
inductive Progress : Host → Host → Prop
  | advance (host : Host) (backend : Http.Backend) (index : Nat) :
      Progress host (advance backend host index)
  | runBackground (host : Host) (backend : Http.Backend) :
      Progress host (host.runBackground backend)
  | release (host : Host) (count : Nat) : Progress host (host.release count)
  | decide (host : Host) (value : Bool) :
      Progress host { host with provider := { host.provider with signedIn := value } }

/-- What an idle host can be called for. -/
inductive Call : Host → Scene → Prop
  | mount (host : Host) : Call host ⟨host.mount.1, .idle⟩
  | unmount (host : Host) : Call host ⟨host.unmount.1, .idle⟩
  | syncSignedIn (host : Host) : Call host ⟨host.syncSignedIn.1, .idle⟩
  | handle (host : Host) (action : UserAction) : Call host ⟨(handle action host).1, .idle⟩
  | pump (host : Host) : Call host ⟨host.letGo, .pumping none⟩
  | settle (host : Host) : Call host ⟨host, .settling 0⟩

end Host

namespace Scene

/-- What the thread of a host does until it is idle again. -/
inductive Work : Scene → Scene → Prop
  | receive {host : Host} {completion : Host.Completion} {rest : List Host.Completion}
      (round : Option Nat) (hinbox : host.inbox = completion :: rest) :
      Work ⟨host, .pumping round⟩
        ⟨Host.receive { host with inbox := rest } completion, .pumping round⟩
  | pumped {host : Host} (hinbox : host.inbox = []) :
      Work ⟨host, .pumping none⟩ ⟨host, .idle⟩
  | gathered {host : Host} (round : Nat) (hinbox : host.inbox = []) :
      Work ⟨host, .pumping (some round)⟩ ⟨host, .settling round⟩
  | take {host : Host} (rounds : Nat) (hheld : host.held ≠ []) :
      Work ⟨host, .settling rounds⟩ ⟨host.takeTasks, .awaiting (rounds + 1) host.held⟩
  /-- A task that was waited for is over; its death is reported. -/
  | awaited {host : Host} {index : Nat} {task : Host.Task} (round : Nat) (left : List Nat)
      (htask : host.tasks[index]? = some task) (hover : task.stage.isOver = true) :
      Work ⟨host, .awaiting round (index :: left)⟩
        ⟨if task.stage = .died then host.report .taskFailed else host, .awaiting round left⟩
  | gather (host : Host) (round : Nat) :
      Work ⟨host, .awaiting round []⟩ ⟨host.letGo, .pumping (some round)⟩
  | settled {host : Host} (rounds : Nat) (hheld : host.held = []) :
      Work ⟨host, .settling rounds⟩ ⟨host, .idle⟩

/-- One move, of the host or of its background. -/
inductive Move : Scene → Scene → Prop
  | call {host : Host} {scene : Scene} (hcall : Host.Call host scene) : Move ⟨host, .idle⟩ scene
  | work {scene next : Scene} (hwork : Work scene next) : Move scene next
  | progress {host next : Host} (activity : Activity) (hprogress : Host.Progress host next) :
      Move ⟨host, activity⟩ ⟨next, activity⟩

/-- Any number of moves. -/
abbrev Moves : Scene → Scene → Prop := Relation.ReflTransGen Move

end Scene

/-- A host that has done nothing yet, on a terminal or not, behind a gate or not. -/
inductive Host.Starts : Host → Prop
  | fresh (config : Config) (provider : Host.Provider) (isTerminal : Bool)
      (permits : Option Nat) :
      Starts { Host.fresh config provider with isTerminal, permits }

/-- The scenes that a host can come to. -/
def Scene.Reachable (scene : Scene) : Prop :=
  ∃ host, Host.Starts host ∧ Scene.Moves ⟨host, .idle⟩ scene

/-- What can be reached can be left by any move. -/
theorem Scene.Reachable.move {scene next : Scene} (h : scene.Reachable)
    (hmove : Scene.Move scene next) : next.Reachable := by
  obtain ⟨host, hstarts, hmoves⟩ := h
  exact ⟨host, hstarts, hmoves.tail hmove⟩

end WorksheetBar
