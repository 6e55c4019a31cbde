import WorksheetBar.Host.Event
import WorksheetBar.Shell.Basic

/-!
# The host of a shell

A host owns a shell and carries out its effects.  Requests run as tasks in the
background; an answer to a request for a profile comes back through an inbox, and
the shell hears of it when the host empties that.  The host also holds the word on
whether the user is signed in, and tells the shell when asked to.

Tasks are kept in the order in which they were started.  The host holds on to a task
until it has seen that the task is over.
-/

namespace WorksheetBar

namespace Host

/-- Who says whether the user is signed in.  A sticky provider stays signed in
whatever it is asked. -/
structure Provider where
  signedIn : Bool
  isSticky : Bool := false
  deriving DecidableEq, Repr

/-- The provider after it was asked to end the session. -/
def Provider.signOut (provider : Provider) : Provider :=
  { provider with signedIn := provider.signedIn && provider.isSticky }

/-- What a task is for. -/
inductive Job where
  | fetch (ticket : Ticket) (path : String)
  | dispatch (command path : String)
  deriving DecidableEq, Repr

/-- How far a task has come.  A task that waits has made its request and stands at
the gate; one that is let through has been given a permit and goes on when it is its
turn. -/
inductive Stage where
  | spawned
  | waiting
  | letThrough
  | ended
  | died
  deriving DecidableEq, Repr

/-- Whether a task is over. -/
def Stage.isOver : Stage → Bool
  | ended | died => true
  | spawned | waiting | letThrough => false

/-- A task in the background, and whether the host still holds on to it. -/
structure Task where
  job : Job
  stage : Stage := .spawned
  isHeld : Bool := true
  deriving DecidableEq, Repr

/-- The answer to a request for a profile. -/
structure Completion where
  ticket : Ticket
  result : Except FetchError Profile

/-- What the host should do about the event it has just passed on. -/
structure Outcome where
  preventDefault : Bool := false
  redraw : Bool := false
  deriving DecidableEq, Repr

/-- Both outcomes together. -/
def Outcome.merge (a b : Outcome) : Outcome :=
  ⟨a.preventDefault || b.preventDefault, a.redraw || b.redraw⟩

end Host

/-- A host.  `relayed` is the number of the newest journal entry it has reported;
`line` holds the tasks that are ready to go on, by their place among the tasks;
`permits` is how many requests for profiles the gate still lets through, if there is
a gate.  A terminal host notes navigations and the loss of the session itself. -/
structure Host where
  shell : Shell
  provider : Host.Provider
  isTerminal : Bool := false
  isAlive : Bool := true
  relayed : Nat := 0
  tasks : List Host.Task := []
  line : List Nat := []
  inbox : List Host.Completion := []
  permits : Option Nat := none
  gets : Nat := 0
  posts : Nat := 0
  mostGets : Nat := 0
  record : List Host.Happening := []

namespace Host

/-- A host that has done nothing yet. -/
def fresh (config : Config) (provider : Provider) : Host :=
  { shell := .fresh config provider.signedIn, provider }

/-- Notes something that can be seen. -/
def note (host : Host) (happening : Happening) : Host :=
  { host with record := host.record ++ [happening] }

/-- Reports an event. -/
def report (host : Host) (event : Event) : Host := host.note (.reported event)

/-- Starts a task. -/
def spawn (host : Host) (job : Job) : Host :=
  { host with tasks := host.tasks ++ [{ job }], line := host.line ++ [host.tasks.length] }

/-- Reports the journal entries that have not been reported yet. -/
def relay (host : Host) : Host :=
  let news := (host.shell.journal.since host.relayed).map fun entry =>
    Happening.reported (.relayed entry)
  { host with
    record := host.record ++ news
    relayed :=
      match host.shell.journal.newest? with
      | some entry => entry.seq
      | none => host.relayed }

/-- The destination the host went to last. -/
def lastNavigation? (host : Host) : Option String :=
  (host.record.filterMap Happening.path?).getLast?

end Host

end WorksheetBar
