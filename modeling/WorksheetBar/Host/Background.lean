import WorksheetBar.Dispatch
import WorksheetBar.Host.Apply
import WorksheetBar.Profile.Fetch

/-!
# The background

Tasks make progress one at a time, in the order in which they became ready.  A task
that asks for a profile has to pass the gate, if there is one, before it is
answered; it waits there without keeping others from going on.

* `advance_of_over` — nothing happens to a task that is over.
-/

namespace WorksheetBar.Host

/-- Puts a task into another stage. -/
def setStage (host : Host) (index : Nat) (stage : Stage) : Host :=
  { host with tasks := host.tasks.modify index fun task => { task with stage := stage } }

/-- How many requests for profiles are under way. -/
def getsUnderWay (host : Host) : Nat :=
  host.tasks.countP fun task => task.stage == .waiting || task.stage == .letThrough

/-- Hands in the answer to a request for a profile, if anybody is left to take it. -/
def complete (host : Host) (completion : Completion) : Host :=
  if host.isAlive then { host with inbox := host.inbox ++ [completion] }
  else host.report (.answerUnwanted completion.ticket.number)

/-- The request for a profile is answered. -/
def answerFetch (backend : Http.Backend) (host : Host) (index : Nat) (ticket : Ticket)
    (path : String) : Host :=
  let reply := backend.get host.gets path
  let host := { host with gets := host.gets + 1 }
  match Profile.ofReply? reply with
  | none => host.setStage index .died
  | some result => (host.complete ⟨ticket, result⟩).setStage index .ended

/-- A profile is asked for, up to the gate. -/
def beginFetch (backend : Http.Backend) (host : Host) (index : Nat) (ticket : Ticket)
    (path : String) : Host :=
  let host := (host.report (.fetching path)).note (.requested (.get path))
  let host := { host with mostGets := max host.mostGets (host.getsUnderWay + 1) }
  match host.permits with
  | none => answerFetch backend host index ticket path
  | some 0 => host.setStage index .waiting
  | some (permits + 1) =>
    answerFetch backend { host with permits := some permits } index ticket path

/-- A command is sent and answered. -/
def sendCommand (backend : Http.Backend) (host : Host) (index : Nat)
    (command path : String) : Host :=
  let body := Dispatch.body command
  let host := host.note (.requested (.post path body))
  let reply := backend.post host.posts path body
  let host := { host with posts := host.posts + 1 }
  match Dispatch.ofReply? reply with
  | none => host.setStage index .died
  | some (.ok ()) => (host.report (.accepted command)).setStage index .ended
  | some (.error error) =>
    (host.report (.refused command error.message)).setStage index .ended

/-- A task goes on, if it can. -/
def advance (backend : Http.Backend) (host : Host) (index : Nat) : Host :=
  match host.tasks[index]? with
  | none => host
  | some task =>
    match task.stage, task.job with
    | .spawned, .fetch ticket path => beginFetch backend host index ticket path
    | .letThrough, .fetch ticket path => answerFetch backend host index ticket path
    | .spawned, .dispatch command path => sendCommand backend host index command path
    | _, _ => host

/-- Every task goes on that is ready. -/
def runBackground (backend : Http.Backend) (host : Host) : Host :=
  host.line.foldl (advance backend) { host with line := [] }

/-- Lets tasks through the gate that wait there, the first to come first, and leaves
the permits that nobody needs. -/
def admitFrom : Nat → Nat → Host → Host
  | _, 0, host => host
  | index, more + 1, host =>
    match host.permits, host.tasks[index]? with
    | some (permits + 1), some task =>
      let host :=
        if task.stage = .waiting then
          { host.setStage index .letThrough with
            permits := some permits
            line := host.line ++ [index] }
        else host
      admitFrom (index + 1) more host
    | _, _ => host

/-- Adds permits to the gate. -/
def release (host : Host) (count : Nat) : Host :=
  let host := { host with permits := host.permits.map (· + count) }
  admitFrom 0 host.tasks.length host

/-- Stops holding on to tasks that are over, without a look at how they ended. -/
def letGo (host : Host) : Host :=
  { host with
    tasks := host.tasks.map fun task =>
      if task.stage.isOver then { task with isHeld := false } else task }

/-- Passes on the answers that have arrived. -/
def drain : List Completion → Step
  | [] => fun host => (host, {})
  | completion :: rest =>
    (apply (.runtime (.fetched completion.ticket completion.result))).then (drain rest)

/-- Takes in what has arrived, without waiting for more. -/
def pump : Step := fun host =>
  let host := host.letGo
  drain host.inbox { host with inbox := [] }

/-- Waits for a task; a death is reported. -/
def await (backend : Http.Backend) (host : Host) (index : Nat) : Host :=
  let isOver := match host.tasks[index]? with
    | some task => task.stage.isOver
    | none => true
  let host := if isOver then host else host.runBackground backend
  match host.tasks[index]? with
  | some task => if task.stage = .died then host.report .taskFailed else host
  | none => host

/-- The tasks the host holds on to, by their places. -/
def held (host : Host) : List Nat :=
  (List.range host.tasks.length).filter fun index =>
    match host.tasks[index]? with
    | some task => task.isHeld
    | none => false

/-- Waits for every task and takes in what has arrived, again and again until there
is nothing to wait for, but at most so many times. -/
def settleRounds (backend : Http.Backend) : Nat → Step
  | 0 => fun host => (host, {})
  | rounds + 1 => fun host =>
    match host.held with
    | [] => (host, {})
    | held =>
      let taken := { host with tasks := host.tasks.map fun task => { task with isHeld := false } }
      let host := held.foldl (await backend) taken
      (Step.then pump (settleRounds backend rounds)) host

/-- Waits for all that goes on in the background and takes in what comes of it.
There is an end to it: an answer makes at most one more request, and its answer none. -/
def settle (backend : Http.Backend) : Step := fun host =>
  settleRounds backend (host.tasks.length + 2) host

/-- The host is gone; what goes on in the background goes on. -/
def drop (host : Host) : Host :=
  { host with
    isAlive := false
    inbox := []
    tasks := host.tasks.map fun task => { task with isHeld := false } }

/-- A task that is over does not go on. -/
theorem advance_of_over (backend : Http.Backend) {host : Host} {index : Nat} {task : Task}
    (found : host.tasks[index]? = some task) (isOver : task.stage.isOver = true) :
    advance backend host index = host := by
  obtain ⟨job, stage, held⟩ := task
  cases stage <;> simp_all [advance, Stage.isOver]

end WorksheetBar.Host
