import WorksheetBar.Command.Program

/-!
# What a command asks the service for

The requests of a command can be told beforehand, so the outer layer can put them on
the wire first and hand in the answers.  The bar is told its requests as they come up.

* `demand_signedOut` — without a session nothing is asked for.
-/

namespace WorksheetBar.Command

/-- The request of a job, if it can be built. -/
def requestOf (client : Http.Client) : Host.Job → Option Http.Outgoing
  | .fetch _ path => (client.getRequest path).toOption
  | .dispatch command path => (client.postRequest path (Dispatch.body command)).toOption

/-- The jobs of a host that are ready to go on. -/
def readyJobs (host : Host) : List Host.Job :=
  host.line.filterMap fun index => host.tasks[index]?.map Host.Task.job

/-- The jobs that a command gives to its host if there is a session. -/
def jobsOf (service : Service) (command : String) (options : Options) : List Host.Job :=
  let fetch : Host.Job := .fetch ⟨1⟩ service.userPath
  if command = "whoami" then [fetch]
  else if command = "new" then
    [fetch,
      .dispatch (Worksheet.newCommand (Worksheet.effectiveName (nameOf options)))
        service.commandPath]
  else []

/-- The requests of a command. -/
def demand (setting : Setting) : List String → List Http.Outgoing
  | [] => []
  | command :: arguments =>
    match optionsOf arguments with
    | .error _ => []
    | .ok options =>
      match configOf setting options, options.token? setting.session with
      | .ok config, some session =>
        (jobsOf config.service command options).filterMap
          (requestOf (.of config.service (some session)))
      | _, _ => []

/-- The wire that knows the answers to some requests. -/
def knownWire (answers : List (Http.Outgoing × Http.Arrival)) : Http.Wire :=
  fun request => answers.lookup request

/-- **A command for which nobody is signed in demands nothing of the network.** -/
theorem demand_signedOut (setting : Setting) (command : String) (arguments : List String)
    {options : Options} (read : optionsOf arguments = .ok options)
    (signedOut : options.token? setting.session = none) :
    demand setting (command :: arguments) = [] := by
  simp only [demand, read, signedOut]
  split <;> simp_all

end WorksheetBar.Command
