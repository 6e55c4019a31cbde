import WorksheetBar.Proofs.Asks
import WorksheetBar.Proofs.HostMoves
import WorksheetBar.Proofs.ShellRun

/-!
# What passing an action on does to a host

Passing an action to the shell takes one step of the shell, or two if the session is
ended in the middle of the effects, and starts one task for each request or command
among the effects.  Nothing else of what matters to the background changes.

* `applyWith_eq` — what passing on an action does, unless it ends the session;
* `apply_eq` — what passing on any action does, and what the shell hears of it;
* `receive_eq` — taking in an answer is a single step;
* `Call.spawns` — what a host can be called for.
-/

namespace WorksheetBar

namespace Host

/-- The ticket of the request that a job makes. -/
def Job.ticket? : Job → Option Ticket
  | fetch ticket _ => some ticket
  | dispatch _ _ => none

/-- The tasks that are started for some jobs. -/
def started (jobs : List Job) : List Task := jobs.map fun job => { job }

/-- After some jobs were started: their tasks stand behind the others and are ready to go
on, and nothing else of what the background looks at has changed. -/
structure Spawns (before after : Host) (jobs : List Job) : Prop where
  tasks : after.tasks = before.tasks ++ started jobs
  line : after.line = before.line ++ List.range' before.tasks.length jobs.length
  inbox : after.inbox = before.inbox
  isAlive : after.isAlive = before.isAlive
  permits : after.permits = before.permits
  mostGets : after.mostGets = before.mostGets

theorem Spawns.trans {first second third : Host} {jobs more : List Job}
    (h : Spawns first second jobs) (h' : Spawns second third more) :
    Spawns first third (jobs ++ more) := by
  constructor
  · rw [h'.tasks, h.tasks, List.append_assoc, started, started, started, List.map_append]
  · have hlength : second.tasks.length = first.tasks.length + jobs.length := by
      simp [h.tasks, started]
    rw [h'.line, h.line, hlength, List.append_assoc, List.length_append]
    simp
  · exact h'.inbox.trans h.inbox
  · exact h'.isAlive.trans h.isAlive
  · exact h'.permits.trans h.permits
  · exact h'.mostGets.trans h.mostGets

theorem spawns_refl (host : Host) : Spawns host host [] := by
  constructor <;> simp [started]

/-- What is noted, and what the provider says, is nothing to the background. -/
theorem spawns_note (host : Host) (happening : Happening) :
    Spawns host (host.note happening) [] := by
  constructor <;> simp [started, note]

/-- One new task. -/
theorem spawns_spawn (host : Host) (job : Job) : Spawns host (host.spawn job) [job] := by
  constructor <;> simp [started, spawn]

end Host

/-- The job an effect starts. -/
def Effect.job? (service : Service) : Effect → Option Host.Job
  | fetchProfile ticket => some (.fetch ticket service.userPath)
  | dispatch command => some (.dispatch command service.commandPath)
  | requestFrame | preventDefault | navigate _ | signOut => none

/-- The jobs some effects start, in order. -/
def Effect.jobs (service : Service) (effects : List Effect) : List Host.Job :=
  effects.filterMap (Effect.job? service)

theorem Effect.jobs_cons (service : Service) (effect : Effect) (effects : List Effect) :
    jobs service (effect :: effects) = (effect.job? service).toList ++ jobs service effects := by
  cases hjob : effect.job? service <;> simp [jobs, hjob]

theorem Effect.jobs_append (service : Service) (first second : List Effect) :
    jobs service (first ++ second) = jobs service first ++ jobs service second :=
  List.filterMap_append

/-- The requests among the jobs are those among the effects. -/
theorem Effect.ticket_jobs (service : Service) (effects : List Effect) :
    (jobs service effects).filterMap Host.Job.ticket? = tickets effects := by
  induction effects with
  | nil => rfl
  | cons effect rest ih =>
      rw [jobs_cons, List.filterMap_append, ih, tickets_cons]
      cases effect <;> rfl

namespace Host

/-- An effect that does not end the session starts its job and leaves the shell alone. -/
theorem perform_spawns (resync : Step) {effect : Effect} (heffect : effect ≠ .signOut)
    (host : Host) :
    Spawns host (perform resync effect host).1
        (effect.job? host.shell.config.service).toList ∧
      (perform resync effect host).1.shell = host.shell := by
  cases effect with
  | requestFrame | preventDefault => exact ⟨spawns_refl host, rfl⟩
  | fetchProfile ticket => exact ⟨spawns_spawn host _, rfl⟩
  | dispatch command =>
      exact ⟨(spawns_note host _).trans (spawns_spawn _ _), rfl⟩
  | navigate path =>
      simp only [perform, navigate]
      split
      · exact ⟨((spawns_note host _).trans (spawns_note _ _)).trans (spawns_note _ _), rfl⟩
      · exact ⟨(spawns_note host _).trans (spawns_note _ _), rfl⟩
  | signOut => exact absurd rfl heffect

/-- A fold that hands something on without looking at it comes to the same whatever that
was. -/
private theorem foldl_fst_eq {σ ω ε : Type} {step : σ × ω → ε → σ × ω}
    (hstep : ∀ first second effect, first.1 = second.1 →
      (step first effect).1 = (step second effect).1) (effects : List ε) {first second : σ × ω}
    (h : first.1 = second.1) : (effects.foldl step first).1 = (effects.foldl step second).1 := by
  induction effects generalizing first second with
  | nil => exact h
  | cons effect rest ih => exact ih (hstep first second effect h)

/-- The host after some effects does not hang on what was said about earlier ones. -/
theorem performAll_cons (resync : Step) (effect : Effect) (effects : List Effect) (host : Host) :
    (performAll resync (effect :: effects) host).1 =
      (performAll resync effects (perform resync effect host).1).1 := by
  unfold performAll
  rw [List.foldl_cons]
  apply foldl_fst_eq
  · rintro ⟨host, _⟩ ⟨host', _⟩ effect h
    obtain rfl : host = host' := h
    rfl
  · rfl

/-- What each effect keeps, several of them keep, as long as none ends the session. -/
theorem performAll_induction {motive : Host → Prop} (resync : Step) {effects : List Effect}
    (heffects : Effect.signOut ∉ effects)
    (hperform : ∀ effect host, effect ≠ .signOut → motive host →
      motive (perform resync effect host).1)
    {host : Host} (h : motive host) : motive (performAll resync effects host).1 := by
  induction effects generalizing host with
  | nil => exact h
  | cons effect rest ih =>
      have heffect : effect ≠ .signOut := by
        rintro rfl
        exact heffects List.mem_cons_self
      rw [performAll_cons]
      exact ih (fun hmem => heffects (List.mem_cons_of_mem _ hmem))
        (hperform effect host heffect h)

/-- Effects that do not end the session start their jobs and leave the shell alone. -/
theorem performAll_spawns (resync : Step) {effects : List Effect}
    (heffects : Effect.signOut ∉ effects) (host : Host) :
    Spawns host (performAll resync effects host).1
        (Effect.jobs host.shell.config.service effects) ∧
      (performAll resync effects host).1.shell = host.shell := by
  induction effects generalizing host with
  | nil => exact ⟨spawns_refl host, rfl⟩
  | cons effect rest ih =>
      have heffect : effect ≠ .signOut := by
        rintro rfl
        exact heffects List.mem_cons_self
      have hrest : Effect.signOut ∉ rest := fun hmem => heffects (List.mem_cons_of_mem _ hmem)
      obtain ⟨hfirst, hshell⟩ := perform_spawns resync heffect host
      obtain ⟨hlater, hshell'⟩ := ih hrest (perform resync effect host).1
      rw [performAll_cons]
      refine ⟨?_, hshell'.trans hshell⟩
      rw [hshell] at hlater
      rw [Effect.jobs_cons]
      exact hfirst.trans hlater

/-- **What passing on an action does**, unless it ends the session. -/
theorem applyWith_eq (resync : Step) {action : Action} {host : Host}
    (heffects : Effect.signOut ∉ (host.shell.step action).2) :
    Spawns host (applyWith resync action host).1
        (Effect.jobs (host.shell.step action).1.config.service (host.shell.step action).2) ∧
      (applyWith resync action host).1.shell = host.shell.run [action] := by
  obtain ⟨hspawns, hshell⟩ := performAll_spawns resync heffects
    { host with shell := (host.shell.step action).1 }.relay
  have hrelay : Spawns host { host with shell := (host.shell.step action).1 }.relay [] := by
    constructor <;> simp [started, relay]
  exact ⟨hrelay.trans hspawns, hshell⟩

end Host

namespace Shell

/-- What happens around the bar starts requests for profiles, and nothing else. -/
theorem length_jobs_stepRuntime (service : Service) (shell : Shell) (action : RuntimeAction) :
    (Effect.jobs service (shell.stepRuntime action).2).length =
      (Effect.tickets (shell.stepRuntime action).2).length := by
  rw [← Effect.ticket_jobs service, List.length_filterMap_eq_countP, eq_comm,
    List.countP_eq_length]
  intro job hjob
  obtain ⟨effect, heffect, heq⟩ := List.mem_filterMap.mp hjob
  rcases mem_stepRuntime heffect with rfl | ⟨ticket, rfl⟩
  · cases heq
  · cases heq
    rfl

end Shell

namespace Host

/-- Looking at the provider is one step of the shell. -/
theorem syncSignedIn_eq (host : Host) :
    Spawns host host.syncSignedIn.1
        (Effect.jobs host.shell.config.service
          (host.shell.effects [.runtime (.setSignedIn host.provider.signedIn)])) ∧
      host.syncSignedIn.1.shell =
        host.shell.run [.runtime (.setSignedIn host.provider.signedIn)] := by
  have hsignOut : Effect.signOut ∉
      (host.shell.step (.runtime (.setSignedIn host.provider.signedIn))).2 :=
    Shell.signOut_not_mem_stepRuntime host.shell _
  have hconfig := Shell.step_config host.shell (.runtime (.setSignedIn host.provider.signedIn))
  obtain ⟨hspawns, hshell⟩ := applyWith_eq (fun host => (host, {})) hsignOut
  rw [Shell.effects_singleton, ← hconfig]
  exact ⟨hspawns, hshell⟩

/-- Asks the provider to end the session, and notes what is done. -/
def leave (host : Host) : Host :=
  let asked := { host.report .signingOut with provider := host.provider.signOut }
  let told :=
    if host.isTerminal && host.provider.signedIn then asked.report .tokenDropped else asked
  told.note .signedOut

theorem leave_shell (host : Host) : host.leave.shell = host.shell := by
  unfold leave
  dsimp only
  split <;> rfl

theorem leave_provider (host : Host) : host.leave.provider = host.provider.signOut := by
  unfold leave
  dsimp only
  split <;> rfl

theorem leave_spawns (host : Host) : Spawns host host.leave [] := by
  unfold leave
  dsimp only
  split <;> constructor <;> simp [started, note, report]

/-- Passing on what ends the session: the host asks the provider and looks at it again, in the
middle of the effects, and a frame is due. -/
theorem apply_leave {action : Action} {host : Host}
    (hsignOut : Effect.signOut ∈ (host.shell.step action).2) :
    let asked := { host with shell := (host.shell.step action).1 }.relay.leave
    apply action host =
      (asked.syncSignedIn.1, asked.syncSignedIn.2.merge { redraw := true }) := by
  intro asked
  have heffects := Shell.effects_of_signOut hsignOut
  show performAll syncSignedIn (host.shell.step action).2
    { host with shell := (host.shell.step action).1 }.relay = _
  rw [heffects]
  rfl

/-- A host that ends the session has asked the provider, and starts nothing before it looks at it
again. -/
theorem apply_of_signOut {action : Action} {host : Host}
    (hsignOut : Effect.signOut ∈ (host.shell.step action).2) :
    ∃ asked, Spawns host asked [] ∧ asked.shell = (host.shell.step action).1 ∧
      asked.provider = host.provider.signOut ∧
      apply action host =
        (asked.syncSignedIn.1, asked.syncSignedIn.2.merge { redraw := true }) := by
  let stepped := { host with shell := (host.shell.step action).1 }.relay
  have hstepped : Spawns host stepped [] := by
    constructor <;> simp [stepped, started, relay]
  exact ⟨stepped.leave, hstepped.trans (leave_spawns stepped), leave_shell stepped,
    leave_provider stepped, apply_leave hsignOut⟩

/-- What the shell hears when an action is passed on.  If the action ends the session, the
shell also hears what the provider says then. -/
def hears (host : Host) (action : Action) : List Action :=
  if Effect.signOut ∈ (host.shell.step action).2 then
    [action, .runtime (.setSignedIn host.provider.signOut.signedIn)]
  else [action]

/-- The shell hears the action, and at most what the provider says after it. -/
theorem mem_hears {host : Host} {action other : Action} (h : other ∈ host.hears action) :
    other = action ∨ other = .runtime (.setSignedIn host.provider.signOut.signedIn) := by
  unfold hears at h
  split at h <;> simp_all

/-- What happens around the bar ends no session. -/
theorem hears_runtime (host : Host) (action : RuntimeAction) :
    host.hears (.runtime action) = [.runtime action] :=
  if_neg (Shell.signOut_not_mem_stepRuntime host.shell action)

/-- **What passing on an action does**: the shell takes a step or two, and a task is started
for each request and each command that they ask for. -/
theorem apply_eq (action : Action) (host : Host) :
    Spawns host (apply action host).1
        (Effect.jobs host.shell.config.service (host.shell.effects (host.hears action))) ∧
      (apply action host).1.shell = host.shell.run (host.hears action) := by
  have hconfig : (host.shell.step action).1.config = host.shell.config :=
    Shell.step_config host.shell action
  by_cases hsignOut : Effect.signOut ∈ (host.shell.step action).2
  · obtain ⟨asked, hasked, hstepped, hprovider, happly⟩ := apply_of_signOut hsignOut
    obtain ⟨hspawns, hshell⟩ := syncSignedIn_eq asked
    have hjobs : Effect.jobs host.shell.config.service (host.shell.step action).2 = [] := by
      rw [Shell.effects_of_signOut hsignOut]
      rfl
    rw [hstepped, hprovider] at hshell hspawns
    rw [hears, if_pos hsignOut, happly]
    refine ⟨?_, hshell⟩
    rw [Shell.effects, Effect.jobs_append, hjobs, ← hconfig]
    exact hasked.trans hspawns
  · obtain ⟨hspawns, hshell⟩ := applyWith_eq syncSignedIn hsignOut
    rw [hears, if_neg hsignOut]
    refine ⟨?_, hshell⟩
    rw [Shell.effects_singleton, ← hconfig]
    exact hspawns

/-! What the provider comes to -/

theorem perform_provider (resync : Step) {effect : Effect} (heffect : effect ≠ .signOut)
    (host : Host) : (perform resync effect host).1.provider = host.provider := by
  cases effect with
  | requestFrame | preventDefault | fetchProfile _ | dispatch _ => rfl
  | navigate path =>
      simp only [perform, navigate]
      split <;> rfl
  | signOut => exact absurd rfl heffect

theorem applyWith_provider (resync : Step) {action : Action} {host : Host}
    (heffects : Effect.signOut ∉ (host.shell.step action).2) :
    (applyWith resync action host).1.provider = host.provider :=
  performAll_induction (motive := fun after => after.provider = host.provider) resync heffects
    (fun _ _ heffect hsame => (perform_provider resync heffect _).trans hsame) rfl

theorem syncSignedIn_provider (host : Host) : host.syncSignedIn.1.provider = host.provider :=
  applyWith_provider _ (Shell.signOut_not_mem_stepRuntime host.shell _)

/-- The provider is asked to end the session if the shell calls for that. -/
theorem apply_provider (action : Action) (host : Host) :
    (apply action host).1.provider =
      if Effect.signOut ∈ (host.shell.step action).2 then host.provider.signOut
      else host.provider := by
  split
  · next hsignOut =>
      obtain ⟨asked, _, _, hprovider, happly⟩ := apply_of_signOut hsignOut
      rw [happly, syncSignedIn_provider, hprovider]
  · next hsignOut => exact applyWith_provider syncSignedIn hsignOut

/-- **Passing on anything but an answer is a short run of the shell without answers.** -/
theorem apply_unanswered (action : Action)
    (haction : ∀ ticket result, action ≠ .runtime (.fetched ticket result)) (host : Host) :
    ∃ actions jobs, (∀ action ∈ actions, ∀ ticket result,
        action ≠ .runtime (.fetched ticket result)) ∧
      Spawns host (apply action host).1 jobs ∧
      (apply action host).1.shell = host.shell.run actions ∧
      jobs.filterMap Job.ticket? = host.shell.issued actions := by
  obtain ⟨hspawns, hshell⟩ := apply_eq action host
  refine ⟨host.hears action, _, ?_, hspawns, hshell, Effect.ticket_jobs _ _⟩
  intro other hmem
  rcases mem_hears hmem with rfl | rfl
  · exact haction
  · simp

/-- **Taking in an answer is one step of the shell**, and starts nothing but what it asks
for. -/
theorem receive_eq (host : Host) (completion : Completion) :
    ∃ jobs, Spawns host (host.receive completion) jobs ∧
      (host.receive completion).shell =
        host.shell.run [.runtime (.fetched completion.ticket completion.result)] ∧
      jobs.filterMap Job.ticket? =
        host.shell.issued [.runtime (.fetched completion.ticket completion.result)] ∧
      jobs.length = (jobs.filterMap Job.ticket?).length := by
  have hsignOut : Effect.signOut ∉
      (host.shell.step (.runtime (.fetched completion.ticket completion.result))).2 :=
    Shell.signOut_not_mem_stepRuntime host.shell _
  obtain ⟨hspawns, hshell⟩ := applyWith_eq syncSignedIn hsignOut
  refine ⟨_, hspawns, hshell, ?_, ?_⟩
  · rw [Effect.ticket_jobs, Shell.issued_singleton]
  · rw [Effect.ticket_jobs]
    exact Shell.length_jobs_stepRuntime _ _ _

/-- **A call starts some tasks and is done**, or it is the beginning of pumping or of
settling. -/
theorem Call.spawns {host : Host} {scene : Scene} (h : Call host scene) :
    (∃ jobs, Spawns host scene.host jobs ∧ scene.activity = .idle) ∨
      scene = ⟨host.letGo, .pumping none⟩ ∨ scene = ⟨host, .settling 0⟩ := by
  cases h with
  | mount =>
      obtain ⟨_, jobs, _, hspawns, _⟩ := apply_unanswered (.runtime .mount) (by simp) host
      exact Or.inl ⟨jobs, hspawns, rfl⟩
  | unmount =>
      obtain ⟨_, jobs, _, hspawns, _⟩ := apply_unanswered (.runtime .unmount) (by simp) host
      exact Or.inl ⟨jobs, hspawns, rfl⟩
  | syncSignedIn =>
      exact Or.inl ⟨_, (syncSignedIn_eq host).1, rfl⟩
  | handle action =>
      obtain ⟨_, jobs, _, hspawns, _⟩ := apply_unanswered (.user action) (by simp) host
      exact Or.inl ⟨jobs, hspawns, rfl⟩
  | pump => exact Or.inr (Or.inl rfl)
  | settle => exact Or.inr (Or.inr rfl)

end Host

end WorksheetBar
