import WorksheetBar.Proofs.OnePopup

/-!
# What a host was told to send

A host starts a task for every command its shell sends, and no task is ever forgotten, so the
commands can be read off the tasks.  They come from what the user does and from nothing else:
mounting, looking at the provider, pumping, settling and whatever happens around a host send
nothing.

* `apply_dispatched` — passing on an action sends the command that the shell sends for it;
* `carryOut_dispatched`, `enter_dispatched` — what is not done by the user sends nothing;
* `Work.dispatched` — neither does what the thread then does.
-/

namespace WorksheetBar

open Host

/-- The command that a job sends. -/
def Host.Job.command? : Job → Option String
  | fetch _ _ => none
  | dispatch command _ => some command

/-- The commands among the jobs are those among the effects. -/
theorem Effect.command_jobs (service : Service) (effects : List Effect) :
    (jobs service effects).filterMap Job.command? = commands effects := by
  induction effects with
  | nil => rfl
  | cons effect rest ih =>
      rw [jobs_cons, List.filterMap_append, ih, commands_cons]
      cases effect <;> rfl

/-- What happens around the bar sends nothing. -/
theorem Shell.commands_of_runtime {actions : List Action} (shell : Shell)
    (h : ∀ action ∈ actions, ∃ around, action = .runtime around) :
    Effect.commands (shell.effects actions) = [] := by
  induction actions generalizing shell with
  | nil => rfl
  | cons action rest ih =>
      obtain ⟨around, rfl⟩ := h action List.mem_cons_self
      have hrest := ih (shell.step (.runtime around)).1
        fun other hmem => h other (List.mem_cons_of_mem _ hmem)
      rw [effects, Effect.commands_append, (step_dialog shell _).2, hrest]
      rfl

namespace Host

/-- The commands that a host was told to send, in order. -/
def dispatched (host : Host) : List String := host.jobs.filterMap Job.command?

/-- Nothing is dispatched behind the scenes. -/
theorem Backstage.dispatched {before after : Host} (h : Backstage before after) :
    after.dispatched = before.dispatched := by
  rw [Host.dispatched, h.jobs, Host.dispatched]

/-- The commands of some effects are dispatched in their order. -/
theorem Spawns.dispatched {before after : Host} {service : Service} {effects : List Effect}
    (h : Spawns before after (Effect.jobs service effects)) :
    after.dispatched = before.dispatched ++ Effect.commands effects := by
  rw [Host.dispatched, h.jobs, List.filterMap_append, Effect.command_jobs, Host.dispatched]

/-- What a host has dispatched grows by the commands that its shell asks for on what it hears. -/
theorem Hears.dispatched {before after : Host} {actions : List Action}
    (h : Hears before after actions) :
    after.dispatched = before.dispatched ++ Effect.commands (before.shell.effects actions) := by
  rw [Host.dispatched, h.jobs, List.filterMap_append, Effect.command_jobs, Host.dispatched]

/-- What follows the end of a session sends nothing. -/
theorem commands_hears (host : Host) (action : Action) :
    Effect.commands (host.shell.effects (host.hears action)) = host.shell.commandsOf action := by
  unfold hears
  split
  · rw [Shell.effects, Effect.commands_append, Shell.effects_singleton,
      (Shell.step_dialog _ action).2, (Shell.step_dialog _ (.runtime _)).2]
    exact List.append_nil _
  · rw [Shell.effects_singleton, (Shell.step_dialog _ action).2]

/-- **Passing on an action sends the command that the shell sends for it**, if any. -/
theorem apply_dispatched (action : Action) (host : Host) :
    (apply action host).1.dispatched = host.dispatched ++ host.shell.commandsOf action := by
  rw [(apply_eq action host).1.dispatched, commands_hears]

/-! ## What sends nothing -/

/-- Taking in answers dispatches nothing. -/
theorem drain_dispatched (inbox : List Completion) (host : Host) :
    (drain inbox host).1.dispatched = host.dispatched := by
  induction inbox generalizing host with
  | nil => rfl
  | cons completion rest ih =>
      have hfirst := apply_dispatched
        (.runtime (.fetched completion.ticket completion.result)) host
      exact (ih _).trans (hfirst.trans (List.append_nil _))

/-- A pump dispatches nothing. -/
theorem pump_dispatched (host : Host) : host.pump.1.dispatched = host.dispatched :=
  (drain_dispatched host.letGo.inbox { host.letGo with inbox := [] }).trans
    (regrips_letGo host).backstage.dispatched

/-- Settling dispatches nothing. -/
theorem settleRounds_dispatched (backend : Http.Backend) (rounds : Nat) (host : Host) :
    (settleRounds backend rounds host).1.dispatched = host.dispatched := by
  induction rounds generalizing host with
  | zero => rfl
  | succ rounds ih =>
      rw [settleRounds]
      dsimp only
      split
      · rfl
      · have hawaited := (regrips_takeTasks host).backstage.trans
          (foldl_await_backstage backend host.held host.takeTasks)
        exact (ih _).trans ((pump_dispatched _).trans hawaited.dispatched)

/-- **What is not done by the user sends nothing.** -/
theorem carryOut_dispatched (backend : Http.Backend) {operation : Operation} (host : Host)
    (hkeyless : ∀ action, operation ≠ .handle action) :
    (carryOut backend operation host).1.dispatched = host.dispatched := by
  cases operation with
  | mount => exact (apply_dispatched (.runtime .mount) host).trans (List.append_nil _)
  | unmount => exact (apply_dispatched (.runtime .unmount) host).trans (List.append_nil _)
  | syncSignedIn =>
      rw [show (carryOut backend .syncSignedIn host).1 = host.syncSignedIn.1 from rfl,
        (syncSignedIn_hears host).dispatched,
        Shell.commands_of_runtime _ fun _ hmem => ⟨_, List.mem_singleton.mp hmem⟩,
        List.append_nil]
  | handle action => exact absurd rfl (hkeyless action)
  | pump => exact pump_dispatched host
  | settle => exact settleRounds_dispatched backend _ host

/-- Only what the user does dispatches a command. -/
theorem enter_dispatched {operation : Operation} (host : Host)
    (hkeyless : ∀ action, operation ≠ .handle action) :
    (host.enter operation).host.dispatched = host.dispatched := by
  rw [(enter_hears host operation).dispatched,
    Shell.commands_of_runtime _ (Sitting.runtime_of_mem_hearsAtOnce hkeyless), List.append_nil]

end Host

/-- The thread of the host dispatches none by itself. -/
theorem Scene.Work.dispatched {scene next : Scene} (hwork : Work scene next) :
    next.host.dispatched = scene.host.dispatched := by
  rw [hwork.hears.dispatched,
    Shell.commands_of_runtime _ (Sitting.runtime_of_answers (hearsWork_answers scene)),
    List.append_nil]

/-- **What the user does at a terminal** sends the command that the shell sends for it. -/
theorem Terminal.act_dispatched (action : UserAction) (terminal : Terminal) :
    (act action terminal).host.dispatched =
      terminal.host.dispatched ++ terminal.host.shell.commandsOf (.user action) := by
  rw [← apply_dispatched]
  unfold act Host.handle
  dsimp only
  split <;> rfl

end WorksheetBar
