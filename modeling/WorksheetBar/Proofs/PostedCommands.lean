import WorksheetBar.Proofs.Ledger
import WorksheetBar.Proofs.Stories
import WorksheetBar.Proofs.UnheardReplies

/-!
# Every command is posted once

Along every script the ledger of a host holds the commands that its shell has sent so far, in
order.  So the posts that were made are the first of them, and they are all of them as soon as
every task has started: whatever still waits at the gate, whatever has died and whatever the
replies are.  Settling comes to that, and so does letting the background go on once.

* `play_tallied` — along every script the ledger holds the commands of the run;
* `settle_unsent` — settling leaves no command behind;
* `commands_posted_once` — every command is posted exactly once and in order, and the shell
  does not hear of the replies.
-/

namespace WorksheetBar

namespace Host

/-! ## Along a script -/

@[simp] theorem advance_shell (backend : Http.Backend) (host : Host) (index : Nat) :
    (advance backend host index).shell = host.shell :=
  (advance_backstage backend host index).shell

@[simp] theorem start_shell (backend : Http.Backend) (host : Host) :
    (host.start backend).shell = host.shell := by
  unfold start
  split
  · rfl
  · exact advance_shell backend host _

@[simp] theorem resume_shell (backend : Http.Backend) (host : Host) (index : Nat) :
    (host.resume backend index).shell = host.shell := by
  unfold resume
  split
  · rfl
  · exact advance_shell backend host index

@[simp] theorem runBackground_shell (backend : Http.Backend) (host : Host) :
    (host.runBackground backend).shell = host.shell :=
  (Progress.runBackground host backend).backstage.shell

@[simp] theorem release_shell (host : Host) (count : Nat) :
    (host.release count).shell = host.shell :=
  (Progress.release host count).backstage.shell

/-- The ledger of a host whose shell has heard some actions holds their commands. -/
structure Tallied (first : Shell) (actions : List Action) (host : Host) : Prop where
  shell : host.shell = first.run actions
  ledger : host.ledger = (Effect.commands (first.effects actions)).map first.config.service.post
  queued : host.Queued

namespace Tallied

variable {shell : Shell} {actions more : List Action} {host after : Host}

/-- Commands that are sent were in the ledger before. -/
theorem sends (h : host.Tallied shell actions) (hsends : Sends host after)
    (hshell : after.shell = host.shell) : after.Tallied shell actions :=
  ⟨hshell.trans h.shell, hsends.ledger.trans h.ledger, hsends.queued h.queued⟩

/-- What the shell asks for is put at the end of the ledger. -/
theorem spawns (h : host.Tallied shell actions)
    (hspawns : Spawns host after
      (Effect.jobs host.shell.config.service (host.shell.effects more)))
    (hshell : after.shell = host.shell.run more) (hposted : after.posted = host.posted) :
    after.Tallied shell (actions ++ more) := by
  have hconfig : host.shell.config = shell.config := by rw [h.shell, Shell.run_config]
  refine ⟨?_, ?_, hspawns.queued h.queued⟩
  · rw [hshell, h.shell, Shell.run_append]
  · calc after.ledger
        = host.ledger ++ (Effect.commands (host.shell.effects more)).map
            host.shell.config.service.post := by
          rw [Host.ledger, hposted, hspawns.unsent, post_jobs, Host.ledger, List.append_assoc]
      _ = _ := by
          rw [h.ledger, hconfig, h.shell, Shell.effects_append, Effect.commands_append,
            List.map_append]

/-- An action that is passed on adds the commands that it sends to the ledger. -/
theorem apply (h : host.Tallied shell actions) (action : Action) :
    (Host.apply action host).1.Tallied shell (actions ++ host.hears action) := by
  obtain ⟨hspawns, hshell⟩ := apply_eq action host
  exact h.spawns hspawns hshell (posted_apply action host)

/-- The tally is kept when the provider says whether the user is signed in. -/
theorem syncSignedIn (h : host.Tallied shell actions) :
    host.syncSignedIn.1.Tallied shell
      (actions ++ [.runtime (.setSignedIn host.provider.signedIn)]) := by
  obtain ⟨hspawns, hshell⟩ := syncSignedIn_eq host
  exact h.spawns hspawns hshell (posted_syncSignedIn host)

/-- The tally is kept when an answer is taken in. -/
theorem receive {completion : Completion} {rest : List Completion}
    (h : host.Tallied shell actions) :
    (({ host with inbox := rest } : Host).receive completion).Tallied shell
      (actions ++ [.runtime (.fetched completion.ticket completion.result)]) := by
  have hemptied : Tallied shell actions { host with inbox := rest } :=
    ⟨h.shell, h.ledger, ⟨h.queued.places, h.queued.order⟩⟩
  have hafter := hemptied.apply (.runtime (.fetched completion.ticket completion.result))
  rwa [hears_runtime] at hafter

/-- Taking hold of tasks and letting them go leaves the ledger alone. -/
theorem regrips (h : host.Tallied shell actions) (hregrips : Regrips host after) :
    after.Tallied shell actions := by
  refine h.sends hregrips.sends ?_
  cases hregrips with
  | intro => rfl

end Tallied

end Host

namespace Scene

open Host

variable {shell : Shell} {actions : List Action} {scene : Scene}

/-- A call keeps the tally, with what the shell hears at once. -/
theorem called_tallied (h : scene.host.Tallied shell actions) {call : Host → Scene}
    {more : List Action} (hcall : (call scene.host).host.Tallied shell (actions ++ more)) :
    (scene.called call).host.Tallied shell (actions ++ scene.hearsCalled more) := by
  unfold called hearsCalled
  split
  · exact hcall
  · rwa [List.append_nil]

/-- A call of which the shell does not hear. -/
theorem called_unheard (h : scene.host.Tallied shell actions) {call : Host → Scene}
    (hcall : (call scene.host).host.Tallied shell actions) :
    (scene.called call).host.Tallied shell actions := by
  unfold called
  split
  · exact hcall
  · exact h

/-- A step of the thread keeps it, with the answer that it takes in. -/
theorem work_tallied (h : scene.host.Tallied shell actions) :
    scene.work.host.Tallied shell (actions ++ scene.hearsWork) := by
  obtain ⟨host, activity⟩ := scene
  cases activity with
  | pumping round =>
      simp only [work, hearsWork]
      cases hinbox : host.inbox with
      | cons completion rest => exact h.receive
      | nil => cases round <;> simpa using h
  | idle => simpa [work, hearsWork] using h
  | settling rounds =>
      simp only [work, hearsWork, List.append_nil]
      split
      · exact h
      · exact h.regrips (regrips_takeTasks host)
  | awaiting round left =>
      cases left with
      | nil => simpa [work, hearsWork] using h.regrips (regrips_letGo host)
      | cons index left =>
          simp only [work, hearsWork, List.append_nil]
          split
          · exact h
          · split
            · dsimp only
              split
              · exact h.sends (report_sends host _) rfl
              · exact h
            · exact h

/-- **A cue keeps the tally.** -/
theorem next_tallied (h : scene.host.Tallied shell actions) (backend : Http.Backend) (cue : Cue) :
    (scene.next backend cue).host.Tallied shell (actions ++ scene.hears cue) := by
  cases cue with
  | mount => exact called_tallied h (h.apply (.runtime .mount))
  | unmount => exact called_tallied h (h.apply (.runtime .unmount))
  | syncSignedIn => exact called_tallied h h.syncSignedIn
  | handle action => exact called_tallied h (h.apply (.user action))
  | work => exact work_tallied h
  | pump =>
      rw [hears, List.append_nil]
      exact called_unheard h (h.regrips (regrips_letGo scene.host))
  | settle =>
      rw [hears, List.append_nil]
      exact called_unheard h h
  | start =>
      rw [hears, List.append_nil]
      exact h.sends (start_sends backend scene.host) (start_shell _ _)
  | resume index =>
      rw [hears, List.append_nil]
      exact h.sends (resume_sends backend scene.host index) (resume_shell _ _ _)
  | background =>
      rw [hears, List.append_nil]
      exact h.sends (h.queued.runBackground backend).1 (runBackground_shell _ _)
  | release count =>
      rw [hears, List.append_nil]
      exact h.sends (release_sends scene.host count) (release_shell _ _)
  | decide value =>
      rw [hears, List.append_nil]
      exact ⟨h.shell, h.ledger, ⟨h.queued.places, h.queued.order⟩⟩

/-- **Along every script the ledger holds the commands of the run, in order.** -/
theorem play_tallied (h : scene.host.Tallied shell actions) (backend : Http.Backend)
    (cues : List Cue) :
    (scene.play backend cues).host.Tallied shell (actions ++ scene.heard backend cues) := by
  induction cues generalizing scene actions with
  | nil =>
      rw [heard, List.append_nil]
      exact h
  | cons cue rest ih =>
      have hrest := ih (next_tallied h backend cue)
      rwa [List.append_assoc] at hrest

end Scene

/-! ## Settling -/

namespace Host

/-- An answer sends no command. -/
theorem receive_sends (host : Host) (completion : Completion) :
    Sends host (host.receive completion) := by
  let action : RuntimeAction := .fetched completion.ticket completion.result
  obtain ⟨hspawns, _⟩ := apply_eq (.runtime action) host
  have hcommands : Effect.commands (host.shell.step (.runtime action)).2 = [] :=
    (Shell.step_dialog host.shell (.runtime action)).2
  have hunsent : (host.receive completion).unsent = host.unsent := by
    have hjobs := hspawns.unsent
    rw [hears_runtime, Shell.effects_singleton, post_jobs, hcommands] at hjobs
    exact hjobs.trans (List.append_nil _)
  refine ⟨?_, hunsent ▸ .refl _, hspawns.queued⟩
  rw [ledger, hunsent]
  exact congrArg (· ++ host.unsent) (posted_apply _ host)

theorem notice_sends (host : Host) (index : Nat) : Sends host (host.notice index) := by
  unfold notice
  split
  · split
    · exact report_sends host _
    · exact sends_refl host
  · exact sends_refl host

theorem await_sends (backend : Http.Backend) {host : Host} (h : host.Queued) (index : Nat) :
    Sends host (await backend host index) := by
  rcases await_cases backend host index with ⟨_, hawait⟩ | hawait
  · rw [hawait]
    exact notice_sends host index
  · rw [hawait]
    exact (h.runBackground backend).1.trans (notice_sends _ index)

theorem foldl_await_sends (backend : Http.Backend) (left : List Nat) {host : Host}
    (h : host.Queued) : Sends host (left.foldl (await backend) host) := by
  induction left generalizing host with
  | nil => exact sends_refl host
  | cons index rest ih =>
      have hfirst := await_sends backend h index
      exact hfirst.trans (ih (hfirst.queued h))

/-- **When all that is left has been waited for, every command has been sent**: either all of
it was over, or the background has gone on. -/
theorem foldl_await_unsent (backend : Http.Backend) {left : List Nat} {host : Host}
    (hleft : host.AreLeft left) (h : host.Queued) :
    (left.foldl (await backend) host).unsent = [] := by
  induction left generalizing host with
  | nil =>
      apply unsent_eq_nil
      intro task hmem hstage
      obtain ⟨index, hget⟩ := List.getElem?_of_mem hmem
      have hnone := hleft index task hget (by rw [hstage]; rfl)
      cases hnone
  | cons index rest ih =>
      rw [List.foldl_cons]
      rcases await_cases backend host index with ⟨hended, hawait⟩ | hawait
      · rw [hawait]
        have hnoticed := notice_sends host index
        refine ih ?_ (hnoticed.queued h)
        intro place task hget hover
        rw [notice_tasks] at hget
        rcases List.mem_cons.mp (hleft place task hget hover) with rfl | hmem
        · rw [hended task hget] at hover
          cases hover
        · exact hmem
      · obtain ⟨hsends, hnone⟩ := h.runBackground backend
        have hnoticed := hsends.trans (notice_sends _ index)
        rw [hawait]
        exact (foldl_await_sends backend rest (hnoticed.queued h)).unsent_eq_nil
          ((notice_sends _ index).unsent_eq_nil hnone)

theorem drain_sends (inbox : List Completion) (host : Host) :
    Sends host (drain inbox host).1 := by
  induction inbox generalizing host with
  | nil => exact sends_refl host
  | cons completion rest ih =>
      have hfirst := receive_sends host completion
      exact hfirst.trans (ih _)

theorem pump_sends (host : Host) : Sends host host.pump.1 := by
  have hletGo := (regrips_letGo host).sends
  have hemptied : Sends host.letGo { host.letGo with inbox := [] } :=
    ⟨rfl, .refl _, fun h => ⟨h.places, h.order⟩⟩
  exact (hletGo.trans hemptied).trans (drain_sends host.letGo.inbox _)

theorem settleRounds_sends (backend : Http.Backend) (fuel : Nat) {host : Host}
    (h : host.Queued) : Sends host (settleRounds backend fuel host).1 := by
  induction fuel generalizing host with
  | zero => exact sends_refl host
  | succ fuel ih =>
      by_cases hheld : host.held = []
      · rw [settleRounds_of_held_eq_nil backend fuel hheld]
        exact sends_refl host
      · have htaken := (regrips_takeTasks host).sends
        have hround := (htaken.trans
          (foldl_await_sends backend host.held (htaken.queued h))).trans (pump_sends _)
        rw [settleRounds_of_held_ne_nil backend fuel hheld]
        exact hround.trans (ih (hround.queued h))

/-- **Settling leaves no command behind**, not even if a request is left at the gate. -/
theorem settle_unsent (backend : Http.Backend) {host : Host} (htended : host.Tended)
    (h : host.Queued) :
    Sends host (Host.settle backend host).1 ∧ (Host.settle backend host).1.unsent = [] := by
  refine ⟨settleRounds_sends backend _ h, ?_⟩
  by_cases hheld : host.held = []
  · rw [Host.settle, settleRounds_of_held_eq_nil backend _ hheld]
    exact unsent_of_isOver (htended.isOver hheld)
  · have htaken := (regrips_takeTasks host).sends.queued h
    have hawaited := foldl_await_unsent backend htended.areLeft_held htaken
    have hround := (foldl_await_sends backend host.held htaken).queued htaken
    rw [Host.settle, settleRounds_of_held_ne_nil backend _ hheld]
    exact (settleRounds_sends backend _ ((pump_sends _).queued hround)).unsent_eq_nil
      ((pump_sends _).unsent_eq_nil hawaited)

/-- When every command has been sent, the ledger holds what was posted. -/
theorem posted_eq_ledger {host : Host} (h : host.unsent = []) : host.posted = host.ledger := by
  rw [ledger, h, List.append_nil]

end Host

namespace Scene

/-- An idle host holds on to every task that is not over. -/
theorem Reachable.tended {scene : Scene} (h : scene.Reachable) (hidle : scene.activity = .idle) :
    scene.host.Tended := by
  obtain ⟨host, activity⟩ := scene
  obtain rfl : activity = .idle := hidle
  cases h.attended with
  | idle htended => exact htended

/-- **Every command is posted exactly once and in order, and the replies are not heard of.**
Whatever is done to a host and whatever goes on around it, also in the middle of what it does:
the posts made so far are the first of the commands that the shell has sent, each to the path
for commands and with the command as the only member of the body.  They are all of the
commands when every task has started, when the background has gone on, when an idle host holds
no task, and when it has settled, which it does by a script of its own.  With other replies to
the posts the shell is the same after every cue, and after settling. -/
theorem commands_posted_once (config : Config) (provider : Host.Provider) (isTerminal : Bool)
    (permits : Option Nat) (backend : Http.Backend) (cues : List Cue) :
    let start := Scene.fresh config provider isTerminal permits
    let scene := start.play backend cues
    let heard := start.heard backend cues
    let posts := (Effect.commands (start.host.shell.effects heard)).map fun command =>
      (config.service.commandPath, Json.object [("command", .string command)])
    scene.host.shell = start.host.shell.run heard ∧
    scene.host.posted <+: posts ∧
    ((∀ task ∈ scene.host.tasks, task.stage ≠ .spawned) → scene.host.posted = posts) ∧
    (∀ later : Http.Backend, (scene.host.runBackground later).posted = posts) ∧
    (scene.activity = .idle →
      (scene.host.held = [] → scene.host.posted = posts) ∧
      (∀ later : Http.Backend, (Host.settle later scene.host).1.posted = posts) ∧
      (∃ more, start.play backend (cues ++ more) = ⟨scene.host.pump.1, .idle⟩) ∧
      ((∀ task ∈ (Host.settle backend scene.host).1.tasks, task.stage ≠ .waiting) →
        ∃ more, start.play backend (cues ++ more) =
          ⟨(Host.settle backend scene.host).1, .idle⟩)) ∧
    ∀ other : Http.Backend, other.get = backend.get →
      let twin := start.play other cues
      twin.activity = scene.activity ∧ twin.host.shell = scene.host.shell ∧
        (Host.settle other twin.host).1.shell = (Host.settle backend scene.host).1.shell := by
  intro start scene heard posts
  have hfirst : start.host.Tallied start.host.shell [] :=
    ⟨rfl, rfl, ⟨by simp [start, Scene.fresh, Host.fresh], rfl⟩⟩
  have htallied : scene.host.Tallied start.host.shell heard := play_tallied hfirst backend cues
  have hreachable : Reachable scene :=
    reachable_play config provider isTerminal permits backend cues
  have hposted : ∀ {host : Host}, Host.Sends scene.host host → host.unsent = [] →
      host.posted = posts := by
    intro host hsends hnone
    rw [Host.posted_eq_ledger hnone, hsends.ledger]
    exact htallied.ledger
  refine ⟨htallied.shell, ⟨scene.host.unsent, htallied.ledger⟩, ?_, ?_, ?_, ?_⟩
  · intro hstarted
    exact hposted (Host.sends_refl scene.host) (Host.unsent_eq_nil hstarted)
  · intro later
    obtain ⟨hsends, hnone⟩ := htallied.queued.runBackground later
    exact hposted hsends hnone
  · intro hidle
    have htended := hreachable.tended hidle
    have hscene : scene = ⟨scene.host, .idle⟩ := by rw [← hidle]
    have hmore : ∀ {after : Scene}, (∃ more, scene.play backend more = after) →
        ∃ more, start.play backend (cues ++ more) = after := by
      rintro after ⟨more, hplay⟩
      exact ⟨more, (play_append backend start cues more).trans hplay⟩
    rw [hscene] at hreachable hmore
    refine ⟨?_, ?_, hmore (pump_play backend hreachable), ?_⟩
    · intro hheld
      exact hposted (Host.sends_refl scene.host)
        (Host.unsent_of_isOver (htended.isOver hheld))
    · intro later
      obtain ⟨hsends, hnone⟩ := Host.settle_unsent later htended htallied.queued
      exact hposted hsends hnone
    · intro hnone
      refine hmore (settle_play backend hreachable ?_)
      rintro ⟨task, hmem, hwaiting⟩
      exact hnone task hmem hwaiting
  · intro other hget twin
    have htwin : InStep twin scene := play_inStep hget.symm ⟨rfl, rfl⟩ cues
    have hsettled := Host.settle_inStep hget.symm _ _ htwin.host
    exact ⟨htwin.activity, (congrArg Host.shell htwin.host :), (congrArg Host.shell hsettled :)⟩

/-- The request for a profile waits at the gate while two commands are sent, and dies after it
was let through.  One command is refused, and the task of the other one dies. -/
theorem commands_posted_once_gated :
    let backend : Http.Backend :=
      ⟨fun _ _ => .died, fun count _ _ => if count = 0 then .answered ⟨503, []⟩ else .died⟩
    let other : Http.Backend := ⟨fun _ _ => .died, fun _ _ _ => .answered ⟨200, []⟩⟩
    let cues : List Cue :=
      [.mount, .start, .handle (.activate .newWorksheet), .handle (.editName "foo"),
        .handle .confirmDialog, .handle (.activate .newWorksheet),
        .handle (.pressInName .enter), .settle, .work, .start, .start, .release 1, .resume 0,
        .work, .work, .work, .work, .work, .work]
    let start := Scene.fresh {} { signedIn := true } false (some 0)
    let scene := start.play backend cues
    let posts := ["new foo", "new unnamed"].map fun command =>
      ("/rest/cli/command", Json.object [("command", .string command)])
    scene.activity = .idle ∧ scene.host.held = [] ∧
    scene.host.tasks.map Host.Task.stage = [.died, .ended, .died] ∧
    scene.host.posted = posts ∧ (Host.settle backend scene.host).1.posted = posts ∧
    (start.play other cues).host.shell = scene.host.shell := by
  intro backend other cues
  have hcommands : Effect.commands
      ((Scene.fresh {} { signedIn := true } false (some 0)).host.shell.effects
        ((Scene.fresh {} { signedIn := true } false (some 0)).heard backend cues)) =
      ["new foo", "new unnamed"] := by decide +kernel
  obtain ⟨_, _, _, _, hidle, hreplies⟩ :=
    commands_posted_once {} { signedIn := true } false (some 0) backend cues
  obtain ⟨hposted, hsettled, _, _⟩ := hidle (by decide +kernel)
  rw [hcommands] at hposted hsettled
  exact ⟨by decide +kernel, by decide +kernel, by decide +kernel,
    hposted (by decide +kernel), hsettled backend, (hreplies other rfl).2.1⟩

end Scene

end WorksheetBar
