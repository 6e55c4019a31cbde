import WorksheetBar.Command.Demand
import WorksheetBar.Proofs.Dispatched
import WorksheetBar.Proofs.PostedCommands
import WorksheetBar.Proofs.Requests
import WorksheetBar.Proofs.Silence

/-!
# Worksheets from the command line

`new` does what a user does at the bar: it opens the dialog, types the name and confirms.  The
line that it prints is not taken from there.  It is worked out again from the words of the
command, while what is sent has gone through the dialog, the shell, the host and a task.

The background goes on between the calls of `new`, so what `new` comes to is told of every
script that makes its calls in their order, whatever stands between them.  An idle host hears
of nothing but its calls.

* `heard_of_calls` — what an idle host hears between its calls is nothing;
* `Story.jobs` — what was started is what the shell has asked for;
* `new_reports_what_it_sent` — what is printed is what was sent.
-/

namespace WorksheetBar

/-! ## What was started -/

namespace Scene

open Host

/-- **What was started is what the shell has asked for** along the story of a scene. -/
theorem Story.jobs {start : Host} {heard : List Action} {scene : Scene}
    (h : Story start heard scene) :
    scene.host.jobs = start.jobs ++
      Effect.jobs start.shell.config.service (start.shell.effects heard) := by
  have hgoes : ∀ {heard more : List Action} {host after : Host},
      host.shell = start.shell.run heard →
      host.jobs = start.jobs ++
        Effect.jobs start.shell.config.service (start.shell.effects heard) →
      Hears host after more →
      after.jobs = start.jobs ++
        Effect.jobs start.shell.config.service (start.shell.effects (heard ++ more)) := by
    intro heard more host after hshell hjobs hhears
    rw [hhears.jobs, hjobs, hshell, Shell.run_config, Shell.effects_append, Effect.jobs_append,
      List.append_assoc]
  induction h with
  | opening => exact (List.append_nil _).symm
  | call h operation ih => exact hgoes h.shell ih (enter_hears _ operation)
  | work h hwork ih => exact hgoes h.shell ih hwork.hears
  | progress h hprogress ih => exact hprogress.backstage.jobs.trans ih

/-- What a host has dispatched is what its shell has asked for in the story. -/
theorem Story.dispatched {start : Host} {heard : List Action} {scene : Scene}
    (h : Story start heard scene) :
    scene.host.dispatched = start.dispatched ++ Effect.commands (start.shell.effects heard) := by
  rw [Host.dispatched, h.jobs, List.filterMap_append, Effect.command_jobs, Host.dispatched]

end Scene

/-! ## Scripts of calls -/

namespace Cue

/-- Whether a cue is none of those that call the host: its thread goes on with its work, or the
background goes on. -/
def isInterlude : Cue → Bool
  | work | start | resume _ | background | release _ => true
  | mount | unmount | syncSignedIn | handle _ | pump | settle | decide _ => false

/-- The action that a call passes on, if it does no more than that. -/
def action? : Cue → Option Action
  | mount => some (.runtime .mount)
  | unmount => some (.runtime .unmount)
  | handle action => some (.user action)
  | syncSignedIn | pump | settle | work | start | resume _ | background | release _
  | decide _ => none

end Cue

namespace Scene

open Host

variable {scene : Scene} {cues : List Cue}

theorem heard_append (backend : Http.Backend) (scene : Scene) (first second : List Cue) :
    scene.heard backend (first ++ second) =
      scene.heard backend first ++ (scene.play backend first).heard backend second := by
  induction first generalizing scene with
  | nil => rfl
  | cons cue rest ih =>
      rw [List.cons_append, heard, ih, heard, List.append_assoc]
      rfl

/-- An idle host stays idle in an interlude, and its shell hears of nothing. -/
theorem next_of_isInterlude (backend : Http.Backend) (hidle : scene.activity = .idle) {cue : Cue}
    (hcue : cue.isInterlude = true) :
    (scene.next backend cue).activity = .idle ∧ scene.hears cue = [] := by
  cases cue with
  | work => simp [next, work, hears, hearsWork, hidle]
  | start | resume | background | release => exact ⟨hidle, rfl⟩
  | mount | unmount | syncSignedIn | handle | pump | settle | decide => cases hcue

/-- An idle host that is called for an action is idle again, and its shell has heard just that
action, unless it ends the session. -/
theorem next_of_action? (backend : Http.Backend) (hidle : scene.activity = .idle) {cue : Cue}
    {action : Action} (hcue : cue.action? = some action) (hstays : action ≠ .user .signOut) :
    (scene.next backend cue).activity = .idle ∧ scene.hears cue = [action] := by
  have hheard : scene.host.hears action = [action] := by
    refine if_neg fun hsignOut => ?_
    cases Shell.step_asks hsignOut with
    | signOut => exact hstays rfl
  cases cue with
  | mount | unmount | handle =>
      cases hcue
      simp [next, called, hears, hearsCalled, hidle, hheard]
  | syncSignedIn | pump | settle | work | start | resume | background | release | decide =>
      cases hcue

/-- **An idle host hears of nothing but its calls**, whatever goes on between them. -/
theorem heard_of_calls (backend : Http.Backend) (hidle : scene.activity = .idle)
    {actions : List Action}
    (hcalls : (cues.filter (!·.isInterlude)).map Cue.action? = actions.map some)
    (hstays : .user .signOut ∉ actions) :
    (scene.play backend cues).activity = .idle ∧ scene.heard backend cues = actions := by
  induction cues generalizing scene actions with
  | nil =>
      obtain rfl : actions = [] := List.map_eq_nil_iff.mp hcalls.symm
      exact ⟨hidle, rfl⟩
  | cons cue rest ih =>
      cases hcue : cue.isInterlude with
      | true =>
          obtain ⟨hnext, hnothing⟩ := next_of_isInterlude backend hidle hcue
          rw [List.filter_cons_of_neg (by simp [hcue])] at hcalls
          obtain ⟨hlast, hheard⟩ := ih hnext hcalls hstays
          exact ⟨hlast, by rw [heard, hnothing, hheard, List.nil_append]⟩
      | false =>
          rw [List.filter_cons_of_pos (by simp [hcue]), List.map_cons] at hcalls
          obtain ⟨action, later, rfl, haction, hlater⟩ := List.map_eq_cons_iff.mp hcalls.symm
          obtain ⟨hfirst, hrest⟩ := not_or.mp (List.mem_cons.not.mp hstays)
          obtain ⟨hnext, hjust⟩ := next_of_action? backend hidle haction.symm (Ne.symm hfirst)
          obtain ⟨hlast, hheard⟩ := ih hnext hlater.symm hrest
          exact ⟨hlast, by rw [heard, hjust, hheard, List.singleton_append]⟩

/-- Without the user a shell only hears of what happens around it. -/
theorem runtime_of_mem_heard (backend : Http.Backend) (hcues : ∀ action, .handle action ∉ cues) :
    ∀ action ∈ scene.heard backend cues, ∃ around, action = .runtime around := by
  have hcalled : ∀ {scene : Scene} {around : RuntimeAction} {action : Action},
      action ∈ scene.hearsCalled [.runtime around] → action = .runtime around := by
    intro scene around action hmem
    unfold hearsCalled at hmem
    split at hmem
    · exact List.mem_singleton.mp hmem
    · cases hmem
  induction cues generalizing scene with
  | nil => exact fun action hmem => absurd hmem List.not_mem_nil
  | cons cue rest ih =>
      intro action hmem
      rcases List.mem_append.mp hmem with hfirst | hlater
      · cases cue with
        | mount | unmount =>
            rw [hears, hears_runtime] at hfirst
            exact ⟨_, hcalled hfirst⟩
        | syncSignedIn => exact ⟨_, hcalled hfirst⟩
        | handle done => exact absurd List.mem_cons_self (hcues done)
        | work => exact Sitting.runtime_of_answers scene.hearsWork_answers action hfirst
        | pump | settle | start | resume | background | release | decide => cases hfirst
      · exact ih (fun done hdone => hcues done (List.mem_cons_of_mem _ hdone)) action hlater

end Scene

/-! ## The dialog of `new` -/

namespace Shell

variable {shell : Shell}

/-- Only for a signed-in user does the dialog open. -/
theorem isShown_opening (hclosed : shell.dialog = .closed) :
    (shell.run [.runtime .mount, .user (.activate .newWorksheet)]).dialog.isShown =
      shell.signedIn := by
  let mounted := (shell.step (.runtime .mount)).1
  have hsigned : mounted.signedIn = shell.signedIn := (step_turn shell _).signedIn_eq
  have hstill : mounted.dialog = .closed := by
    rw [(step_dialog shell _).1, dialogAfter_of_closed rfl hclosed]
  show (mounted.step (.user (.activate .newWorksheet))).1.dialog.isShown = shell.signedIn
  rw [(step_dialog mounted _).1, isShown_dialogAfter, hstill, ← hsigned]
  simp [opens, Action.activatesNew, Dialog.isShown]

/-- **The dialog sends the name that was typed**, made to fit. -/
theorem commands_creating (hsigned : shell.signedIn = true) (name : String) :
    Effect.commands (shell.effects [.runtime .mount, .user (.activate .newWorksheet),
      .user (.editName name), .user .confirmDialog]) =
        ["new " ++ Worksheet.effectiveName name] := by
  let mounted := (shell.step (.runtime .mount)).1
  let opened := (mounted.step (.user (.activate .newWorksheet))).1
  let named := (opened.step (.user (.editName name))).1
  have hmounted : mounted.signedIn = true := (step_turn shell _).signedIn_eq.trans hsigned
  have hopened : opened.dialog = .shown "" := by
    rw [(step_dialog mounted _).1, dialogAfter, if_pos]
    simpa [opens, Action.activatesNew] using hmounted
  have hnamed : named.dialog = .shown name := by
    rw [(step_dialog opened _).1, dialogAfter, hopened]
    rfl
  have hconfirmed : named.commandsOf (.user .confirmDialog) =
      ["new " ++ Worksheet.effectiveName name] := by
    rw [commandsOf, hnamed]
    rfl
  rw [← hconfirmed]
  simp only [effects, Effect.commands_append, (step_dialog _ _).2, List.append_nil]
  rfl

end Shell

namespace Command

open Host

/-- The calls with which `new` opens the dialog. -/
def opening : List Cue := [.mount, .handle (.activate .newWorksheet)]

/-- The calls of `new`, up to the last one. -/
def creating (name : String) : List Cue :=
  opening ++ [.handle (.editName name), .handle .confirmDialog]

variable (config : Config) (session : Option String) {name : String} {cues : List Cue}

/-- What is around when the host of a command is called. -/
def sceneOf (config : Config) (session : Option String) : Scene := ⟨hostOf config session, .idle⟩

/-- Every script of a command tells a story. -/
theorem sceneOf_story (backend : Http.Backend) (cues : List Cue) :
    Scene.Story (hostOf config session) ((sceneOf config session).heard backend cues)
      ((sceneOf config session).play backend cues) :=
  Scene.story_play config { signedIn := session.isSome } true none backend cues

/-- Every script of a command comes to a scene that can be reached. -/
theorem sceneOf_reachable (backend : Http.Backend) (cues : List Cue) :
    ((sceneOf config session).play backend cues).Reachable :=
  Scene.reachable_play config { signedIn := session.isSome } true none backend cues

/-- Every script of a command keeps the tally of what is sent. -/
theorem sceneOf_tallied (backend : Http.Backend) (cues : List Cue) :
    ((sceneOf config session).play backend cues).host.Tallied (hostOf config session).shell
      ((sceneOf config session).heard backend cues) :=
  have hfirst : (sceneOf config session).host.Tallied (hostOf config session).shell [] :=
    ⟨rfl, rfl, ⟨by simp [sceneOf, hostOf, Host.fresh], rfl⟩⟩
  Scene.play_tallied hfirst backend cues

/-- What the shell hears of the calls that open the dialog. -/
theorem opening_heard (backend : Http.Backend)
    (hcalls : cues.filter (!·.isInterlude) = opening) :
    (sceneOf config session).heard backend cues =
      [.runtime .mount, .user (.activate .newWorksheet)] := by
  have hactions : (cues.filter (!·.isInterlude)).map Cue.action? =
      [.runtime .mount, .user (.activate .newWorksheet)].map some := by
    rw [hcalls]
    rfl
  exact (Scene.heard_of_calls backend rfl hactions (by simp)).2

/-- After its last call the host is idle, and the shell has heard of all of them. -/
theorem creating_heard (backend : Http.Backend)
    (hcalls : cues.filter (!·.isInterlude) = creating name) :
    ((sceneOf config session).play backend cues).activity = .idle ∧
      (sceneOf config session).heard backend cues =
        [.runtime .mount, .user (.activate .newWorksheet), .user (.editName name),
          .user .confirmDialog] := by
  have hactions : (cues.filter (!·.isInterlude)).map Cue.action? =
      [.runtime .mount, .user (.activate .newWorksheet), .user (.editName name),
        .user .confirmDialog].map some := by
    rw [hcalls]
    rfl
  exact Scene.heard_of_calls backend rfl hactions (by simp)

/-- The script of a signed-in host that creates a worksheet and is not called by the user
again. -/
theorem commands_heard (backend : Http.Backend) (hsession : session.isSome = true)
    {later : List Cue} (hlater : ∀ action, .handle action ∉ later)
    (hcalls : cues.filter (!·.isInterlude) = creating name ++ later) :
    Effect.commands ((hostOf config session).shell.effects
      ((sceneOf config session).heard backend cues)) =
      ["new " ++ Worksheet.effectiveName name] := by
  obtain ⟨first, second, rfl, hfirst, hsecond⟩ := List.filter_eq_append_iff.mp hcalls
  obtain ⟨_, hheard⟩ := creating_heard config session backend hfirst
  have hquiet : ∀ action, .handle action ∉ second := by
    intro action hmem
    have hkept : .handle action ∈ second.filter (!·.isInterlude) :=
      List.mem_filter.mpr ⟨hmem, rfl⟩
    rw [hsecond] at hkept
    exact hlater action hkept
  rw [Scene.heard_append, hheard, Shell.effects_append, Effect.commands_append,
    Shell.commands_creating hsession,
    Shell.commands_of_runtime _ (Scene.runtime_of_mem_heard backend hquiet)]
  rfl

/-- **A signed-in host sends the name**, whatever goes on between its calls. -/
theorem creating_dispatched (backend : Http.Backend) (hsession : session.isSome = true)
    {later : List Cue} (hlater : ∀ action, .handle action ∉ later)
    (hcalls : cues.filter (!·.isInterlude) = creating name ++ later) :
    ((sceneOf config session).play backend cues).host.dispatched =
      ["new " ++ Worksheet.effectiveName name] := by
  rw [(sceneOf_story config session backend cues).dispatched,
    commands_heard config session backend hsession hlater hcalls]
  rfl

/-- **A signed-out host starts nothing and asks for nothing** when it is to open the dialog. -/
theorem opening_silent (backend : Http.Backend) (hsession : session.isSome = false)
    (hcalls : cues.filter (!·.isInterlude) = opening) :
    ((sceneOf config session).play backend cues).host.jobs = [] ∧
      ((sceneOf config session).play backend cues).host.requests = [] := by
  have hheard := opening_heard config session backend hcalls
  have hunattended : (hostOf config session).shell.Unattended := fun _ => ⟨rfl, rfl⟩
  have hstays : .runtime (.setSignedIn true) ∉
      [.runtime .mount, Action.user (.activate .newWorksheet)] := by simp
  obtain ⟨hharmless, _⟩ := Shell.run_harmless hunattended hsession hstays
  have hjobs : ((sceneOf config session).play backend cues).host.jobs = [] := by
    rw [(sceneOf_story config session backend cues).jobs, hheard,
      Effect.jobs_of_harmless _ hharmless]
    rfl
  have hmoves := Scene.play_moves backend (sceneOf config session) cues
  exact ⟨hjobs, hmoves.requests_of_taskless hjobs⟩

/-- **What `new` comes to.**  With a session it makes all its calls, lets the background come to
rest, and prints the command that belongs to the name; without one it stops at the dialog. -/
theorem createWorksheet_eq (backend : Http.Backend) :
    createWorksheet backend name (hostOf config session) =
      if session.isSome then
        ((((sceneOf config session).play backend (creating name)).host.settle backend).1.unmount.1,
          .ok ("sent: " ++ ("new " ++ Worksheet.effectiveName name) ++ "\n"))
      else (((sceneOf config session).play backend opening).host, .error .notSignedIn) := by
  let opened := ((sceneOf config session).play backend opening).host
  have hshell : opened.shell = (hostOf config session).shell.run
      [.runtime .mount, .user (.activate .newWorksheet)] := by
    have hstory := (sceneOf_story config session backend opening).shell
    rwa [opening_heard config session backend rfl] at hstory
  have hshown : opened.shell.dialog.isShown = session.isSome := by
    rw [hshell, Shell.isShown_opening rfl]
    rfl
  show (if !opened.shell.dialog.isShown then _ else _) = _
  rw [hshown]
  cases session.isSome with
  | true => rfl
  | false => rfl

/-- When a host has come to rest and the bar has disappeared, all it was told to send has been
posted. -/
theorem settle_unmount_posted (backend : Http.Backend) {host : Host} (htended : host.Tended)
    (hqueued : host.Queued) :
    (host.settle backend).1.unmount.1.dispatched = host.dispatched ∧
      (host.settle backend).1.unmount.1.posted = host.ledger := by
  obtain ⟨hsends, hunsent⟩ := Host.settle_unsent backend htended hqueued
  constructor
  · have hunmounted := apply_dispatched (.runtime .unmount) (host.settle backend).1
    exact (hunmounted.trans (List.append_nil _)).trans (settleRounds_dispatched backend _ host)
  · rw [Host.unmount, posted_apply, Host.posted_eq_ledger hunsent, hsends.ledger]

/-- **What `new` sends is posted**, whatever the replies are. -/
theorem createWorksheet_posted (backend : Http.Backend) (hsession : session.isSome = true) :
    (createWorksheet backend name (hostOf config session)).1.dispatched =
        ["new " ++ Worksheet.effectiveName name] ∧
      (createWorksheet backend name (hostOf config session)).1.posted =
        [config.service.post ("new " ++ Worksheet.effectiveName name)] := by
  have hquiet : ∀ action, .handle action ∉ ([] : List Cue) := by simp
  have hcalls : (creating name).filter (!·.isInterlude) = creating name ++ [] := rfl
  obtain ⟨hidle, _⟩ := creating_heard config session backend hcalls
  have htallied := sceneOf_tallied config session backend (creating name)
  have htended := (sceneOf_reachable config session backend
    (creating name)).tended hidle
  obtain ⟨hdispatched, hposted⟩ := settle_unmount_posted backend htended htallied.queued
  rw [createWorksheet_eq, if_pos hsession]
  dsimp only
  refine ⟨hdispatched.trans (creating_dispatched config session backend hsession hquiet hcalls), ?_⟩
  refine hposted.trans (htallied.ledger.trans ?_)
  rw [commands_heard config session backend hsession hquiet hcalls]
  rfl

/-! ## What `new` prints -/

variable {config} {setting : Setting} {arguments : List String} {options : Options}

/-- Once its arguments and its configuration are read, `new` prints what comes of its calls. -/
theorem run_new (hread : Options.parse arguments = .ok options)
    (hconfig : configOf setting options = .ok config) :
    run setting ("new" :: arguments) =
      .of (createWorksheet (backendOf setting config (options.token? setting.session))
        (nameOf options) (hostOf config (options.token? setting.session))).2 := by
  have hrun : run setting ("new" :: arguments) =
      .of ((optionsOf arguments).bind (runNew setting)) := by
    simp [run]
  rw [hrun, optionsOf, hread]
  show Report.of (runNew setting options) = _
  rw [runNew, hconfig]
  rfl

/-- There is a session exactly if the token that was given, or else the one around, is not
blank. -/
theorem isSome_token?_iff {around : Option String} :
    (options.token? around).isSome = true ↔
      ∃ token, options.session.or around = some token ∧ Text.isBlank token = false := by
  rw [Option.isSome_iff_exists]
  exact exists_congr fun token => token?_eq_some

/-- **`new` reports what it sent.**  Take any arguments and any configuration that can be read.
With a token that is not blank, the one that was given or else the one around, exactly one
command is given to the dispatcher and posted: it creates a worksheet under the words of the
command, with a space between them, made to fit.  Whatever the replies are, that command is
printed behind `sent: `, and whatever goes on between the calls, no other one is sent.

Without such a token `new` prints nothing and fails, for nobody is signed in.  Then no task was
started and no request was made, not even for the profile, whatever goes on between the calls,
and nothing is put on the wire beforehand. -/
theorem new_reports_what_it_sent (hread : Options.parse arguments = .ok options)
    (hconfig : configOf setting options = .ok config) :
    let session := options.token? setting.session
    let name := String.intercalate " " options.words
    let command := "new " ++ Worksheet.effectiveName name
    let post := (config.service.commandPath, Json.object [("command", .string command)])
    ((∃ token, options.session.or setting.session = some token ∧ Text.isBlank token = false) →
      run setting ("new" :: arguments) = .printed ("sent: " ++ command ++ "\n") ∧
      (∀ backend, ∃ host, createWorksheet backend name (hostOf config session) =
          (host, .ok ("sent: " ++ command ++ "\n")) ∧
        host.dispatched = [command] ∧ host.posted = [post]) ∧
      ∀ backend cues later, (∀ action, .handle action ∉ later) →
        cues.filter (!·.isInterlude) = creating name ++ later →
        let host := ((sceneOf config session).play backend cues).host
        host.dispatched = [command] ∧
          ((∀ task ∈ host.tasks, task.stage ≠ .spawned) → host.posted = [post])) ∧
    ((∀ token, options.session.or setting.session = some token → Text.isBlank token = true) →
      run setting ("new" :: arguments) = .failed "" .notSignedIn ∧
      (∀ backend, ∃ host, createWorksheet backend name (hostOf config session) =
          (host, .error .notSignedIn) ∧ host.jobs = [] ∧ host.requests = []) ∧
      (∀ backend cues, cues.filter (!·.isInterlude) = opening →
        let host := ((sceneOf config session).play backend cues).host
        host.jobs = [] ∧ host.requests = []) ∧
      demand setting ("new" :: arguments) = []) := by
  intro session name command post
  have hsaid : ∀ {host said}, createWorksheet (backendOf setting config session) name
      (hostOf config session) = (host, said) →
      run setting ("new" :: arguments) = .of said := by
    intro host said hcreated
    rw [run_new hread hconfig]
    exact congrArg (fun outcome => Report.of outcome.2) hcreated
  constructor
  · intro htoken
    have hsession : session.isSome = true := isSome_token?_iff.mpr htoken
    have hcreated : ∀ backend, createWorksheet backend name (hostOf config session) =
        ((createWorksheet backend name (hostOf config session)).1,
          .ok ("sent: " ++ command ++ "\n")) := by
      intro backend
      rw [createWorksheet_eq, if_pos hsession]
    refine ⟨hsaid (hcreated _), fun backend => ⟨_, hcreated backend, ?_⟩, ?_⟩
    · exact createWorksheet_posted config session backend hsession
    · intro backend cues later hlater hcalls host
      refine ⟨creating_dispatched config session backend hsession hlater hcalls, fun hstarted => ?_⟩
      rw [Host.posted_eq_ledger (Host.unsent_eq_nil hstarted),
        (sceneOf_tallied config session backend cues).ledger,
        commands_heard config session backend hsession hlater hcalls]
      rfl
  · intro hblank
    have hsession : session.isSome = false := by
      rw [← Bool.not_eq_true, isSome_token?_iff]
      rintro ⟨token, htoken, hnot⟩
      rw [hblank token htoken] at hnot
      cases hnot
    have hcreated : ∀ backend, createWorksheet backend name (hostOf config session) =
        (((sceneOf config session).play backend opening).host, .error .notSignedIn) := by
      intro backend
      rw [createWorksheet_eq, if_neg (by simp [hsession])]
    refine ⟨hsaid (hcreated _), fun backend => ⟨_, hcreated backend, ?_⟩, ?_, ?_⟩
    · exact opening_silent config session backend hsession rfl
    · intro backend cues hcalls
      exact opening_silent config session backend hsession hcalls
    · have hread' : optionsOf arguments = .ok options := by
        rw [optionsOf, hread]
        rfl
      exact demand_signedOut setting "new" arguments hread' (by simpa [session] using hsession)

/-- A name in two words, the second with a line break in it: with the token that was given it is
sent, although the service never answers; and a blank token does not fall back to the one
around. -/
theorem new_reports_what_it_sent_broken :
    let setting : Setting :=
      { session := some "around", files := fun _ => .missing, wire := fun _ => none }
    run setting ["new", "my", "--session", "abc", "sheet\n2"] =
        .printed "sent: new my sheet 2\n" ∧
      run setting ["new", "my", "--session", " ", "sheet\n2"] = .failed "" .notSignedIn := by
  intro setting
  have hline : "sent: " ++ ("new " ++ Worksheet.effectiveName
      (String.intercalate " " ["my", "sheet\n2"])) ++ "\n" = "sent: new my sheet 2\n" := by
    decide +kernel
  have hread : Options.parse ["my", "--session", "abc", "sheet\n2"] =
      .ok { session := some "abc", words := ["my", "sheet\n2"] } := rfl
  have hreadBlank : Options.parse ["my", "--session", " ", "sheet\n2"] =
      .ok { session := some " ", words := ["my", "sheet\n2"] } := rfl
  have hconfig : ∀ token,
      configOf setting { session := some token, words := ["my", "sheet\n2"] } = .ok {} :=
    fun _ => rfl
  obtain ⟨hsent, _⟩ := new_reports_what_it_sent hread (hconfig "abc")
  obtain ⟨_, hfails⟩ := new_reports_what_it_sent hreadBlank (hconfig " ")
  have hprinted := (hsent ⟨"abc", rfl, by decide +kernel⟩).1
  rw [hline] at hprinted
  refine ⟨hprinted, (hfails ?_).1⟩
  intro token htoken
  cases htoken
  decide +kernel

end Command

end WorksheetBar
