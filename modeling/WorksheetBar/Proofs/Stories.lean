import WorksheetBar.Proofs.Cues

/-!
# Stories

A scene that can be reached has come about somehow: the host was called for this and that,
its thread did its work, and things happened around it, in whatever order.  The **story** of
a scene is all that the shell has heard on the way.  Unlike a script, a story lets any task go
on at any time.

What happens around a host is hidden from the shell, and from everything else that the
thread alone has in hand.

* `Story.shell` — the shell is what becomes of the one at the start when it hears the story;
* `Reachable.exists_story` — every scene that can be reached has a story;
* `story_play` — every script tells one;
* `Progress.backstage` — what the background leaves alone;
* `Move.hears` — what a move comes to is what the actions come to that it makes the shell hear.
-/

namespace WorksheetBar

open Host

/-- What a host can be called for. -/
inductive Operation where
  | mount
  | unmount
  | syncSignedIn
  | handle (action : UserAction)
  | pump
  | settle
  deriving DecidableEq, Repr

namespace Host

/-- The scene to which a call comes at once: the end of it, or the head of a loop. -/
def enter (host : Host) : Operation → Scene
  | .mount => ⟨host.mount.1, .idle⟩
  | .unmount => ⟨host.unmount.1, .idle⟩
  | .syncSignedIn => ⟨host.syncSignedIn.1, .idle⟩
  | .handle action => ⟨(handle action host).1, .idle⟩
  | .pump => ⟨host.letGo, .pumping none⟩
  | .settle => ⟨host, .settling 0⟩

/-- What the shell hears at once when the host is called. -/
def hearsAtOnce (host : Host) : Operation → List Action
  | .mount => host.hears (.runtime .mount)
  | .unmount => host.hears (.runtime .unmount)
  | .syncSignedIn => [.runtime (.setSignedIn host.provider.signedIn)]
  | .handle action => host.hears (.user action)
  | .pump | .settle => []

/-- The calls of a host are its operations. -/
theorem call_iff {host : Host} {scene : Scene} :
    Call host scene ↔ ∃ operation, scene = host.enter operation := by
  constructor
  · intro hcall
    cases hcall with
    | mount => exact ⟨.mount, rfl⟩
    | unmount => exact ⟨.unmount, rfl⟩
    | syncSignedIn => exact ⟨.syncSignedIn, rfl⟩
    | handle action => exact ⟨.handle action, rfl⟩
    | pump => exact ⟨.pump, rfl⟩
    | settle => exact ⟨.settle, rfl⟩
  · rintro ⟨operation, rfl⟩
    cases operation with
    | mount => exact .mount host
    | unmount => exact .unmount host
    | syncSignedIn => exact .syncSignedIn host
    | handle action => exact .handle host action
    | pump => exact .pump host
    | settle => exact .settle host

/-! ## Behind the scenes -/

/-- The journal entry that was reported. -/
def Happening.relayed? : Happening → Option Journal.Entry
  | reported (.relayed entry) => some entry
  | reported _ | requested _ | navigated _ | signedOut => none

/-- The journal entries that a host has reported, in order. -/
def mirrored (host : Host) : List Journal.Entry := host.record.filterMap Happening.relayed?

/-- All that was ever started, in order. -/
def jobs (host : Host) : List Job := host.tasks.map Task.job

@[simp] theorem mirrored_note (host : Host) (happening : Happening) :
    (host.note happening).mirrored = host.mirrored ++ happening.relayed?.toList := by
  cases hrelayed : happening.relayed? <;> simp [mirrored, note, hrelayed]

/-- Nothing has changed that only the thread of the host has in hand: the shell, what was
reported of its journal, what was started, and what the provider makes of being asked. -/
structure Backstage (before after : Host) : Prop where
  shell : after.shell = before.shell
  relayed : after.relayed = before.relayed
  mirrored : after.mirrored = before.mirrored
  jobs : after.jobs = before.jobs
  isSticky : after.provider.isSticky = before.provider.isSticky

theorem backstage_refl (host : Host) : Backstage host host := ⟨rfl, rfl, rfl, rfl, rfl⟩

theorem Backstage.trans {first second third : Host} (h : Backstage first second)
    (h' : Backstage second third) : Backstage first third :=
  ⟨h'.shell.trans h.shell, h'.relayed.trans h.relayed, h'.mirrored.trans h.mirrored,
    h'.jobs.trans h.jobs, h'.isSticky.trans h.isSticky⟩

theorem backstage_note (host : Host) (happening : Happening)
    (hrelayed : happening.relayed? = none) : Backstage host (host.note happening) := by
  refine ⟨rfl, rfl, ?_, rfl, rfl⟩
  rw [mirrored_note, hrelayed, Option.toList_none, List.append_nil]

/-- A task keeps its job, whatever stage it comes to. -/
theorem backstage_setStage (host : Host) (index : Nat) (stage : Stage) :
    Backstage host (host.setStage index stage) := by
  refine ⟨rfl, rfl, rfl, ?_, rfl⟩
  apply List.ext_getElem?
  intro place
  simp only [jobs, setStage, List.getElem?_map, List.getElem?_modify]
  split <;> cases host.tasks[place]? <;> rfl

theorem complete_backstage (host : Host) (completion : Completion) :
    Backstage host (host.complete completion) := by
  unfold complete
  split
  · exact ⟨rfl, rfl, rfl, rfl, rfl⟩
  · exact backstage_note host _ rfl

theorem answerFetch_backstage (backend : Http.Backend) (host : Host) (index : Nat)
    (ticket : Ticket) (path : String) :
    Backstage host (answerFetch backend host index ticket path) := by
  have hcounted : Backstage host { host with gets := host.gets + 1 } := ⟨rfl, rfl, rfl, rfl, rfl⟩
  unfold answerFetch
  dsimp only
  split
  · exact hcounted.trans (backstage_setStage _ index .died)
  · exact (hcounted.trans (complete_backstage _ _)).trans (backstage_setStage _ index .ended)

theorem beginFetch_backstage (backend : Http.Backend) (host : Host) (index : Nat)
    (ticket : Ticket) (path : String) :
    Backstage host (beginFetch backend host index ticket path) := by
  let asked := (host.report (.fetching path)).note (.requested (.get path))
  have hasked : Backstage host asked :=
    (backstage_note host _ rfl).trans (backstage_note _ _ rfl)
  have hcounted : ∀ most permits, Backstage host { asked with mostGets := most, permits } :=
    fun _ _ => hasked.trans ⟨rfl, rfl, rfl, rfl, rfl⟩
  unfold beginFetch
  dsimp only
  split
  · exact (hcounted _ _).trans (answerFetch_backstage backend _ index ticket path)
  · exact (hcounted _ _).trans (backstage_setStage _ index .waiting)
  · exact (hcounted _ _).trans (answerFetch_backstage backend _ index ticket path)

theorem sendCommand_backstage (backend : Http.Backend) (host : Host) (index : Nat)
    (command path : String) : Backstage host (sendCommand backend host index command path) := by
  let sent := host.note (.requested (.post path (Dispatch.body command)))
  have hcounted : Backstage host { sent with posts := sent.posts + 1 } :=
    (backstage_note host _ rfl).trans ⟨rfl, rfl, rfl, rfl, rfl⟩
  unfold sendCommand
  dsimp only
  split
  · exact hcounted.trans (backstage_setStage _ index .died)
  · exact (hcounted.trans (backstage_note _ _ rfl)).trans (backstage_setStage _ index .ended)
  · exact (hcounted.trans (backstage_note _ _ rfl)).trans (backstage_setStage _ index .ended)

theorem advance_backstage (backend : Http.Backend) (host : Host) (index : Nat) :
    Backstage host (advance backend host index) := by
  unfold advance
  split
  · exact backstage_refl host
  · split
    · exact beginFetch_backstage backend host index _ _
    · exact answerFetch_backstage backend host index _ _
    · exact sendCommand_backstage backend host index _ _
    · exact backstage_refl host

theorem foldl_advance_backstage (backend : Http.Backend) (line : List Nat) (host : Host) :
    Backstage host (line.foldl (advance backend) host) := by
  induction line generalizing host with
  | nil => exact backstage_refl host
  | cons index rest ih => exact (advance_backstage backend host index).trans (ih _)

theorem admitFrom_backstage (index more : Nat) (host : Host) :
    Backstage host (admitFrom index more host) := by
  induction more generalizing index host with
  | zero => exact backstage_refl host
  | succ more ih =>
      unfold admitFrom
      split
      · refine Backstage.trans ?_ (ih _ _)
        split
        · exact (backstage_setStage host index .letThrough).trans ⟨rfl, rfl, rfl, rfl, rfl⟩
        · exact backstage_refl host
      · exact backstage_refl host

/-- **What happens around a host stays behind the scenes.** -/
theorem Progress.backstage {before after : Host} (h : Progress before after) :
    Backstage before after := by
  cases h with
  | advance backend index => exact advance_backstage backend before index
  | runBackground backend =>
      have hempty : Backstage before { before with line := [] } := ⟨rfl, rfl, rfl, rfl, rfl⟩
      exact hempty.trans (foldl_advance_backstage backend before.line _)
  | release count =>
      have hopen : Backstage before
          { before with permits := before.permits.map (· + count) } := ⟨rfl, rfl, rfl, rfl, rfl⟩
      exact hopen.trans (admitFrom_backstage _ _ _)
  | decide value => exact ⟨rfl, rfl, rfl, rfl, rfl⟩

/-- Taking hold of tasks and letting them go is behind the scenes, too. -/
theorem Regrips.backstage {before after : Host} (h : Regrips before after) :
    Backstage before after := by
  cases h with
  | intro change hjob _ =>
      refine ⟨rfl, rfl, rfl, ?_, rfl⟩
      have hsame : Task.job ∘ change = Task.job := funext hjob
      rw [jobs, jobs, List.map_map, hsame]

/-! ## What is heard -/

/-- The shell has heard some actions: it has become what they make of it, and what they ask for
was started.  Only a provider that says so tells it that the user is signed in. -/
structure Hears (before after : Host) (actions : List Action) : Prop where
  shell : after.shell = before.shell.run actions
  jobs : after.jobs = before.jobs ++
    Effect.jobs before.shell.config.service (before.shell.effects actions)
  isSticky : after.provider.isSticky = before.provider.isSticky
  signsIn : .runtime (.setSignedIn true) ∈ actions → before.provider.signedIn = true

/-- Of what goes on behind the scenes the shell hears nothing. -/
theorem Backstage.hears {before after : Host} (h : Backstage before after) :
    Hears before after [] := by
  refine ⟨h.shell, ?_, h.isSticky, fun hmem => absurd hmem List.not_mem_nil⟩
  rw [h.jobs]
  exact (List.append_nil _).symm

/-- What is started is added to all that was. -/
theorem Spawns.jobs {before after : Host} {jobs : List Job} (h : Spawns before after jobs) :
    after.jobs = before.jobs ++ jobs := by
  have hstarted : (started jobs).map Task.job = jobs := by
    rw [started, List.map_map]
    exact List.map_id jobs
  rw [Host.jobs, h.tasks, List.map_append, hstarted, Host.jobs]

/-- The shell hears what the provider says of the user. -/
theorem syncSignedIn_hears (host : Host) :
    Hears host host.syncSignedIn.1 [.runtime (.setSignedIn host.provider.signedIn)] := by
  obtain ⟨hspawns, hshell⟩ := syncSignedIn_eq host
  refine ⟨hshell, hspawns.jobs, ?_, fun hmem => ?_⟩
  · rw [syncSignedIn_provider]
  · have heq := List.mem_singleton.mp hmem
    cases hsigned : host.provider.signedIn with
    | true => rfl
    | false =>
        rw [hsigned] at heq
        cases heq

/-- An action is heard, and after it what the end of a session brings with it. -/
theorem apply_hears (action : Action) (haction : action ≠ .runtime (.setSignedIn true))
    (host : Host) : Hears host (apply action host).1 (host.hears action) := by
  obtain ⟨hspawns, hshell⟩ := apply_eq action host
  refine ⟨hshell, hspawns.jobs, ?_, fun hmem => ?_⟩
  · rw [apply_provider]
    split <;> rfl
  · rcases mem_hears hmem with heq | heq
    · exact absurd heq.symm haction
    · have hsigned : host.provider.signedIn = true ∧ host.provider.isSticky = true := by
        simpa [Provider.signOut] using heq
      exact hsigned.1

/-- A call makes the shell hear what it hears at once. -/
theorem enter_hears (host : Host) (operation : Operation) :
    Hears host (host.enter operation).host (host.hearsAtOnce operation) := by
  cases operation with
  | mount => exact apply_hears (.runtime .mount) (by simp) host
  | unmount => exact apply_hears (.runtime .unmount) (by simp) host
  | syncSignedIn => exact syncSignedIn_hears host
  | handle action => exact apply_hears (.user action) (by simp) host
  | pump => exact (regrips_letGo host).backstage.hears
  | settle => exact (backstage_refl host).hears

/-- At once, a call makes the shell hear what the user did, that it is shown or taken away, or what
the provider says. -/
theorem mem_hearsAtOnce {host : Host} {operation : Operation} {action : Action}
    (h : action ∈ host.hearsAtOnce operation) :
    (∃ done, operation = .handle done ∧ action = .user done) ∨
      (operation = .unmount ∧ action = .runtime .unmount) ∨ action = .runtime .mount ∨
      ∃ value, action = .runtime (.setSignedIn value) := by
  cases operation with
  | mount | unmount | handle => rcases mem_hears h with rfl | rfl <;> simp
  | syncSignedIn => exact Or.inr (Or.inr (Or.inr ⟨_, List.mem_singleton.mp h⟩))
  | pump | settle => cases h

end Host

namespace Scene

/-- Of what the thread does after a call, only taking in an answer is not behind the scenes. -/
theorem Work.backstage {scene next : Scene} (hwork : Work scene next) :
    Backstage scene.host next.host ∧ scene.hearsWork = [] ∨
      ∃ round completion rest, scene.activity = .pumping round ∧
        scene.host.inbox = completion :: rest ∧
        next.host = Host.receive { scene.host with inbox := rest } completion ∧
        scene.hearsWork = [.runtime (.fetched completion.ticket completion.result)] := by
  cases hwork with
  | receive round hinbox =>
      exact Or.inr ⟨round, _, _, rfl, hinbox, rfl, by simp [hearsWork, hinbox]⟩
  | pumped hinbox | gathered _ hinbox =>
      exact Or.inl ⟨backstage_refl _, by simp [hearsWork, hinbox]⟩
  | take => exact Or.inl ⟨(regrips_takeTasks _).backstage, rfl⟩
  | awaited =>
      refine Or.inl ⟨?_, rfl⟩
      dsimp only
      split
      · exact backstage_note _ _ rfl
      · exact backstage_refl _
  | gather => exact Or.inl ⟨(regrips_letGo _).backstage, rfl⟩
  | settled => exact Or.inl ⟨backstage_refl _, rfl⟩

/-- What the thread does after a call makes the shell hear of an answer, if anything. -/
theorem Work.hears {scene next : Scene} (hwork : Work scene next) :
    Hears scene.host next.host scene.hearsWork := by
  rcases hwork.backstage with ⟨hbackstage, hhears⟩ | ⟨_, completion, rest, _, _, hnext, hhears⟩
  · rw [hhears]
    exact hbackstage.hears
  · have hreceived := apply_hears (.runtime (.fetched completion.ticket completion.result))
      (by simp) { scene.host with inbox := rest }
    rw [hears_runtime] at hreceived
    rw [hhears, hnext]
    exact ⟨hreceived.shell, hreceived.jobs, hreceived.isSticky, hreceived.signsIn⟩

/-- **A move makes the shell hear some actions.** -/
theorem Move.hears {scene next : Scene} (hmove : Move scene next) :
    ∃ actions, Hears scene.host next.host actions := by
  cases hmove with
  | call hcall =>
      obtain ⟨operation, rfl⟩ := call_iff.mp hcall
      exact ⟨_, enter_hears _ operation⟩
  | work hwork => exact ⟨_, hwork.hears⟩
  | progress _ hprogress => exact ⟨[], hprogress.backstage.hears⟩

/-- How a scene has come about, and all that the shell has heard on the way. -/
inductive Story (start : Host) : List Action → Scene → Prop
  | opening : Story start [] ⟨start, .idle⟩
  | call {heard : List Action} {host : Host} (h : Story start heard ⟨host, .idle⟩)
      (operation : Operation) :
      Story start (heard ++ host.hearsAtOnce operation) (host.enter operation)
  | work {heard : List Action} {scene next : Scene} (h : Story start heard scene)
      (hwork : Work scene next) : Story start (heard ++ scene.hearsWork) next
  | progress {heard : List Action} {host next : Host} {activity : Activity}
      (h : Story start heard ⟨host, activity⟩) (hprogress : Host.Progress host next) :
      Story start heard ⟨next, activity⟩

/-- **The shell is what becomes of the one at the start when it hears the story.** -/
theorem Story.shell {start : Host} {heard : List Action} {scene : Scene}
    (h : Story start heard scene) : scene.host.shell = start.shell.run heard := by
  induction h with
  | opening => rfl
  | call _ operation ih => rw [(enter_hears _ operation).shell, ih, Shell.run_append]
  | work _ hwork ih => rw [hwork.hears.shell, ih, Shell.run_append]
  | progress _ hprogress ih => rw [hprogress.backstage.shell, ih]

/-- A story goes on with every move. -/
theorem Story.move {start : Host} {heard : List Action} {scene next : Scene}
    (h : Story start heard scene) (hmove : Move scene next) :
    ∃ more, Story start (heard ++ more) next := by
  cases hmove with
  | call hcall =>
      obtain ⟨operation, rfl⟩ := call_iff.mp hcall
      exact ⟨_, h.call operation⟩
  | work hwork => exact ⟨_, h.work hwork⟩
  | progress _ hprogress => exact ⟨[], by simpa using h.progress hprogress⟩

/-- Every run has a story. -/
theorem Moves.exists_story {start : Host} {scene : Scene} (hmoves : Moves ⟨start, .idle⟩ scene) :
    ∃ heard, Story start heard scene := by
  induction hmoves with
  | refl => exact ⟨[], .opening⟩
  | tail _ hmove ih =>
      obtain ⟨heard, h⟩ := ih
      obtain ⟨more, hmore⟩ := h.move hmove
      exact ⟨heard ++ more, hmore⟩

/-- **Every scene that can be reached has a story.** -/
theorem Reachable.exists_story {scene : Scene} (h : scene.Reachable) :
    ∃ start heard, Host.Starts start ∧ Story start heard scene := by
  obtain ⟨start, hstarts, hmoves⟩ := h
  obtain ⟨heard, hstory⟩ := hmoves.exists_story
  exact ⟨start, heard, hstarts, hstory⟩

/-- What is true of every run of a shell is true of the shell in every scene. -/
theorem Reachable.exists_run {scene : Scene} (h : scene.Reachable) :
    ∃ config signedIn actions,
      scene.host.shell = (Shell.fresh config signedIn).run actions := by
  obtain ⟨start, heard, hstarts, hstory⟩ := h.exists_story
  cases hstarts with
  | fresh config provider isTerminal permits =>
      exact ⟨config, provider.signedIn, heard, hstory.shell⟩

/-! ## Scripts tell stories -/

/-- A call goes on with a story, if the thread is free for it. -/
theorem Story.called {start : Host} {heard : List Action} {scene : Scene}
    (h : Story start heard scene) (operation : Operation) :
    Story start (heard ++ scene.hearsCalled (scene.host.hearsAtOnce operation))
      (scene.called fun host => host.enter operation) := by
  obtain ⟨host, activity⟩ := scene
  unfold Scene.called hearsCalled
  split
  · next hidle =>
      obtain rfl : activity = .idle := hidle
      exact h.call operation
  · rw [List.append_nil]
    exact h

/-- A step of the thread goes on with a story, if there is one to take. -/
theorem Story.workOn {start : Host} {heard : List Action} {scene : Scene}
    (h : Story start heard scene) : Story start (heard ++ scene.hearsWork) scene.work := by
  rcases scene.work_or_stuck with hwork | ⟨hsame, hhears⟩
  · exact h.work hwork
  · rw [hsame, hhears, List.append_nil]
    exact h

/-- **A story goes on with every cue**, by what the shell hears on it. -/
theorem Story.next {start : Host} {heard : List Action} {scene : Scene}
    (h : Story start heard scene) (backend : Http.Backend) (cue : Cue) :
    Story start (heard ++ scene.hears cue) (scene.next backend cue) := by
  have hunheard : ∀ {after : Scene}, Story start heard after → Story start (heard ++ []) after :=
    fun hafter => by rwa [List.append_nil]
  cases cue with
  | mount => exact h.called .mount
  | unmount => exact h.called .unmount
  | syncSignedIn => exact h.called .syncSignedIn
  | handle action => exact h.called (.handle action)
  | pump =>
      have hcalled := h.called .pump
      rw [hearsAtOnce, hearsCalled, ite_self] at hcalled
      exact hcalled
  | settle =>
      have hcalled := h.called .settle
      rw [hearsAtOnce, hearsCalled, ite_self] at hcalled
      exact hcalled
  | work => exact h.workOn
  | start =>
      apply hunheard
      simp only [Scene.next, Host.start]
      split
      · exact h
      · exact h.progress (.advance _ backend _)
  | resume index =>
      apply hunheard
      simp only [Scene.next, Host.resume]
      split
      · exact h
      · exact h.progress (.advance _ backend index)
  | background => exact hunheard (h.progress (.runBackground _ backend))
  | release count => exact hunheard (h.progress (.release _ count))
  | decide value => exact hunheard (h.progress (.decide _ value))

/-- Every script goes on with a story. -/
theorem Story.play {start : Host} {heard : List Action} {scene : Scene}
    (h : Story start heard scene) (backend : Http.Backend) (cues : List Cue) :
    Story start (heard ++ scene.heard backend cues) (scene.play backend cues) := by
  induction cues generalizing heard scene with
  | nil =>
      rw [Scene.heard, List.append_nil]
      exact h
  | cons cue rest ih =>
      rw [Scene.heard, ← List.append_assoc]
      exact ih (h.next backend cue)

/-- **Every script tells a story**: that of all its shell hears. -/
theorem story_play (config : Config) (provider : Host.Provider) (isTerminal : Bool)
    (permits : Option Nat) (backend : Http.Backend) (cues : List Cue) :
    Story (fresh config provider isTerminal permits).host
      ((fresh config provider isTerminal permits).heard backend cues)
      ((fresh config provider isTerminal permits).play backend cues) :=
  Story.opening.play backend cues

end Scene

end WorksheetBar
