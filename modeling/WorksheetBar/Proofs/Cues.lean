import WorksheetBar.Proofs.SettleOutcome

/-!
# Runs by cue

A list of cues is a script for a host and its background: each cue says what happens next,
a call of the host, the next piece of its work, or something around it.  What comes of it is
a function of the cues and of what the service replies, so runs with different replies can be
set side by side.

Tasks start in the order in which they were spawned, whatever else happens in between; a
task that was let through the gate goes on at any time.  A cue that nobody can follow
changes nothing.

* `next_moves` — a cue makes a move, or changes nothing;
* `reachable_play` — so whatever is true of every scene that can be reached is true along
  every script;
* `pump_play`, `settle_play` — pumping and settling are scripts of their own.
-/

namespace WorksheetBar

namespace Host

/-- Whether the task at a place has not started. -/
def isUnstarted (host : Host) (index : Nat) : Bool :=
  host.tasks[index]?.any fun task => task.stage == .spawned

/-- The tasks that have not started, by their places. -/
def unstarted (host : Host) : List Nat :=
  (List.range host.tasks.length).filter host.isUnstarted

/-- The first task that has not started starts. -/
def start (backend : Http.Backend) (host : Host) : Host :=
  match host.unstarted with
  | [] => host
  | index :: _ => advance backend host index

/-- A task that was let through the gate goes on. -/
def resume (backend : Http.Backend) (host : Host) (index : Nat) : Host :=
  if host.isUnstarted index then host else advance backend host index

end Host

/-- What happens next. -/
inductive Cue where
  | mount
  | unmount
  | syncSignedIn
  | handle (action : UserAction)
  | pump
  | settle
  /-- The thread of the host does the next piece of its work. -/
  | work
  /-- The first task that has not started starts. -/
  | start
  /-- A task goes on that has started. -/
  | resume (index : Nat)
  /-- Every task goes on that is ready. -/
  | background
  | release (count : Nat)
  /-- The provider changes its mind. -/
  | decide (value : Bool)
  deriving DecidableEq, Repr

namespace Scene

open Host Relation

/-- The scene of a host that has done nothing yet. -/
def fresh (config : Config) (provider : Host.Provider) (isTerminal : Bool)
    (permits : Option Nat) : Scene :=
  ⟨{ Host.fresh config provider with isTerminal, permits }, .idle⟩

/-- A call, if the host is idle. -/
def called (scene : Scene) (call : Host → Scene) : Scene :=
  if scene.activity = .idle then call scene.host else scene

/-- The next piece of work, unless there is none or the thread has to wait. -/
def work (scene : Scene) : Scene :=
  match scene.activity with
  | .idle => scene
  | .pumping round =>
    match scene.host.inbox with
    | completion :: rest =>
      ⟨Host.receive { scene.host with inbox := rest } completion, .pumping round⟩
    | [] =>
      match round with
      | none => ⟨scene.host, .idle⟩
      | some round => ⟨scene.host, .settling round⟩
  | .settling rounds =>
    if scene.host.held = [] then ⟨scene.host, .idle⟩
    else ⟨scene.host.takeTasks, .awaiting (rounds + 1) scene.host.held⟩
  | .awaiting round [] => ⟨scene.host.letGo, .pumping (some round)⟩
  | .awaiting round (index :: left) =>
    match scene.host.tasks[index]? with
    | none => scene
    | some task =>
      if task.stage.isOver then
        ⟨if task.stage = .died then scene.host.report .taskFailed else scene.host,
          .awaiting round left⟩
      else scene

/-- The scene after a cue. -/
def next (backend : Http.Backend) (scene : Scene) : Cue → Scene
  | .mount => scene.called fun host => ⟨host.mount.1, .idle⟩
  | .unmount => scene.called fun host => ⟨host.unmount.1, .idle⟩
  | .syncSignedIn => scene.called fun host => ⟨host.syncSignedIn.1, .idle⟩
  | .handle action => scene.called fun host => ⟨(Host.handle action host).1, .idle⟩
  | .pump => scene.called fun host => ⟨host.letGo, .pumping none⟩
  | .settle => scene.called fun host => ⟨host, .settling 0⟩
  | .work => scene.work
  | .start => { scene with host := scene.host.start backend }
  | .resume index => { scene with host := scene.host.resume backend index }
  | .background => { scene with host := scene.host.runBackground backend }
  | .release count => { scene with host := scene.host.release count }
  | .decide value =>
    { scene with host :=
        { scene.host with provider := { scene.host.provider with signedIn := value } } }

/-- The scene after some cues. -/
def play (backend : Http.Backend) (scene : Scene) (cues : List Cue) : Scene :=
  cues.foldl (next backend) scene

/-- What the shell hears when the host is called, if the host is idle. -/
def hearsCalled (scene : Scene) (actions : List Action) : List Action :=
  if scene.activity = .idle then actions else []

/-- What the shell hears when the thread of the host goes on. -/
def hearsWork (scene : Scene) : List Action :=
  match scene.activity, scene.host.inbox with
  | .pumping _, completion :: _ => [.runtime (.fetched completion.ticket completion.result)]
  | _, _ => []

/-- What the shell hears on a cue. -/
def hears (scene : Scene) : Cue → List Action
  | .mount => scene.hearsCalled (scene.host.hears (.runtime .mount))
  | .unmount => scene.hearsCalled (scene.host.hears (.runtime .unmount))
  | .syncSignedIn => scene.hearsCalled [.runtime (.setSignedIn scene.host.provider.signedIn)]
  | .handle action => scene.hearsCalled (scene.host.hears (.user action))
  | .work => scene.hearsWork
  | .pump | .settle | .start | .resume _ | .background | .release _ | .decide _ => []

/-- All that the shell hears on some cues, in order. -/
def heard (backend : Http.Backend) (scene : Scene) : List Cue → List Action
  | [] => []
  | cue :: rest => scene.hears cue ++ heard backend (scene.next backend cue) rest

theorem play_append (backend : Http.Backend) (scene : Scene) (first second : List Cue) :
    scene.play backend (first ++ second) = (scene.play backend first).play backend second := by
  simp [play, List.foldl_append]

/-- A call is a move if the thread is free for it, and nothing otherwise. -/
theorem called_moves (scene : Scene) {call : Host → Scene}
    (hcall : ∀ host, Host.Call host (call host)) : Moves scene (scene.called call) := by
  obtain ⟨host, activity⟩ := scene
  unfold called
  split
  · next hidle =>
      obtain rfl : activity = .idle := hidle
      exact .single (.call (hcall host))
  · exact .refl

/-- The thread of the host does nothing but its work, and where it is stuck nothing is heard. -/
theorem work_or_stuck (scene : Scene) :
    Work scene scene.work ∨ scene.work = scene ∧ scene.hearsWork = [] := by
  obtain ⟨host, activity⟩ := scene
  cases activity with
  | idle => exact Or.inr ⟨rfl, rfl⟩
  | pumping round =>
      simp only [work]
      cases hinbox : host.inbox with
      | cons completion rest => exact Or.inl (.receive round hinbox)
      | nil =>
          cases round with
          | none => exact Or.inl (.pumped hinbox)
          | some round => exact Or.inl (.gathered round hinbox)
  | settling rounds =>
      simp only [work]
      split
      · next hheld => exact Or.inl (.settled rounds hheld)
      · next hheld => exact Or.inl (.take rounds hheld)
  | awaiting round left =>
      cases left with
      | nil => exact Or.inl (.gather host round)
      | cons index left =>
          simp only [work]
          cases htask : host.tasks[index]? with
          | none => exact Or.inr ⟨rfl, rfl⟩
          | some task =>
              dsimp only
              split
              · next hover => exact Or.inl (.awaited round left htask hover)
              · exact Or.inr ⟨rfl, rfl⟩

/-- A step of the thread is a move if there is one to take. -/
theorem work_moves (scene : Scene) : Moves scene scene.work := by
  rcases scene.work_or_stuck with hwork | ⟨hsame, _⟩
  · exact .single (.work hwork)
  · rw [hsame]

/-- **A cue makes a move, or changes nothing.** -/
theorem next_moves (backend : Http.Backend) (scene : Scene) (cue : Cue) :
    Moves scene (scene.next backend cue) := by
  cases cue with
  | mount => exact scene.called_moves .mount
  | unmount => exact scene.called_moves .unmount
  | syncSignedIn => exact scene.called_moves .syncSignedIn
  | handle action => exact scene.called_moves (.handle · action)
  | pump => exact scene.called_moves .pump
  | settle => exact scene.called_moves .settle
  | work => exact scene.work_moves
  | start =>
      simp only [next, Host.start]
      split
      · exact .refl
      · next index _ _ => exact .single (.progress _ (.advance _ backend index))
  | resume index =>
      simp only [next, Host.resume]
      split
      · exact .refl
      · exact .single (.progress _ (.advance _ backend index))
  | background => exact .single (.progress _ (.runBackground _ backend))
  | release count => exact .single (.progress _ (.release _ count))
  | decide value => exact .single (.progress _ (.decide _ value))

/-- Every script is a run. -/
theorem play_moves (backend : Http.Backend) (scene : Scene) (cues : List Cue) :
    Moves scene (scene.play backend cues) := by
  induction cues generalizing scene with
  | nil => exact .refl
  | cons cue rest ih => exact (scene.next_moves backend cue).trans (ih _)

/-- **Whatever is true of every scene that can be reached is true along every script.** -/
theorem reachable_play (config : Config) (provider : Host.Provider) (isTerminal : Bool)
    (permits : Option Nat) (backend : Http.Backend) (cues : List Cue) :
    Reachable ((fresh config provider isTerminal permits).play backend cues) :=
  ⟨_, .fresh config provider isTerminal permits, play_moves backend _ cues⟩

/-! ## The loops of a host -/

/-- There is only one next piece of work. -/
theorem Work.eq {scene next : Scene} (h : Work scene next) : scene.work = next := by
  cases h with
  | receive _ hinbox | pumped hinbox | gathered _ hinbox => simp [work, hinbox]
  | take _ hheld | settled _ hheld => simp [work, hheld]
  | awaited _ _ htask hover => simp [work, htask, hover]
  | gather => rfl

/-- What the loop of settling does can be done by cue. -/
theorem exists_play {backend : Http.Backend} {scene next : Scene}
    (h : ReflTransGen (Strides backend) scene next) :
    ∃ cues, scene.play backend cues = next := by
  induction h with
  | refl => exact ⟨[], rfl⟩
  | tail _ hstride ih =>
      obtain ⟨cues, hplay⟩ := ih
      cases hstride with
      | work hwork => exact ⟨cues ++ [.work], by rw [play_append, hplay]; exact hwork.eq⟩
      | background => exact ⟨cues ++ [.background], by rw [play_append, hplay]; rfl⟩

/-- **Pumping is a script.** -/
theorem pump_play (backend : Http.Backend) {host : Host} (h : Reachable ⟨host, .idle⟩) :
    ∃ cues, (⟨host, .idle⟩ : Scene).play backend cues = ⟨host.pump.1, .idle⟩ := by
  obtain ⟨hworks, hinbox⟩ := pump_works (h.move (.call (.pump host)))
  have hpumped : Work ⟨host.pump.1, .pumping none⟩ ⟨host.pump.1, .idle⟩ := .pumped hinbox
  have hstrides : ReflTransGen (Strides backend) ⟨host.letGo, .pumping none⟩
      ⟨host.pump.1, .idle⟩ :=
    Relation.ReflTransGen.mono (fun _ _ hwork => .work hwork) _ _ (hworks.tail hpumped)
  obtain ⟨cues, hplay⟩ := exists_play hstrides
  exact ⟨.pump :: cues, hplay⟩

/-- **Settling is a script**, unless a task is left at the gate. -/
theorem settle_play (backend : Http.Backend) {host : Host} (h : Reachable ⟨host, .idle⟩)
    (hwaits : ¬ (Host.settle backend host).1.Waits) :
    ∃ cues, (⟨host, .idle⟩ : Scene).play backend cues =
      ⟨(Host.settle backend host).1, .idle⟩ := by
  have hreachable : Reachable ⟨host, .settling 0⟩ := h.move (.call (.settle host))
  obtain ⟨cues, hplay⟩ :=
    exists_play (settleRounds_strides backend _ hreachable (by omega) hwaits)
  exact ⟨.settle :: cues, hplay⟩

end Scene

end WorksheetBar
