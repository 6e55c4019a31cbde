import WorksheetBar.Proofs.Cues

/-!
# Replies that nobody hears

What comes of a post is noted, and a reply that never comes kills the task that waited for
it.  Nothing a host does ever hangs on either.  So two hosts that differ in nothing else go
on in step, from cue to cue, if the service answers their requests for profiles alike,
whatever it replies to their posts.

* `advance_inStep` — a task goes on alike, whatever the replies to the posts are;
* `play_inStep` — so does a host along every script;
* `settle_inStep` — and it settles alike.
-/

namespace WorksheetBar

namespace Host

/-- A task without how its post went. -/
def Task.unreplied (task : Task) : Task :=
  match task.job, task.stage with
  | .dispatch _ _, .died => { task with stage := .ended }
  | _, _ => task

/-- A host without how its posts went and what it has noted. -/
def unreplied (host : Host) : Host :=
  { host with tasks := host.tasks.map Task.unreplied, record := [] }

/-- Two functions that keep hosts in step: if hosts differ in nothing but how their posts went,
so do the results. -/
def InStep (first second : Host → Host) : Prop :=
  ∀ host other : Host, host.unreplied = other.unreplied →
    (first host).unreplied = (second other).unreplied

/-- A loop keeps hosts in step if each turn of it does. -/
theorem InStep.foldl {α : Type} {f f' : Host → α → Host}
    (h : ∀ x, InStep (f · x) (f' · x)) (xs : List α) :
    InStep (fun host => xs.foldl f host) (fun host => xs.foldl f' host) := by
  induction xs with
  | nil => exact fun _ _ heq => heq
  | cons x rest ih => exact fun host other heq => ih _ _ (h x host other heq)

@[simp] theorem Task.unreplied_job (task : Task) : task.unreplied.job = task.job := by
  unfold unreplied
  split <;> rfl

@[simp] theorem Task.unreplied_isHeld (task : Task) :
    task.unreplied.isHeld = task.isHeld := by
  unfold unreplied
  split <;> rfl

@[simp] theorem Task.unreplied_isOver (task : Task) :
    task.unreplied.stage.isOver = task.stage.isOver := by
  unfold unreplied
  split
  · next hstage => simp [hstage, Stage.isOver]
  · rfl

/-- Tasks that differ in nothing but how their posts went have the rest in common. -/
theorem Task.congr_unreplied {task other : Task} (h : task.unreplied = other.unreplied) :
    task.job = other.job ∧ task.isHeld = other.isHeld ∧
      task.stage.isOver = other.stage.isOver := by
  rw [← task.unreplied_job, ← task.unreplied_isHeld, ← task.unreplied_isOver, h,
    other.unreplied_job, other.unreplied_isHeld, other.unreplied_isOver]
  exact ⟨rfl, rfl, rfl⟩

/-- As long as a task is not over, nothing hangs on a reply. -/
theorem Task.unreplied_of_not_over {task : Task} (h : task.stage.isOver = false) :
    task.unreplied = task := by
  unfold unreplied
  split
  · next hstage => simp [hstage, Stage.isOver] at h
  · rfl

/-- Whether a task is at a stage where it is not over does not hang on a reply. -/
theorem Task.unreplied_stage_iff (task : Task) {stage : Stage} (h : stage.isOver = false) :
    task.unreplied.stage = stage ↔ task.stage = stage := by
  unfold unreplied
  split
  · next hstage =>
      rw [hstage]
      constructor <;>
        · rintro rfl
          cases h
  · rfl

/-- Hosts in step have everything in common but their tasks and what they have noted. -/
theorem exists_of_unreplied {host other : Host} (heq : host.unreplied = other.unreplied) :
    ∃ tasks record, other = { host with tasks, record } := by
  refine ⟨other.tasks, other.record, ?_⟩
  have hsame := congrArg
    (fun plain : Host => { plain with tasks := other.tasks, record := other.record }) heq
  exact hsame.symm

/-! ## Passing an action on -/

/-- A task that has just been started has not had a reply. -/
theorem spawn_unreplied (host : Host) (job : Job) :
    (host.spawn job).unreplied = host.unreplied.spawn job := by
  have hfresh : ({ job } : Task).unreplied = { job } := Task.unreplied_of_not_over rfl
  simp [unreplied, spawn, hfresh]

/-- What is noted for the embedder is not compared. -/
theorem relay_inStep : InStep relay relay := by
  intro host other heq
  obtain ⟨tasks, record, rfl⟩ := exists_of_unreplied heq
  exact congrArg (fun plain : Host => { plain with relayed := host.relay.relayed }) heq

/-- Going somewhere is only noted. -/
theorem navigate_unreplied (path : String) (host : Host) :
    (navigate path host).1.unreplied = host.unreplied := by
  simp only [navigate]
  split <;> rfl

section

variable {resync : Step}
  (hresync : InStep (fun host => (resync host).1) (fun host => (resync host).1))
include hresync

/-- Hosts in step carry an effect out alike, if what they do when a session ends keeps them so. -/
theorem perform_inStep (effect : Effect) :
    InStep (fun host => (perform resync effect host).1)
      (fun host => (perform resync effect host).1) := by
  intro host other heq
  obtain ⟨tasks, record, rfl⟩ := exists_of_unreplied heq
  cases effect with
  | requestFrame | preventDefault => exact heq
  | fetchProfile ticket =>
      simp only [perform]
      rw [spawn_unreplied, heq, ← spawn_unreplied]
  | dispatch command =>
      have hreported : (host.report (.dispatching command)).unreplied =
          (report { host with tasks, record } (.dispatching command)).unreplied := heq
      simp only [perform]
      rw [spawn_unreplied, hreported, ← spawn_unreplied]
  | navigate path =>
      simp only [perform]
      rw [navigate_unreplied, navigate_unreplied, heq]
  | signOut =>
      have hasked := congrArg
        (fun plain : Host => { plain with provider := host.provider.signOut }) heq
      simp only [perform]
      apply hresync
      -- whether the loss of the session is reported makes no difference
      split
      · split <;> exact hasked
      · split <;> exact hasked

/-- All effects of an action are carried out alike, whatever the replies are. -/
theorem performAll_inStep (effects : List Effect) :
    InStep (fun host => (performAll resync effects host).1)
      (fun host => (performAll resync effects host).1) := by
  induction effects with
  | nil => exact fun _ _ heq => heq
  | cons effect rest ih =>
      intro host other heq
      simp only [performAll_cons]
      exact ih _ _ (perform_inStep hresync effect host other heq)

/-- Hosts in step have the same shell, so an action has the same effects on both. -/
theorem applyWith_inStep (action : Action) :
    InStep (fun host => (applyWith resync action host).1)
      (fun host => (applyWith resync action host).1) := by
  intro host other heq
  obtain ⟨tasks, record, rfl⟩ := exists_of_unreplied heq
  have hstepped := congrArg
    (fun plain : Host => { plain with shell := (host.shell.step action).1 }) heq
  simp only [applyWith]
  exact performAll_inStep hresync _ _ _ (relay_inStep _ _ hstepped)

end

/-- Hosts in step have the same provider, and learn the same from it. -/
theorem syncSignedIn_inStep :
    InStep (fun host => host.syncSignedIn.1) (fun host => host.syncSignedIn.1) := by
  intro host other heq
  have hprovider : host.provider = other.provider := (congrArg Host.provider heq :)
  simp only [syncSignedIn]
  rw [hprovider]
  exact applyWith_inStep (fun _ _ heq => heq) _ host other heq

/-- **Passing an action on keeps hosts in step.** -/
theorem apply_inStep (action : Action) :
    InStep (fun host => (apply action host).1) (fun host => (apply action host).1) :=
  applyWith_inStep syncSignedIn_inStep action

/-! ## The background -/

section

variable {host other : Host} (heq : host.unreplied = other.unreplied)
include heq

/-- Hosts in step have tasks in step, place by place. -/
theorem tasks_cases (index : Nat) :
    (host.tasks[index]? = none ∧ other.tasks[index]? = none) ∨
      ∃ task task' : Task, host.tasks[index]? = some task ∧ other.tasks[index]? = some task' ∧
        task.unreplied = task'.unreplied := by
  have htasks : host.tasks.map Task.unreplied = other.tasks.map Task.unreplied :=
    (congrArg Host.tasks heq :)
  have hplace := congrArg (·[index]?) htasks
  simp only [List.getElem?_map] at hplace
  cases htask : host.tasks[index]? with
  | none =>
      rw [htask] at hplace
      exact Or.inl ⟨rfl, Option.map_eq_none_iff.mp hplace.symm⟩
  | some task =>
      rw [htask] at hplace
      obtain ⟨task', hother, hsame⟩ := Option.map_eq_some_iff.mp hplace.symm
      exact Or.inr ⟨task, task', rfl, hother, hsame.symm⟩

theorem length_tasks : host.tasks.length = other.tasks.length := by
  have hlength := congrArg List.length (congrArg Host.tasks heq :)
  simpa [unreplied] using hlength

/-- Hosts in step stay so with other tasks that are in step. -/
theorem withTasks_unreplied {tasks tasks' : List Task}
    (h : tasks.map Task.unreplied = tasks'.map Task.unreplied) :
    ({ host with tasks := tasks } : Host).unreplied =
      ({ other with tasks := tasks' } : Host).unreplied :=
  calc ({ host with tasks := tasks } : Host).unreplied
      = { host.unreplied with tasks := tasks.map Task.unreplied } := rfl
    _ = { other.unreplied with tasks := tasks'.map Task.unreplied } := by rw [heq, h]
    _ = ({ other with tasks := tasks' } : Host).unreplied := rfl

/-- Tasks that are changed alike stay in step. -/
theorem map_unreplied {change : Task → Task}
    (hchange : ∀ task other : Task, task.unreplied = other.unreplied →
      (change task).unreplied = (change other).unreplied) :
    ({ host with tasks := host.tasks.map change } : Host).unreplied =
      ({ other with tasks := other.tasks.map change } : Host).unreplied := by
  apply withTasks_unreplied heq
  apply List.ext_getElem?
  intro place
  simp only [List.getElem?_map]
  rcases tasks_cases heq place with ⟨hnone, hnone'⟩ | ⟨task, task', htask, htask', hsame⟩
  · rw [hnone, hnone']
  · simp [htask, htask', hchange task task' hsame]

/-- A task of either host goes on to a stage; the stages may differ in what a reply did. -/
theorem setStage_unreplied {index : Nat} {stage stage' : Stage}
    (hsame : ∀ task other : Task, host.tasks[index]? = some task →
      task.unreplied = other.unreplied →
      ({ task with stage := stage } : Task).unreplied =
        ({ other with stage := stage' } : Task).unreplied) :
    (host.setStage index stage).unreplied = (other.setStage index stage').unreplied := by
  apply withTasks_unreplied heq
  apply List.ext_getElem?
  intro place
  simp only [List.getElem?_map, List.getElem?_modify]
  rcases tasks_cases heq place with ⟨hnone, hnone'⟩ | ⟨task, task', htask, htask', hreplied⟩
  · rw [hnone, hnone']
    rfl
  · rw [htask, htask']
    by_cases hindex : index = place
    · subst hindex
      simp [hsame task task' htask hreplied]
    · simp [hindex, hreplied]

end

/-- What waits at the gate or was let through it is no post. -/
theorem getsUnderWay_unreplied (host : Host) :
    host.unreplied.getsUnderWay = host.getsUnderWay := by
  have hsame : ∀ task : Task,
      (task.unreplied.stage == .waiting || task.unreplied.stage == .letThrough) =
        (task.stage == .waiting || task.stage == .letThrough) := by
    intro task
    obtain ⟨job, stage, held⟩ := task
    cases job <;> cases stage <;> rfl
  simp [getsUnderWay, unreplied, List.countP_map, Function.comp_def, hsame]

/-- Putting a task into a stage, whatever stage it was in. -/
theorem setStage_inStep (index : Nat) (stage : Stage) :
    InStep (·.setStage index stage) (·.setStage index stage) := by
  intro host other heq
  refine setStage_unreplied heq ?_
  intro task task' _ hsame
  obtain ⟨hjob, hheld, _⟩ := Task.congr_unreplied hsame
  rw [hjob, hheld]

/-- An answer that has arrived is put into the inbox of both hosts. -/
theorem complete_inStep (completion : Completion) :
    InStep (·.complete completion) (·.complete completion) := by
  intro host other heq
  obtain ⟨tasks, record, rfl⟩ := exists_of_unreplied heq
  unfold complete
  dsimp only
  split
  · exact congrArg (fun plain : Host => { plain with inbox := host.inbox ++ [completion] }) heq
  · exact heq

section

variable {backend backend' : Http.Backend} (hget : backend'.get = backend.get)
include hget

/-- A request for a profile is answered alike. -/
theorem answerFetch_inStep (index : Nat) (ticket : Ticket) (path : String) :
    InStep (answerFetch backend · index ticket path)
      (answerFetch backend' · index ticket path) := by
  intro host other heq
  obtain ⟨tasks, record, rfl⟩ := exists_of_unreplied heq
  have hcounted : ({ host with gets := host.gets + 1 } : Host).unreplied =
      ({ host with gets := host.gets + 1, tasks, record } : Host).unreplied :=
    congrArg (fun plain : Host => { plain with gets := host.gets + 1 }) heq
  simp only [answerFetch, hget]
  split
  · exact setStage_inStep index .died _ _ hcounted
  · exact setStage_inStep index .ended _ _ (complete_inStep _ _ _ hcounted)

/-- A task for a profile goes on alike. -/
theorem beginFetch_inStep (index : Nat) (ticket : Ticket) (path : String) :
    InStep (beginFetch backend · index ticket path)
      (beginFetch backend' · index ticket path) := by
  intro host other heq
  have hunderWay : host.getsUnderWay = other.getsUnderWay := by
    rw [← host.getsUnderWay_unreplied, heq, other.getsUnderWay_unreplied]
  obtain ⟨tasks, record, rfl⟩ := exists_of_unreplied heq
  have hcounted : ∀ permits, ({ host with
      mostGets := max host.mostGets (host.getsUnderWay + 1), permits } : Host).unreplied =
      ({ host with
        mostGets := max host.mostGets (getsUnderWay { host with tasks, record } + 1), permits,
        tasks, record } : Host).unreplied := by
    intro permits
    rw [← hunderWay]
    exact congrArg (fun plain : Host =>
      { plain with mostGets := max host.mostGets (host.getsUnderWay + 1), permits }) heq
  unfold beginFetch
  dsimp only [note, report]
  split
  · exact answerFetch_inStep hget index ticket path _ _ (hcounted _)
  · exact setStage_inStep index .waiting _ _ (hcounted _)
  · exact answerFetch_inStep hget index ticket path _ _ (hcounted _)

end

/-- A command is sent, and its task is over, whatever the reply is. -/
theorem sendCommand_unreplied (backend : Http.Backend) {host : Host} {index : Nat}
    {command path : String} {task : Task} (htask : host.tasks[index]? = some task)
    (hjob : task.job = .dispatch command path) :
    (sendCommand backend host index command path).unreplied =
      (({ host with posts := host.posts + 1 } : Host).setStage index .ended).unreplied := by
  unfold sendCommand
  dsimp only
  split
  · have hdied : (({ host with posts := host.posts + 1 } : Host).setStage index .died).unreplied =
        (({ host with posts := host.posts + 1 } : Host).setStage index .ended).unreplied := by
      refine setStage_unreplied rfl ?_
      intro other task' hother hsame
      obtain rfl : task = other := Option.some.inj (htask.symm.trans hother)
      obtain ⟨hjob', hheld, _⟩ := Task.congr_unreplied hsame
      rw [← hjob', ← hheld, hjob]
      rfl
    exact hdied
  · rfl
  · rfl

/-- **A task goes on alike, whatever the replies to the posts are.** -/
theorem advance_inStep {backend backend' : Http.Backend} (hget : backend'.get = backend.get)
    (index : Nat) : InStep (advance backend · index) (advance backend' · index) := by
  intro host other heq
  rcases tasks_cases heq index with ⟨hnone, hnone'⟩ | ⟨task, task', htask, htask', hsame⟩
  · simp only [advance, hnone, hnone']
    exact heq
  · obtain ⟨_, _, hover⟩ := Task.congr_unreplied hsame
    cases hcase : task.stage.isOver with
    | true =>
        dsimp only
        rw [advance_of_over backend htask hcase, advance_of_over backend' htask' (hover ▸ hcase)]
        exact heq
    | false =>
        obtain rfl : task = task' := by
          rw [← Task.unreplied_of_not_over hcase, hsame,
            Task.unreplied_of_not_over (hover ▸ hcase)]
        simp only [advance, htask, htask']
        split
        · exact beginFetch_inStep hget index _ _ host other heq
        · exact answerFetch_inStep hget index _ _ host other heq
        · next hjob =>
            rw [sendCommand_unreplied backend htask hjob, sendCommand_unreplied backend' htask' hjob]
            obtain ⟨tasks, record, rfl⟩ := exists_of_unreplied heq
            apply setStage_inStep
            exact congrArg (fun plain : Host => { plain with posts := host.posts + 1 }) heq
        · exact heq

/-- Which tasks have not started does not hang on replies. -/
theorem unstarted_unreplied (host : Host) :
    host.unreplied.isUnstarted = host.isUnstarted ∧ host.unreplied.unstarted = host.unstarted := by
  have hsame : host.unreplied.isUnstarted = host.isUnstarted := by
    funext index
    have htasks : host.unreplied.tasks[index]? = host.tasks[index]?.map Task.unreplied :=
      List.getElem?_map
    rw [isUnstarted, isUnstarted, htasks]
    cases host.tasks[index]? with
    | none => rfl
    | some task =>
        simp only [Option.map_some, Option.any_some]
        rw [Bool.eq_iff_iff, beq_iff_eq, beq_iff_eq]
        exact task.unreplied_stage_iff rfl
  refine ⟨hsame, ?_⟩
  rw [unstarted, unstarted, hsame]
  simp [unreplied]

section

variable {backend backend' : Http.Backend} (hget : backend'.get = backend.get)
include hget

/-- Hosts in step have the same task to start next. -/
theorem start_inStep : InStep (start backend) (start backend') := by
  intro host other heq
  have hunstarted : host.unstarted = other.unstarted := by
    rw [← host.unstarted_unreplied.2, heq, other.unstarted_unreplied.2]
  simp only [start, hunstarted]
  split
  · exact heq
  · exact advance_inStep hget _ host other heq

/-- Whether a task has started does not hang on a reply. -/
theorem resume_inStep (index : Nat) : InStep (resume backend · index) (resume backend' · index) := by
  intro host other heq
  have hunstarted : host.isUnstarted = other.isUnstarted := by
    rw [← host.unstarted_unreplied.1, heq, other.unstarted_unreplied.1]
  simp only [resume, hunstarted]
  split
  · exact heq
  · exact advance_inStep hget index host other heq

end

/-- With a permit left, a task that waits is let through and the next one is looked at. -/
theorem admitFrom_of_some {host : Host} {index more permits : Nat} {task : Task}
    (hpermits : host.permits = some (permits + 1)) (htask : host.tasks[index]? = some task) :
    admitFrom index (more + 1) host =
      admitFrom (index + 1) more
        (if task.stage = .waiting then
          { host.setStage index .letThrough with
            permits := some permits
            line := host.line ++ [index] }
        else host) := by
  rw [admitFrom]
  split
  · next hpermits' htask' =>
      cases hpermits.symm.trans hpermits'
      cases htask.symm.trans htask'
      rfl
  · next hnone => exact absurd htask (hnone permits task hpermits)

/-- Without a permit or a task to look at, nobody is let through. -/
theorem admitFrom_of_none {host : Host} {index more : Nat}
    (h : ∀ permits task, host.permits = some (permits + 1) → host.tasks[index]? ≠ some task) :
    admitFrom index (more + 1) host = host := by
  rw [admitFrom]
  split
  · next permits task hpermits htask => exact absurd htask (h permits task hpermits)
  · rfl

/-- Whoever waits at the gate waits there in both. -/
theorem admitFrom_inStep (index more : Nat) :
    InStep (admitFrom index more) (admitFrom index more) := by
  induction more generalizing index with
  | zero => exact fun _ _ heq => heq
  | succ more ih =>
      intro host other heq
      have hcases := tasks_cases heq index
      have hpermits : host.permits = other.permits := (congrArg Host.permits heq :)
      have hline : host.line = other.line := (congrArg Host.line heq :)
      by_cases hopen : ∃ permits task,
          host.permits = some (permits + 1) ∧ host.tasks[index]? = some task
      · obtain ⟨permits, task, hsome, htask⟩ := hopen
        obtain ⟨hnone, _⟩ | ⟨_, task', htask', hother, hsame⟩ := hcases
        · rw [htask] at hnone
          cases hnone
        · obtain rfl := Option.some.inj (htask.symm.trans htask')
          rw [admitFrom_of_some hsome htask, admitFrom_of_some (hpermits ▸ hsome) hother]
          apply ih
          have hwaiting : task.stage = .waiting ↔ task'.stage = .waiting := by
            rw [← task.unreplied_stage_iff rfl, hsame, task'.unreplied_stage_iff rfl]
          by_cases hstage : task.stage = .waiting
          · rw [if_pos hstage, if_pos (hwaiting.mp hstage), hline]
            exact congrArg (fun plain : Host =>
              { plain with permits := some permits, line := other.line ++ [index] })
              (setStage_inStep index .letThrough host other heq)
          · rw [if_neg hstage, if_neg (fun h => hstage (hwaiting.mpr h))]
            exact heq
      · have hclosed : ∀ permits task, host.permits = some (permits + 1) →
            host.tasks[index]? ≠ some task :=
          fun permits task hsome htask => hopen ⟨permits, task, hsome, htask⟩
        have hclosed' : ∀ permits task, other.permits = some (permits + 1) →
            other.tasks[index]? ≠ some task := by
          intro permits task' hsome hother
          obtain ⟨_, hnone⟩ | ⟨task, _, htask, _⟩ := hcases
          · rw [hother] at hnone
            cases hnone
          · exact hclosed permits task (hpermits.trans hsome) htask
        rw [admitFrom_of_none hclosed, admitFrom_of_none hclosed']
        exact heq

/-- The gate lets the same tasks through on both hosts. -/
theorem release_inStep (count : Nat) : InStep (·.release count) (·.release count) := by
  intro host other heq
  have hlength := length_tasks heq
  obtain ⟨tasks, record, rfl⟩ := exists_of_unreplied heq
  simp only [release]
  rw [hlength]
  exact admitFrom_inStep _ _ _ _ (congrArg (fun plain : Host =>
    { plain with permits := host.permits.map (· + count) }) heq)

/-! ## The thread -/

/-- Whether a task is held is independent of its reply. -/
theorem Task.unreplied_hold {task other : Task} (h : task.unreplied = other.unreplied)
    (isHeld : Bool) :
    ({ task with isHeld := isHeld } : Task).unreplied =
      ({ other with isHeld := isHeld } : Task).unreplied := by
  have hplain : ∀ task : Task, ({ task with isHeld := isHeld } : Task).unreplied =
      { task.unreplied with isHeld := isHeld } := by
    rintro ⟨job, stage, _⟩
    cases job <;> cases stage <;> rfl
  calc _ = _ := hplain task
    _ = _ := congrArg (fun plain : Task => { plain with isHeld := isHeld }) h
    _ = _ := (hplain other).symm

/-- Both hosts let go of the same tasks: those that are over. -/
theorem letGo_inStep : InStep letGo letGo := by
  intro host other heq
  refine map_unreplied heq ?_
  intro task task' hsame
  obtain ⟨_, _, hover⟩ := Task.congr_unreplied hsame
  rw [hover]
  split
  · exact Task.unreplied_hold hsame false
  · exact hsame

/-- Both hosts take hold of all their tasks. -/
theorem takeTasks_inStep : InStep takeTasks takeTasks := by
  intro host other heq
  refine map_unreplied heq ?_
  intro task task' hsame
  exact Task.unreplied_hold hsame false

/-- Hosts in step hold the same tasks. -/
theorem held_eq {host other : Host} (heq : host.unreplied = other.unreplied) :
    host.held = other.held := by
  rw [held, held, length_tasks heq]
  apply List.filter_congr
  intro index _
  rcases tasks_cases heq index with ⟨hnone, hnone'⟩ | ⟨task, task', htask, htask', hsame⟩
  · rw [hnone, hnone']
  · rw [htask, htask']
    exact (Task.congr_unreplied hsame).2.1

/-- On hosts in step the same tasks are over, or missing. -/
theorem ended_iff {host other : Host} (heq : host.unreplied = other.unreplied) (index : Nat) :
    host.Ended index ↔ other.Ended index := by
  rcases tasks_cases heq index with ⟨hnone, hnone'⟩ | ⟨task, task', htask, htask', hsame⟩
  · simp [Ended, hnone, hnone']
  · obtain ⟨_, _, hover⟩ := Task.congr_unreplied hsame
    simp [Ended, htask, htask', hover]

/-- An answer is passed on to the shell like any other action. -/
theorem receive_inStep (completion : Completion) :
    InStep (·.receive completion) (·.receive completion) :=
  apply_inStep _

/-- A death is reported, and that is all. -/
theorem notice_unreplied (host : Host) (index : Nat) :
    (host.notice index).unreplied = host.unreplied := by
  unfold notice
  split
  · split <;> rfl
  · rfl

/-- Hosts in step take in the same answers, one after another. -/
theorem drain_inStep (inbox : List Completion) :
    InStep (fun host => (drain inbox host).1) (fun host => (drain inbox host).1) := by
  induction inbox with
  | nil => exact fun _ _ heq => heq
  | cons completion rest ih =>
      exact fun host other heq => ih _ _ (receive_inStep completion host other heq)

/-- **Taking in what has arrived keeps hosts in step.** -/
theorem pump_inStep : InStep (fun host => host.pump.1) (fun host => host.pump.1) := by
  intro host other heq
  have hletGo := letGo_inStep host other heq
  have hinbox : host.letGo.inbox = other.letGo.inbox := (congrArg Host.inbox hletGo :)
  have hemptied := congrArg (fun plain : Host => { plain with inbox := [] }) hletGo
  simp only [pump]
  rw [hinbox]
  exact drain_inStep other.letGo.inbox _ _ hemptied

section

variable {backend backend' : Http.Backend} (hget : backend'.get = backend.get)
include hget

/-- The background goes on alike. -/
theorem runBackground_inStep :
    InStep (·.runBackground backend) (·.runBackground backend') := by
  intro host other heq
  have hline : host.line = other.line := (congrArg Host.line heq :)
  have hemptied := congrArg (fun plain : Host => { plain with line := [] }) heq
  simp only [runBackground]
  rw [hline]
  exact InStep.foldl (advance_inStep hget) other.line _ _ hemptied

/-- Waiting for a task comes to the same. -/
theorem await_inStep (index : Nat) :
    InStep (await backend · index) (await backend' · index) := by
  intro host other heq
  dsimp only
  by_cases hended : host.Ended index
  · rw [await_of_ended backend hended, await_of_ended backend' ((ended_iff heq index).mp hended),
      notice_unreplied, notice_unreplied]
    exact heq
  · have hended' : ¬ other.Ended index := fun h => hended ((ended_iff heq index).mpr h)
    rw [await_of_not_ended backend hended, await_of_not_ended backend' hended', notice_unreplied,
      notice_unreplied]
    exact runBackground_inStep hget host other heq

/-- Settling comes to the same, round by round. -/
theorem settleRounds_inStep (fuel : Nat) :
    InStep (fun host => (settleRounds backend fuel host).1)
      (fun host => (settleRounds backend' fuel host).1) := by
  induction fuel with
  | zero => exact fun _ _ heq => heq
  | succ fuel ih =>
      intro host other heq
      have hheld : host.held = other.held := held_eq heq
      dsimp only
      by_cases hnil : host.held = []
      · rw [settleRounds_of_held_eq_nil backend fuel hnil,
          settleRounds_of_held_eq_nil backend' fuel (hheld ▸ hnil)]
        exact heq
      · rw [settleRounds_of_held_ne_nil backend fuel hnil,
          settleRounds_of_held_ne_nil backend' fuel (hheld ▸ hnil), hheld]
        have htaken := takeTasks_inStep host other heq
        have hawaited := InStep.foldl (await_inStep hget) other.held _ _ htaken
        exact ih _ _ (pump_inStep _ _ hawaited)

/-- **A host settles alike, whatever the replies to its posts are.** -/
theorem settle_inStep :
    InStep (fun host => (Host.settle backend host).1)
      (fun host => (Host.settle backend' host).1) := by
  intro host other heq
  simp only [Host.settle]
  rw [length_tasks heq]
  exact settleRounds_inStep hget _ host other heq

end

end Host

namespace Scene

open Host

/-- Scenes whose hosts differ in nothing but how their posts went. -/
structure InStep (scene other : Scene) : Prop where
  host : scene.host.unreplied = other.host.unreplied
  activity : scene.activity = other.activity

/-- A call leaves scenes in step that were so before, if it keeps the hosts in step. -/
theorem called_inStep {scene other : Scene} (h : InStep scene other) {f : Host → Host}
    {activity : Activity} (hf : Host.InStep f f) :
    InStep (scene.called fun host => ⟨f host, activity⟩)
      (other.called fun host => ⟨f host, activity⟩) := by
  unfold called
  by_cases hidle : scene.activity = .idle
  · rw [if_pos hidle, if_pos (h.activity ▸ hidle)]
    exact ⟨hf _ _ h.host, rfl⟩
  · rw [if_neg hidle, if_neg (h.activity ▸ hidle)]
    exact h

/-- The thread of the host goes on alike in both scenes. -/
theorem work_inStep {scene other : Scene} (h : InStep scene other) :
    InStep scene.work other.work := by
  obtain ⟨host, activity⟩ := scene
  obtain ⟨host', activity'⟩ := other
  obtain ⟨heq, rfl⟩ : host.unreplied = host'.unreplied ∧ activity = activity' :=
    ⟨h.host, h.activity⟩
  cases activity with
  | idle => exact h
  | pumping round =>
      have hinbox : host.inbox = host'.inbox := (congrArg Host.inbox heq :)
      simp only [work, hinbox]
      split
      · next completion rest _ =>
          have hemptied := congrArg (fun plain : Host => { plain with inbox := rest }) heq
          exact ⟨receive_inStep completion _ _ hemptied, rfl⟩
      · cases round <;> exact ⟨heq, rfl⟩
  | settling rounds =>
      simp only [work, held_eq heq]
      split
      · exact ⟨heq, rfl⟩
      · exact ⟨takeTasks_inStep _ _ heq, rfl⟩
  | awaiting round left =>
      cases left with
      | nil => exact ⟨letGo_inStep _ _ heq, rfl⟩
      | cons index left =>
          have hreported : ∀ (host : Host) (stage : Stage),
              (if stage = .died then host.report .taskFailed else host).unreplied =
                host.unreplied := by
            intro host stage
            split <;> rfl
          simp only [work]
          rcases tasks_cases heq index with ⟨hnone, hnone'⟩ | ⟨task, task', htask, htask', hsame⟩
          · rw [hnone, hnone']
            exact h
          · rw [htask, htask']
            dsimp only
            rw [(Task.congr_unreplied hsame).2.2]
            split
            · refine ⟨?_, rfl⟩
              rw [hreported, hreported]
              exact heq
            · exact h

/-- **Whatever a cue says, scenes in step stay so.** -/
theorem next_inStep {backend backend' : Http.Backend} (hget : backend'.get = backend.get)
    {scene other : Scene} (h : InStep scene other) (cue : Cue) :
    InStep (scene.next backend cue) (other.next backend' cue) := by
  have hsame : Host.InStep id id := fun _ _ heq => heq
  cases cue with
  | mount => exact called_inStep h (apply_inStep (.runtime .mount))
  | unmount => exact called_inStep h (apply_inStep (.runtime .unmount))
  | syncSignedIn => exact called_inStep h syncSignedIn_inStep
  | handle action => exact called_inStep h (apply_inStep (.user action))
  | pump => exact called_inStep h letGo_inStep
  | settle => exact called_inStep h hsame
  | work => exact work_inStep h
  | start => exact ⟨start_inStep hget _ _ h.host, h.activity⟩
  | resume index => exact ⟨resume_inStep hget index _ _ h.host, h.activity⟩
  | background => exact ⟨runBackground_inStep hget _ _ h.host, h.activity⟩
  | release count => exact ⟨release_inStep count _ _ h.host, h.activity⟩
  | decide value =>
      have hdecided := congrArg (fun plain : Host =>
        { plain with provider := { plain.provider with signedIn := value } }) h.host
      exact ⟨hdecided, h.activity⟩

/-- **Along every script a host goes on alike, whatever the replies to its posts are.** -/
theorem play_inStep {backend backend' : Http.Backend} (hget : backend'.get = backend.get)
    {scene other : Scene} (h : InStep scene other) (cues : List Cue) :
    InStep (scene.play backend cues) (other.play backend' cues) := by
  induction cues generalizing scene other with
  | nil => exact h
  | cons cue rest ih => exact ih (next_inStep hget h cue)

end Scene

end WorksheetBar
