import WorksheetBar.Proofs.HostMoves
import WorksheetBar.Proofs.HostEffects

/-!
# What the background does to a host

The background changes one task at a time.  `Task.Goes` lists the ways a task can go on,
`Shift` says what becomes of the host when one does, and everything that may happen
around a host is a sequence of shifts (`Progress.drifts`), up to what no task and no
shell ever looks at.  The host itself moves no task on: it only starts tasks, and takes
hold of them or lets them go.

* `advance_drift` — a task that goes on makes at most one shift;
* `Progress.drifts` — whatever happens around a host is made of shifts;
* `regrips_letGo`, `regrips_takeTasks` — letting go of tasks changes nothing else.
-/

namespace WorksheetBar.Host

open Relation (ReflTransGen)

/-- The ticket of the request a task makes. -/
def Task.ticket? (task : Task) : Option Ticket := task.job.ticket?

/-- The ways a task can go on, with the stage it comes to and what it hands in. -/
inductive Task.Goes : Task → Stage → List Completion → Prop
  | waits {task : Task} {ticket : Ticket} (hstage : task.stage = .spawned)
      (hticket : task.ticket? = some ticket) : Goes task .waiting []
  | passes {task : Task} (hstage : task.stage = .waiting) : Goes task .letThrough []
  | answers {task : Task} {ticket : Ticket} (result : Except FetchError Profile)
      (hstage : task.stage = .spawned ∨ task.stage = .letThrough)
      (hticket : task.ticket? = some ticket) : Goes task .ended [⟨ticket, result⟩]
  | sends {task : Task} (hstage : task.stage = .spawned) (hticket : task.ticket? = none) :
      Goes task .ended []
  | dies {task : Task} (hstage : task.stage = .spawned ∨ task.stage = .letThrough) :
      Goes task .died []

/-- One task goes on.  A request that begins is counted with those under way. -/
structure Shift (before after : Host) (first : List Task) (task : Task) (later : List Task)
    (stage : Stage) (answers : List Completion) : Prop where
  tasks : before.tasks = first ++ task :: later
  goes : task.Goes stage answers
  moved : after.tasks = first ++ { task with stage := stage } :: later
  inbox : after.inbox = before.inbox ++ answers
  shell : after.shell = before.shell
  isAlive : after.isAlive = before.isAlive
  mostGets : after.mostGets = before.mostGets ∨
    task.stage = .spawned ∧ task.ticket?.isSome = true ∧
      after.mostGets = max before.mostGets (before.getsUnderWay + 1)

/-- Nothing has changed that a task or the shell looks at. -/
structure Still (before after : Host) : Prop where
  tasks : after.tasks = before.tasks
  inbox : after.inbox = before.inbox
  shell : after.shell = before.shell
  isAlive : after.isAlive = before.isAlive
  mostGets : after.mostGets = before.mostGets

/-- The smallest thing the background does. -/
inductive Drift (before after : Host) : Prop
  | still (hstill : Still before after)
  | shift {first : List Task} {task : Task} {later : List Task} {stage : Stage}
      {answers : List Completion} (hshift : Shift before after first task later stage answers)

/-- Putting a task into another stage changes it in its place. -/
theorem setStage_tasks {host : Host} {index : Nat} {task : Task}
    (htask : host.tasks[index]? = some task) (stage : Stage) :
    ∃ first later, first.length = index ∧ host.tasks = first ++ task :: later ∧
      (host.setStage index stage).tasks = first ++ { task with stage := stage } :: later := by
  obtain ⟨hlt, hget⟩ := List.getElem?_eq_some_iff.mp htask
  refine ⟨host.tasks.take index, host.tasks.drop (index + 1), ?_, ?_, ?_⟩
  · exact List.length_take_of_le (Nat.le_of_lt hlt)
  · rw [← hget, ← List.drop_eq_getElem_cons hlt, List.take_append_drop]
  · rw [← hget]
    exact List.modify_eq_take_cons_drop hlt

/-- A host with the task at a place in another stage and some answers handed in. -/
theorem shift_setStage {before host : Host} {index : Nat} {task : Task} {stage : Stage}
    {answers : List Completion} (htask : before.tasks[index]? = some task)
    (hgoes : task.Goes stage answers) (htasks : host.tasks = before.tasks)
    (hinbox : host.inbox = before.inbox ++ answers) (hshell : host.shell = before.shell)
    (halive : host.isAlive = before.isAlive)
    (hmost : host.mostGets = before.mostGets ∨
      task.stage = .spawned ∧ task.ticket?.isSome = true ∧
        host.mostGets = max before.mostGets (before.getsUnderWay + 1)) :
    Drift before (host.setStage index stage) := by
  have htask' : host.tasks[index]? = some task := by rw [htasks, htask]
  obtain ⟨first, later, _, hsplit, hmoved⟩ := setStage_tasks htask' stage
  exact .shift ⟨htasks.symm.trans hsplit, hgoes, hmoved, hinbox, hshell, halive, hmost⟩

/-- The answer to a request is handed in, or the task dies. -/
theorem answerFetch_drift (backend : Http.Backend) {before host : Host} {index : Nat}
    {ticket : Ticket} {path : String} {task : Task} (htask : before.tasks[index]? = some task)
    (hstage : task.stage = .spawned ∨ task.stage = .letThrough)
    (hjob : task.job = .fetch ticket path) (htasks : host.tasks = before.tasks)
    (hinbox : host.inbox = before.inbox) (hshell : host.shell = before.shell)
    (halive : host.isAlive = before.isAlive) (hisAlive : before.isAlive = true)
    (hmost : host.mostGets = before.mostGets ∨
      task.stage = .spawned ∧ task.ticket?.isSome = true ∧
        host.mostGets = max before.mostGets (before.getsUnderWay + 1)) :
    Drift before (answerFetch backend host index ticket path) := by
  have hticket : task.ticket? = some ticket := by simp [Task.ticket?, hjob, Job.ticket?]
  unfold answerFetch
  dsimp only
  split
  · exact shift_setStage htask (.dies hstage) htasks (by simpa using hinbox) hshell halive hmost
  · next result _ =>
      have hcomplete : ∀ completion, complete { host with gets := host.gets + 1 } completion =
          { host with gets := host.gets + 1, inbox := host.inbox ++ [completion] } := by
        intro completion
        simp [complete, halive, hisAlive]
      rw [hcomplete]
      exact shift_setStage htask (.answers result hstage hticket) htasks
        (congrArg (· ++ _) hinbox) hshell halive hmost

/-- A request begins: it waits at a closed gate, and is answered otherwise. -/
theorem beginFetch_drift (backend : Http.Backend) {host : Host} {index : Nat}
    {ticket : Ticket} {path : String} {task : Task} (htask : host.tasks[index]? = some task)
    (hstage : task.stage = .spawned) (hjob : task.job = .fetch ticket path)
    (hisAlive : host.isAlive = true) :
    Drift host (beginFetch backend host index ticket path) := by
  have hticket : task.ticket? = some ticket := by simp [Task.ticket?, hjob, Job.ticket?]
  have hmost : ∀ most, most = max host.mostGets (host.getsUnderWay + 1) →
      most = host.mostGets ∨ task.stage = .spawned ∧ task.ticket?.isSome = true ∧
        most = max host.mostGets (host.getsUnderWay + 1) := by
    intro most heq
    exact Or.inr ⟨hstage, by rw [hticket]; rfl, heq⟩
  unfold beginFetch
  dsimp only
  split
  · exact answerFetch_drift backend htask (Or.inl hstage) hjob rfl rfl rfl rfl hisAlive
      (hmost _ rfl)
  · exact shift_setStage htask (.waits hstage hticket) rfl (List.append_nil _).symm rfl rfl
      (hmost _ rfl)
  · exact answerFetch_drift backend htask (Or.inl hstage) hjob rfl rfl rfl rfl hisAlive
      (hmost _ rfl)

/-- A command is sent, whatever comes of it, or its task dies. -/
theorem sendCommand_drift (backend : Http.Backend) {host : Host} {index : Nat}
    {command path : String} {task : Task} (htask : host.tasks[index]? = some task)
    (hstage : task.stage = .spawned) (hjob : task.job = .dispatch command path) :
    Drift host (sendCommand backend host index command path) := by
  have hticket : task.ticket? = none := by simp [Task.ticket?, hjob, Job.ticket?]
  unfold sendCommand
  dsimp only
  split
  · exact shift_setStage htask (.dies (Or.inl hstage)) rfl (List.append_nil _).symm rfl rfl
      (Or.inl rfl)
  · exact shift_setStage htask (.sends hstage hticket) rfl (List.append_nil _).symm rfl rfl
      (Or.inl rfl)
  · exact shift_setStage htask (.sends hstage hticket) rfl (List.append_nil _).symm rfl rfl
      (Or.inl rfl)

theorem still_refl (host : Host) : Still host host := ⟨rfl, rfl, rfl, rfl, rfl⟩

/-- **A task that goes on makes at most one shift.** -/
theorem advance_drift (backend : Http.Backend) {host : Host} (hisAlive : host.isAlive = true)
    (index : Nat) : Drift host (advance backend host index) := by
  unfold advance
  split
  · exact .still (still_refl host)
  · next task htask =>
      split
      · next hstage hjob => exact beginFetch_drift backend htask hstage hjob hisAlive
      · next hstage hjob =>
          exact answerFetch_drift backend htask (Or.inr hstage) hjob rfl rfl rfl rfl hisAlive
            (Or.inl rfl)
      · next hstage hjob => exact sendCommand_drift backend htask hstage hjob
      · exact .still (still_refl host)

theorem Drift.isAlive {before after : Host} (h : Drift before after) :
    after.isAlive = before.isAlive := by
  cases h with
  | still hstill => exact hstill.isAlive
  | shift hshift => exact hshift.isAlive

/-- Any number of tasks go on, one after another. -/
theorem foldl_advance_drifts (backend : Http.Backend) (line : List Nat) {host : Host}
    (hisAlive : host.isAlive = true) :
    ReflTransGen Drift host (line.foldl (advance backend) host) := by
  induction line generalizing host with
  | nil => exact .refl
  | cons index rest ih =>
      have hfirst := advance_drift backend hisAlive index
      exact .head hfirst (ih (hfirst.isAlive.trans hisAlive))

/-- Letting tasks through the gate shifts those that wait. -/
theorem admitFrom_drifts (index more : Nat) (host : Host) :
    ReflTransGen Drift host (admitFrom index more host) := by
  induction more generalizing index host with
  | zero => exact .refl
  | succ more ih =>
      unfold admitFrom
      split
      · next permits task hpermits htask =>
          by_cases hwaiting : task.stage = .waiting
          · have hshift : Drift host { host.setStage index .letThrough with
                permits := some permits, line := host.line ++ [index] } := by
              obtain ⟨first, later, _, hsplit, hmoved⟩ := setStage_tasks htask .letThrough
              exact .shift ⟨hsplit, .passes hwaiting, hmoved, (List.append_nil _).symm, rfl, rfl,
                Or.inl rfl⟩
            simp only [hwaiting, if_pos]
            exact .head hshift (ih _ _)
          · simp only [hwaiting, if_neg, not_false_eq_true]
            exact ih _ _
      · exact .refl

/-- **Whatever happens around a host is made of shifts.** -/
theorem Progress.drifts {before after : Host} (h : Progress before after)
    (hisAlive : before.isAlive = true) : ReflTransGen Drift before after := by
  cases h with
  | advance backend index => exact .single (advance_drift backend hisAlive index)
  | runBackground backend =>
      have hempty : Drift before { before with line := [] } := .still ⟨rfl, rfl, rfl, rfl, rfl⟩
      exact .head hempty (foldl_advance_drifts backend before.line hisAlive)
  | release count =>
      have hopen : Drift before { before with permits := before.permits.map (· + count) } :=
        .still ⟨rfl, rfl, rfl, rfl, rfl⟩
      exact .head hopen (admitFrom_drifts _ _ _)
  | decide value => exact .single (.still ⟨rfl, rfl, rfl, rfl, rfl⟩)

/-- Nothing has changed but which tasks are held. -/
inductive Regrips (before : Host) : Host → Prop
  | intro (change : Task → Task) (hjob : ∀ task, (change task).job = task.job)
      (hstage : ∀ task, (change task).stage = task.stage) :
      Regrips before { before with tasks := before.tasks.map change }

/-- The host lets go of the tasks that are over. -/
theorem regrips_letGo (host : Host) : Regrips host host.letGo := by
  apply Regrips.intro <;> intro task <;> split <;> rfl

/-- The host takes its tasks out of its hold. -/
theorem regrips_takeTasks (host : Host) : Regrips host host.takeTasks :=
  .intro _ (fun _ => rfl) (fun _ => rfl)

/-- What is read off the jobs and stages of tasks is the same when others are held. -/
theorem Regrips.filterMap {before after : Host} (h : Regrips before after)
    {look : Task → Option Ticket}
    (hlook : ∀ task other : Task, other.job = task.job → other.stage = task.stage →
      look other = look task) :
    after.tasks.filterMap look = before.tasks.filterMap look := by
  cases h with
  | intro change hjob hstage =>
      have hsame : look ∘ change = look := by
        funext task
        exact hlook task (change task) (hjob task) (hstage task)
      rw [List.filterMap_map, hsame]

theorem Regrips.exists_of_mem {before after : Host} (h : Regrips before after) {older : Task}
    (hmem : older ∈ after.tasks) :
    ∃ task ∈ before.tasks, older.job = task.job ∧ older.stage = task.stage := by
  cases h with
  | intro change hjob hstage =>
      obtain ⟨task, htask, rfl⟩ := List.mem_map.mp hmem
      exact ⟨task, htask, hjob task, hstage task⟩

/-- Every task is still there, with its job and its stage. -/
theorem Regrips.exists_mem {before after : Host} (h : Regrips before after) {task : Task}
    (hmem : task ∈ before.tasks) :
    ∃ older ∈ after.tasks, older.job = task.job ∧ older.stage = task.stage := by
  cases h with
  | intro change hjob hstage =>
      exact ⟨change task, List.mem_map_of_mem hmem, hjob task, hstage task⟩

end WorksheetBar.Host
