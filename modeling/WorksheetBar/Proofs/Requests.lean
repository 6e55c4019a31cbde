import WorksheetBar.Proofs.Ledger
import WorksheetBar.Proofs.Records
import WorksheetBar.Proofs.Stories

/-!
# Who makes requests

Only tasks make requests, and each makes its one when it starts.  So whatever the thread of a host
does makes none, and where no task was started none was ever made.

* `Records.requests_eq` — what does not come from the background makes no request;
* `beginFetch_requests`, `answerFetch_requests` — a profile is asked for once, however long the
  answer takes;
* `advance_requests` — a task that goes on makes its request if it has not started;
* `Reachable.requests_perm` — the requests are those of the tasks that have started;
* `Moves.requests_of_taskless` — where nothing was started nothing is asked for.
-/

namespace WorksheetBar

namespace Host

/-- The requests a host has made, in order. -/
def requests (host : Host) : List Http.Request := host.record.filterMap Happening.request?

/-- The one request that a job makes. -/
def Job.request : Job → Http.Request
  | fetch _ path => .get path
  | dispatch command path => .post path (Dispatch.body command)

/-- The request of a task that has started. -/
def Task.made? (task : Task) : Option Http.Request :=
  if task.stage = .spawned then none else some task.job.request

/-- The request of a task that has not started. -/
def Task.unmade? (task : Task) : Option Http.Request :=
  if task.stage = .spawned then some task.job.request else none

variable {before after : Host}

@[simp] theorem requests_note (host : Host) (happening : Happening) :
    (host.note happening).requests = host.requests ++ happening.request?.toList := by
  cases hrequest : happening.request? <;> simp [requests, note, hrequest]

@[simp] theorem requests_report (host : Host) (event : Event) :
    (host.report event).requests = host.requests := by
  simp [report, Happening.request?]

/-- What does not come from the background makes no request. -/
theorem Records.requests_eq {origins : List Happening.Origin} (h : Records origins before after)
    (hbackground : .background ∉ origins) : after.requests = before.requests := by
  obtain ⟨news, heq, hnews⟩ := h
  have hnone : news.filterMap Happening.request? = [] := by
    rw [List.filterMap_eq_nil_iff]
    intro happening hmem
    cases happening with
    | requested request => exact absurd (hnews _ hmem) hbackground
    | reported | navigated | signedOut => rfl
  rw [requests, heq, List.filterMap_append, hnone, List.append_nil, requests]

/-! ## The thread of a host -/

theorem apply_requests (action : Action) (host : Host) :
    (apply action host).1.requests = host.requests :=
  (apply_records action host).requests_eq (by decide)

theorem enter_requests (host : Host) (operation : Operation) :
    (host.enter operation).host.requests = host.requests := by
  cases operation with
  | mount => exact apply_requests (.runtime .mount) host
  | unmount => exact apply_requests (.runtime .unmount) host
  | syncSignedIn => exact (syncSignedIn_records host).requests_eq (by decide)
  | handle action => exact apply_requests (.user action) host
  | pump | settle => rfl

/-! ## Tasks -/

/-- Without tasks nothing goes on. -/
theorem foldl_advance_of_taskless (backend : Http.Backend) (line : List Nat) {host : Host}
    (h : host.tasks = []) : line.foldl (advance backend) host = host := by
  induction line with
  | nil => rfl
  | cons index rest ih =>
      have hnone : host.tasks[index]? = none := by rw [h, List.getElem?_nil]
      rw [List.foldl_cons, advance_of_none backend hnone, ih]

/-- Where there are no tasks the background records nothing. -/
theorem Progress.record_of_taskless (h : Progress before after) (hnone : before.tasks = []) :
    after.record = before.record := by
  cases h with
  | advance backend index =>
      have hfolded := foldl_advance_of_taskless backend [index] hnone
      exact congrArg Host.record hfolded
  | runBackground backend =>
      let emptied : Host := { before with line := [] }
      have hemptied : emptied.tasks = [] := hnone
      have hfolded := foldl_advance_of_taskless backend before.line hemptied
      show (before.line.foldl (Host.advance backend) emptied).record = before.record
      rw [hfolded]
  | release count => exact admitFrom_record _ _ _
  | decide value => rfl

/-- Being answered makes no request. -/
theorem answerFetch_requests (backend : Http.Backend) (host : Host) (index : Nat)
    (ticket : Ticket) (path : String) :
    (answerFetch backend host index ticket path).requests = host.requests := by
  unfold answerFetch
  dsimp only
  split
  · rfl
  · unfold complete
    split
    · rfl
    · exact requests_report _ _

/-- A request for a profile is made once, when it begins. -/
theorem beginFetch_requests (backend : Http.Backend) (host : Host) (index : Nat)
    (ticket : Ticket) (path : String) :
    (beginFetch backend host index ticket path).requests = host.requests ++ [.get path] := by
  have hasked : ((host.report (.fetching path)).note (.requested (.get path))).requests =
      host.requests ++ [.get path] := by
    rw [requests_note, requests_report]
    rfl
  unfold beginFetch
  dsimp only
  split
  · exact (answerFetch_requests backend _ index ticket path).trans hasked
  · exact hasked
  · exact (answerFetch_requests backend _ index ticket path).trans hasked

theorem sendCommand_requests (backend : Http.Backend) (host : Host) (index : Nat)
    (command path : String) :
    (sendCommand backend host index command path).requests =
      host.requests ++ [.post path (Dispatch.body command)] := by
  have hposted : (host.note (.requested (.post path (Dispatch.body command)))).requests =
      host.requests ++ [.post path (Dispatch.body command)] := requests_note _ _
  unfold sendCommand
  dsimp only
  split
  · exact hposted
  · exact (requests_report _ _).trans hposted
  · exact (requests_report _ _).trans hposted

/-- **A task that goes on makes its request if it has not started**, and none if it has. -/
theorem advance_requests (backend : Http.Backend) {host : Host} {index : Nat} {task : Task}
    (htask : host.tasks[index]? = some task) :
    (advance backend host index).requests = host.requests ++ task.unmade?.toList := by
  have hrests : task.stage ≠ .spawned → host.requests = host.requests ++ task.unmade?.toList := by
    intro hstage
    rw [Task.unmade?, if_neg hstage]
    exact (List.append_nil _).symm
  unfold advance
  rw [htask]
  dsimp only
  split
  · next hstage hjob =>
      rw [beginFetch_requests, Task.unmade?, if_pos hstage, hjob]
      rfl
  · next hstage _ =>
      rw [answerFetch_requests]
      exact hrests (by simp [hstage])
  · next hstage hjob =>
      rw [sendCommand_requests, Task.unmade?, if_pos hstage, hjob]
      rfl
  · next hfetch _ hsend =>
      refine hrests fun hstage => ?_
      cases hjob : task.job with
      | fetch ticket path => exact hfetch ticket path hstage hjob
      | dispatch command path => exact hsend command path hstage hjob

/-! ## The requests of the tasks that have started -/

/-- The requests are those of the tasks that have started, one for each, in whatever order they
were made. -/
def Accounted (host : Host) : Prop := host.requests.Perm (host.tasks.filterMap Task.made?)

/-- Whether a task has made its request hangs on its job and on whether it has started. -/
theorem Task.made?_congr {task other : Task} (hjob : other.job = task.job)
    (hstage : other.stage = .spawned ↔ task.stage = .spawned) : other.made? = task.made? := by
  rw [made?, made?, hjob]
  exact if_congr hstage rfl rfl

/-- Nothing has been asked for, and none of the tasks from before has started or been put back. -/
theorem Accounted.of_eq (h : before.Accounted) (hrequests : after.requests = before.requests)
    (htasks : after.tasks.map Task.made? = before.tasks.map Task.made?) : after.Accounted := by
  have hmade : ∀ tasks : List Task,
      tasks.filterMap Task.made? = (tasks.map Task.made?).filterMap id := by
    intro tasks
    rw [List.filterMap_map]
    rfl
  rw [Accounted, hrequests, hmade, htasks, ← hmade]
  exact h

/-- **A task that goes on accounts for its request.** -/
theorem Accounted.advance (h : before.Accounted) (backend : Http.Backend) (index : Nat) :
    (Host.advance backend before index).Accounted := by
  cases htask : before.tasks[index]? with
  | none =>
      rw [advance_of_none backend htask]
      exact h
  | some task =>
      have hbegins := advance_begins backend htask
      obtain ⟨hbefore, stage, hstage, hafter⟩ := hbegins.filterMap htask Task.made?
      have hmade : ({ task with stage } : Task).made? = some task.job.request := if_neg hstage
      have hparts : ∀ first later : List Http.Request,
          (first ++ (task.made?.toList ++ later) ++ task.unmade?.toList).Perm
            (first ++ task.job.request :: later) := by
        intro first later
        by_cases hspawned : task.stage = .spawned
        · rw [Task.made?, Task.unmade?, if_pos hspawned, if_pos hspawned, List.append_assoc]
          exact .append_left first (List.perm_append_singleton _ _)
        · rw [Task.made?, Task.unmade?, if_neg hspawned, if_neg hspawned]
          exact .of_eq (List.append_nil _)
      rw [Accounted, advance_requests backend htask, hafter, hmade]
      rw [Accounted, hbefore] at h
      exact (h.append_right _).trans (hparts _ _)

/-- The gate lets only such tasks through as have made their request. -/
theorem admitFrom_made (index more : Nat) (host : Host) :
    (admitFrom index more host).tasks.map Task.made? = host.tasks.map Task.made? := by
  have hthrough : ∀ {host : Host} {index : Nat} {task : Task},
      host.tasks[index]? = some task → task.stage = .waiting →
      (host.setStage index .letThrough).tasks.map Task.made? = host.tasks.map Task.made? := by
    intro host index task htask hstage
    obtain ⟨first, later, _, hsplit, hmoved⟩ := setStage_tasks htask .letThrough
    have hsame : ({ task with stage := .letThrough } : Task).made? = task.made? :=
      Task.made?_congr rfl (by simp [hstage])
    rw [hmoved, hsplit, List.map_append, List.map_append, List.map_cons, List.map_cons, hsame]
  induction more generalizing index host with
  | zero => rfl
  | succ more ih =>
      unfold admitFrom
      split
      · next _ _ _ htask =>
          rw [ih]
          split
          · next hstage => exact hthrough htask hstage
          · rfl
      · rfl

/-- The account holds whatever happens around the host. -/
theorem Progress.accounted (hprogress : Progress before after) (h : before.Accounted) :
    after.Accounted := by
  cases hprogress with
  | advance backend index => exact h.advance backend index
  | runBackground backend =>
      exact List.foldlRecOn (motive := Accounted) before.line (Host.advance backend) h
        fun _ hhost index _ => hhost.advance backend index
  | release count =>
      refine h.of_eq ?_ (admitFrom_made _ _ _)
      exact congrArg (List.filterMap Happening.request?) (admitFrom_record _ _ _)
  | decide value => exact h

/-- New tasks have not started. -/
theorem Spawns.accounted {jobs : List Job} (hspawns : Spawns before after jobs)
    (hrequests : after.requests = before.requests) (h : before.Accounted) : after.Accounted := by
  have hnone : (started jobs).filterMap Task.made? = [] := by
    rw [started, List.filterMap_map, List.filterMap_eq_nil_iff]
    intro job _
    rfl
  rw [Accounted, hrequests, hspawns.tasks, List.filterMap_append, hnone, List.append_nil]
  exact h

/-- The account holds whatever the host takes hold of or lets go of. -/
theorem Regrips.accounted (hregrips : Regrips before after) (h : before.Accounted) :
    after.Accounted := by
  cases hregrips with
  | intro change hjob hstage =>
      refine h.of_eq rfl ?_
      rw [List.map_map]
      exact List.map_congr_left fun task _ =>
        Task.made?_congr (hjob task) (by rw [hstage])

/-- The requests are accounted for after every action that is passed on. -/
theorem Accounted.apply (h : before.Accounted) (action : Action) :
    (Host.apply action before).1.Accounted :=
  (apply_eq action before).1.accounted (apply_requests action before) h

/-- The requests are accounted for after every call. -/
theorem Accounted.enter (h : before.Accounted) (operation : Operation) :
    (before.enter operation).host.Accounted := by
  cases operation with
  | mount => exact h.apply (.runtime .mount)
  | unmount => exact h.apply (.runtime .unmount)
  | handle action => exact h.apply (.user action)
  | syncSignedIn =>
      exact (syncSignedIn_eq before).1.accounted (enter_requests before .syncSignedIn) h
  | pump => exact (regrips_letGo before).accounted h
  | settle => exact h

end Host

namespace Scene

open Host

/-- The thread of the host makes no request itself. -/
theorem Work.requests {scene next : Scene} (hwork : Work scene next) :
    next.host.requests = scene.host.requests := by
  cases hwork with
  | @receive host completion rest => exact apply_requests _ { host with inbox := rest }
  | awaited =>
      dsimp only
      split
      · exact requests_report _ _
      · rfl
  | pumped | gathered | take | gather | settled => rfl

/-- The account holds after every step of the thread. -/
theorem Work.accounted {scene next : Scene} (hwork : Work scene next)
    (h : scene.host.Accounted) : next.host.Accounted := by
  cases hwork with
  | @receive host completion rest =>
      have hemptied : ({ host with inbox := rest } : Host).Accounted := h
      exact hemptied.apply (.runtime (.fetched completion.ticket completion.result))
  | awaited =>
      dsimp only
      split
      · exact h.of_eq (requests_report _ _) rfl
      · exact h
  | take => exact (regrips_takeTasks _).accounted h
  | gather => exact (regrips_letGo _).accounted h
  | pumped | gathered | settled => exact h

/-- **The requests are those of the tasks that have started**, one for each, whatever has gone
on. -/
theorem Reachable.requests_perm {scene : Scene} (h : scene.Reachable) :
    scene.host.requests.Perm (scene.host.tasks.filterMap Host.Task.made?) := by
  obtain ⟨start, hstarts, hmoves⟩ := h
  show scene.host.Accounted
  induction hmoves with
  | refl =>
      cases hstarts
      exact List.Perm.refl []
  | tail _ hmove ih =>
      cases hmove with
      | call hcall =>
          obtain ⟨operation, rfl⟩ := call_iff.mp hcall
          exact ih.enter operation
      | work hwork => exact hwork.accounted ih
      | progress _ hprogress => exact hprogress.accounted ih

/-- Where there is no task, no move makes a request. -/
theorem Move.requests_of_taskless {scene next : Scene} (hmove : Move scene next)
    (hnone : scene.host.tasks = []) : next.host.requests = scene.host.requests := by
  cases hmove with
  | call hcall =>
      obtain ⟨operation, rfl⟩ := call_iff.mp hcall
      exact enter_requests _ operation
  | work hwork => exact hwork.requests
  | progress _ hprogress =>
      rw [Host.requests, hprogress.record_of_taskless hnone, Host.requests]

/-- **Where nothing was started nothing is asked for.** -/
theorem Moves.requests_of_taskless {scene later : Scene} (hmoves : Moves scene later)
    (hnone : later.host.jobs = []) : later.host.requests = scene.host.requests := by
  induction hmoves with
  | refl => rfl
  | tail _ hmove ih =>
      obtain ⟨actions, hhears⟩ := hmove.hears
      rw [hhears.jobs, List.append_eq_nil_iff] at hnone
      have hbefore := ih hnone.1
      exact (hmove.requests_of_taskless (List.map_eq_nil_iff.mp hnone.1)).trans hbefore

end Scene

end WorksheetBar
