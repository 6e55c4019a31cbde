import WorksheetBar.Proofs.Cues
import WorksheetBar.Proofs.Popups

/-!
# The ledger of commands

A host has posted some commands and still has tasks for others that have not started.  The
**ledger** puts the second behind the first.  When a task starts and no earlier one is left to
start, its command moves from the second part to the first, and the ledger stays what it was:
no command is lost, none is sent twice, and none overtakes another.

Passing an action on adds to the ledger what the shell sends, and posts nothing.

* `posted_apply`, `Spawns.unsent` — what passing an action on does to the ledger;
* `advance_begins`, `Begins.sends` — what a task does to it that goes on;
* `Queued.runBackground` — when the background has gone on, every command has been sent.
-/

namespace WorksheetBar

/-- The post that sends a command: where to, and the body. -/
def Service.post (service : Service) (command : String) : String × Json :=
  (service.commandPath, Dispatch.body command)

namespace Host

/-- The post that was made. -/
def Happening.post? : Happening → Option (String × Json)
  | requested (.post path body) => some (path, body)
  | requested (.get _) | reported _ | navigated _ | signedOut => none

/-- The posts a host has made, in order. -/
def posted (host : Host) : List (String × Json) := host.record.filterMap Happening.post?

/-- The post a job makes. -/
def Job.post? : Job → Option (String × Json)
  | fetch _ _ => none
  | dispatch command path => some (path, Dispatch.body command)

/-- The post of a task that has not started. -/
def Task.unsent? (task : Task) : Option (String × Json) :=
  if task.stage = .spawned then task.job.post? else none

/-- The posts of the tasks that have not started, in order. -/
def unsent (host : Host) : List (String × Json) := host.tasks.filterMap Task.unsent?

/-- The posts a host has made and those it will make. -/
def ledger (host : Host) : List (String × Json) := host.posted ++ host.unsent

@[simp] theorem posted_note (host : Host) (happening : Happening) :
    (host.note happening).posted = host.posted ++ happening.post?.toList := by
  cases hpost : happening.post? <;> simp [posted, note, hpost]

@[simp] theorem posted_report (host : Host) (event : Event) :
    (host.report event).posted = host.posted := by
  simp [report, Happening.post?]

/-! ## Passing an action on -/

/-- What is reported of the journal is no post. -/
theorem posted_relay (host : Host) : host.relay.posted = host.posted := by
  simp [posted, relay, Happening.post?, Function.comp_def]

section

variable {resync : Step} (hresync : ∀ host : Host, (resync host).1.posted = host.posted)
include hresync

/-- An effect posts nothing by itself. -/
theorem posted_perform (effect : Effect) (host : Host) :
    (perform resync effect host).1.posted = host.posted := by
  cases effect with
  | requestFrame | preventDefault | fetchProfile => rfl
  | dispatch command => exact posted_report host _
  | navigate path =>
      simp only [perform, navigate]
      split <;> simp [Happening.post?]
  | signOut =>
      simp only [perform]
      split
      all_goals
        rw [hresync]
        simp [posted, note, report, Happening.post?]

theorem posted_performAll (effects : List Effect) (host : Host) :
    (performAll resync effects host).1.posted = host.posted := by
  induction effects generalizing host with
  | nil => rfl
  | cons effect rest ih =>
      rw [performAll_cons, ih]
      exact posted_perform hresync effect host

theorem posted_applyWith (action : Action) (host : Host) :
    (applyWith resync action host).1.posted = host.posted := by
  have hrelay := posted_relay { host with shell := (host.shell.step action).1 }
  exact (posted_performAll hresync _ _).trans hrelay

end

@[simp] theorem posted_syncSignedIn (host : Host) :
    host.syncSignedIn.1.posted = host.posted :=
  posted_applyWith (fun _ => rfl) _ host

/-- **Passing an action on posts nothing**; that is left to the tasks. -/
@[simp] theorem posted_apply (action : Action) (host : Host) :
    (apply action host).1.posted = host.posted :=
  posted_applyWith posted_syncSignedIn action host

/-- The posts of the jobs that some effects start are those of their commands. -/
theorem post_jobs (service : Service) (effects : List Effect) :
    (Effect.jobs service effects).filterMap Job.post? =
      (Effect.commands effects).map service.post := by
  induction effects with
  | nil => rfl
  | cons effect rest ih =>
      rw [Effect.jobs_cons, List.filterMap_append, ih, Effect.commands_cons, List.map_append]
      cases effect <;> rfl

/-- What is started has not been sent. -/
theorem unsent_started (jobs : List Job) :
    (started jobs).filterMap Task.unsent? = jobs.filterMap Job.post? := by
  rw [started, List.filterMap_map]
  rfl

/-- New tasks put their posts behind those that are not sent. -/
theorem Spawns.unsent {before after : Host} {jobs : List Job} (h : Spawns before after jobs) :
    after.unsent = before.unsent ++ jobs.filterMap Job.post? := by
  rw [Host.unsent, h.tasks, List.filterMap_append, unsent_started, Host.unsent]

/-! ## The tasks that have not started -/

/-- The tasks that have not started stand in line in the order in which they were spawned,
others perhaps between them. -/
structure Queued (host : Host) : Prop where
  places : ∀ index ∈ host.line, index < host.tasks.length
  order : host.line.filter host.isUnstarted = host.unstarted

/-- When every task has started, every command has been sent. -/
theorem unsent_eq_nil {host : Host} (h : ∀ task ∈ host.tasks, task.stage ≠ .spawned) :
    host.unsent = [] := by
  rw [unsent, List.filterMap_eq_nil_iff]
  intro task hmem
  rw [Task.unsent?, if_neg (h task hmem)]

/-- Nothing is left to send when every task is over. -/
theorem unsent_of_isOver {host : Host} (h : ∀ task ∈ host.tasks, task.stage.isOver = true) :
    host.unsent = [] := by
  apply unsent_eq_nil
  intro task hmem hstage
  have hover := h task hmem
  rw [hstage] at hover
  cases hover

/-- If no task is left to start, every task has started. -/
theorem stage_of_unstarted {host : Host} (h : host.unstarted = []) :
    ∀ task ∈ host.tasks, task.stage ≠ .spawned := by
  intro task hmem hstage
  obtain ⟨index, hget⟩ := List.getElem?_of_mem hmem
  have hlt := (List.getElem?_eq_some_iff.mp hget).1
  have hunstarted : host.isUnstarted index = true := by simp [isUnstarted, hget, hstage]
  have hmem := List.mem_filter.mpr ⟨List.mem_range.mpr hlt, hunstarted⟩
  rw [← unstarted, h] at hmem
  cases hmem

/-- The tasks before the first one that has not started have started. -/
theorem isUnstarted_of_lt {host : Host} {index earlier : Nat} {rest : List Nat}
    (h : host.unstarted = index :: rest) (hlt : earlier < index) :
    host.isUnstarted earlier = false := by
  have hsorted : host.unstarted.Pairwise (· < ·) := List.pairwise_lt_range.filter _
  have hindex : index ∈ host.unstarted := h ▸ List.mem_cons_self
  rw [h, List.pairwise_cons] at hsorted
  by_contra htrue
  have hplace : earlier < host.tasks.length :=
    hlt.trans (List.mem_range.mp (List.mem_filter.mp hindex).1)
  have hmem : earlier ∈ host.unstarted :=
    List.mem_filter.mpr ⟨List.mem_range.mpr hplace, by simpa using htrue⟩
  rw [h] at hmem
  rcases List.mem_cons.mp hmem with rfl | hrest
  · exact lt_irrefl _ hlt
  · exact absurd (hsorted.1 earlier hrest) (Nat.not_lt_of_lt hlt)

/-- New tasks stand behind the others and have not started. -/
theorem Spawns.queued {before after : Host} {jobs : List Job} (h : Spawns before after jobs)
    (hqueued : before.Queued) : after.Queued := by
  have hlength : after.tasks.length = before.tasks.length + jobs.length := by
    simp [h.tasks, started]
  have hold : ∀ index, index < before.tasks.length →
      after.isUnstarted index = before.isUnstarted index := by
    intro index hlt
    rw [isUnstarted, h.tasks, List.getElem?_append_left hlt, isUnstarted]
  refine ⟨?_, ?_⟩
  · intro index hmem
    rw [h.line] at hmem
    rcases List.mem_append.mp hmem with hmem | hmem
    · exact hlength ▸ Nat.lt_add_right _ (hqueued.places index hmem)
    · exact hlength ▸ (List.mem_range'_1.mp hmem).2
  · rw [h.line, unstarted, hlength, List.range_eq_range', ← List.range'_append_1,
      List.filter_append, List.filter_append, Nat.zero_add, ← List.range_eq_range']
    congr 1
    rw [List.filter_congr (fun index hmem => hold index (hqueued.places index hmem)),
      List.filter_congr (fun index hmem => hold index (List.mem_range.mp hmem))]
    exact hqueued.order

/-- A task has gone on to a stage in which it has started, and if it had not started before,
its post was made. -/
structure Begins (before after : Host) (index : Nat) (task : Task) : Prop where
  tasks : ∃ stage, stage ≠ .spawned ∧ after.tasks = before.tasks.set index { task with stage }
  line : after.line = before.line
  shell : after.shell = before.shell
  posted : after.posted = before.posted ++ task.unsent?.toList

/-- A task begins when it comes to its stage, with its post made on the way if it had not started.
-/
theorem begins_setStage {before host : Host} {index : Nat} {task : Task} {stage : Stage}
    (htask : before.tasks[index]? = some task) (hstage : stage ≠ .spawned)
    (htasks : host.tasks = before.tasks) (hline : host.line = before.line)
    (hshell : host.shell = before.shell)
    (hposted : host.posted = before.posted ++ task.unsent?.toList) :
    Begins before (host.setStage index stage) index task := by
  refine ⟨⟨stage, hstage, ?_⟩, hline, hshell, hposted⟩
  obtain ⟨hlt, hget⟩ := List.getElem?_eq_some_iff.mp htask
  rw [setStage, htasks, List.set_eq_take_append_cons_drop, if_pos hlt, ← hget]
  exact List.modify_eq_take_cons_drop hlt

/-- A task begins when its request for a profile is answered. -/
theorem answerFetch_begins (backend : Http.Backend) {before host : Host} {index : Nat}
    {ticket : Ticket} {path : String} {task : Task} (htask : before.tasks[index]? = some task)
    (htasks : host.tasks = before.tasks) (hline : host.line = before.line)
    (hshell : host.shell = before.shell)
    (hposted : host.posted = before.posted ++ task.unsent?.toList) :
    Begins before (answerFetch backend host index ticket path) index task := by
  unfold answerFetch
  dsimp only
  split
  · exact begins_setStage htask (by simp) htasks hline hshell hposted
  · unfold complete
    split
    · exact begins_setStage htask (by simp) htasks hline hshell hposted
    · exact begins_setStage htask (by simp) htasks hline hshell ((posted_report _ _).trans hposted)

/-- A task for a profile begins even if it has to wait for the gate before it is answered. -/
theorem beginFetch_begins (backend : Http.Backend) {host : Host} {index : Nat} {ticket : Ticket}
    {path : String} {task : Task} (htask : host.tasks[index]? = some task)
    (hjob : task.job = .fetch ticket path) :
    Begins host (beginFetch backend host index ticket path) index task := by
  have hunsent : task.unsent? = none := by simp [Task.unsent?, hjob, Job.post?]
  have hposted : ((host.report (.fetching path)).note (.requested (.get path))).posted =
      host.posted ++ task.unsent?.toList := by
    simp [hunsent, Happening.post?]
  unfold beginFetch
  dsimp only
  split
  · exact answerFetch_begins backend htask rfl rfl rfl hposted
  · exact begins_setStage htask (by simp) rfl rfl rfl hposted
  · exact answerFetch_begins backend htask rfl rfl rfl hposted

/-- **A task that sends a command makes its post, and is over**, whatever comes of it. -/
theorem sendCommand_begins (backend : Http.Backend) {host : Host} {index : Nat}
    {command path : String} {task : Task} (htask : host.tasks[index]? = some task)
    (hstage : task.stage = .spawned) (hjob : task.job = .dispatch command path) :
    Begins host (sendCommand backend host index command path) index task := by
  have hunsent : task.unsent? = some (path, Dispatch.body command) := by
    simp [Task.unsent?, hstage, hjob, Job.post?]
  have hposted : (host.note (.requested (.post path (Dispatch.body command)))).posted =
      host.posted ++ task.unsent?.toList := by
    simp [hunsent, Happening.post?]
  unfold sendCommand
  dsimp only
  split
  · exact begins_setStage htask (by simp) rfl rfl rfl hposted
  · exact begins_setStage htask (by simp) rfl rfl rfl ((posted_report _ _).trans hposted)
  · exact begins_setStage htask (by simp) rfl rfl rfl ((posted_report _ _).trans hposted)

theorem begins_refl {host : Host} {index : Nat} {task : Task}
    (htask : host.tasks[index]? = some task) (hstage : task.stage ≠ .spawned) :
    Begins host host index task := by
  obtain ⟨hlt, rfl⟩ := List.getElem?_eq_some_iff.mp htask
  have hunsent : host.tasks[index].unsent? = none := if_neg hstage
  refine ⟨⟨_, hstage, ?_⟩, rfl, rfl, by simp [hunsent]⟩
  exact (List.set_getElem_self hlt).symm

/-- **A task that goes on has started.** -/
theorem advance_begins (backend : Http.Backend) {host : Host} {index : Nat} {task : Task}
    (htask : host.tasks[index]? = some task) :
    Begins host (advance backend host index) index task := by
  unfold advance
  rw [htask]
  dsimp only
  split
  · next hstage hjob => exact beginFetch_begins backend htask hjob
  · next hstage hjob =>
      have hunsent : task.unsent? = none := if_neg (by simp [hstage])
      exact answerFetch_begins backend htask rfl rfl rfl (by simp [hunsent])
  · next hstage hjob => exact sendCommand_begins backend htask hstage hjob
  · next hfetch _ hsend =>
      refine begins_refl htask ?_
      intro hstage
      cases hjob : task.job with
      | fetch ticket path => exact hfetch ticket path hstage hjob
      | dispatch command path => exact hsend command path hstage hjob

section

variable {before after : Host} {index : Nat} {task : Task} (h : Begins before after index task)
  (htask : before.tasks[index]? = some task)
include h

theorem Begins.length : after.tasks.length = before.tasks.length := by
  obtain ⟨stage, _, htasks⟩ := h.tasks
  rw [htasks, List.length_set]

include htask

/-- The task has started now, and every other one if it had before. -/
theorem Begins.isUnstarted (place : Nat) :
    after.isUnstarted place = (place != index && before.isUnstarted place) := by
  obtain ⟨stage, hstage, htasks⟩ := h.tasks
  have hlt := (List.getElem?_eq_some_iff.mp htask).1
  rw [Host.isUnstarted, htasks, List.getElem?_set]
  by_cases hplace : index = place
  · simp [← hplace, hlt, hstage]
  · rw [if_neg hplace, Host.isUnstarted, bne_iff_ne.mpr (Ne.symm hplace), Bool.true_and]

/-- The task is no longer among those that have not started. -/
theorem Begins.filter_isUnstarted (places : List Nat) :
    places.filter after.isUnstarted = (places.filter before.isUnstarted).filter (· != index) := by
  rw [List.filter_filter]
  exact List.filter_congr fun place _ => h.isUnstarted htask place

/-- A task that begins is no longer in the list of those that are left to start. -/
theorem Begins.unstarted : after.unstarted = before.unstarted.filter (· != index) := by
  rw [Host.unstarted, h.length]
  exact h.filter_isUnstarted htask _

/-- What is read off the tasks one by one changes at most for the task that goes on. -/
theorem Begins.filterMap {α : Type} (look : Task → Option α) :
    let first := (before.tasks.take index).filterMap look
    let later := (before.tasks.drop (index + 1)).filterMap look
    before.tasks.filterMap look = first ++ ((look task).toList ++ later) ∧
      ∃ stage, stage ≠ .spawned ∧ after.tasks.filterMap look =
        first ++ ((look { task with stage }).toList ++ later) := by
  intro first later
  obtain ⟨stage, hstage, hset⟩ := h.tasks
  obtain ⟨hlt, hget⟩ := List.getElem?_eq_some_iff.mp htask
  have hread : ∀ other : Task,
      (before.tasks.take index ++ other :: before.tasks.drop (index + 1)).filterMap look =
        first ++ ((look other).toList ++ later) := by
    intro other
    rw [List.filterMap_append, List.filterMap_cons]
    cases look other <;> rfl
  have hsplit : before.tasks =
      before.tasks.take index ++ task :: before.tasks.drop (index + 1) := by
    rw [← hget, ← List.drop_eq_getElem_cons hlt, List.take_append_drop]
  refine ⟨(congrArg (List.filterMap look) hsplit).trans (hread task), stage, hstage, ?_⟩
  rw [hset, List.set_eq_take_append_cons_drop, if_pos hlt]
  exact hread _

/-- It takes its post, if it has one, out of those that are not sent. -/
theorem Begins.unsent :
    let first := (before.tasks.take index).filterMap Task.unsent?
    let later := (before.tasks.drop (index + 1)).filterMap Task.unsent?
    before.unsent = first ++ (task.unsent?.toList ++ later) ∧ after.unsent = first ++ later := by
  intro first later
  obtain ⟨hbefore, stage, hstage, hafter⟩ := h.filterMap htask Task.unsent?
  have hnone : ({ task with stage } : Task).unsent? = none := if_neg hstage
  rw [hnone] at hafter
  exact ⟨hbefore, hafter⟩

end

/-- What has started has nothing left to send. -/
theorem unsent_take_eq_nil {host : Host} {index : Nat}
    (h : ∀ earlier < index, host.isUnstarted earlier = false) :
    (host.tasks.take index).filterMap Task.unsent? = [] := by
  rw [List.filterMap_eq_nil_iff]
  intro task hmem
  obtain ⟨earlier, hget⟩ := List.getElem?_of_mem hmem
  rw [List.getElem?_take] at hget
  split at hget
  · next hlt =>
      have hstarted := h earlier hlt
      rw [isUnstarted, hget] at hstarted
      exact if_neg (by simpa using hstarted)
  · cases hget

/-! ## What goes on around a host -/

/-- Some commands may have been sent.  None is lost, none is sent twice, and none overtakes
another. -/
structure Sends (before after : Host) : Prop where
  ledger : after.ledger = before.ledger
  unsent : after.unsent.Sublist before.unsent
  queued : before.Queued → after.Queued

theorem sends_refl (host : Host) : Sends host host := ⟨rfl, .refl _, id⟩

theorem Sends.trans {first second third : Host} (h : Sends first second)
    (h' : Sends second third) : Sends first third :=
  ⟨h'.ledger.trans h.ledger, h'.unsent.trans h.unsent,
    fun hqueued => h'.queued (h.queued hqueued)⟩

/-- When all commands have been sent, no more are. -/
theorem Sends.unsent_eq_nil {before after : Host} (h : Sends before after)
    (hnone : before.unsent = []) : after.unsent = [] :=
  List.sublist_nil.mp (hnone ▸ h.unsent)

/-- **A task that starts makes its post, and makes it once**, behind the posts of all earlier
tasks. -/
theorem Begins.sends {before after : Host} {index : Nat} {task : Task}
    (h : Begins before after index task) (htask : before.tasks[index]? = some task)
    (hturn : before.isUnstarted index = true →
      ∀ earlier < index, before.isUnstarted earlier = false) : Sends before after := by
  obtain ⟨hbefore, hafter⟩ := h.unsent htask
  refine ⟨?_, ?_, ?_⟩
  · rw [ledger, ledger, h.posted, hbefore, hafter]
    cases hunsent : task.unsent? with
    | none => simp
    | some post =>
        have hstage : task.stage = .spawned := by
          by_contra hne
          rw [Task.unsent?, if_neg hne] at hunsent
          cases hunsent
        have hunstarted : before.isUnstarted index = true := by
          simp [Host.isUnstarted, htask, hstage]
        simp [unsent_take_eq_nil (hturn hunstarted)]
  · rw [hbefore, hafter]
    exact (List.Sublist.refl _).append (List.sublist_append_right _ _)
  · intro hqueued
    constructor
    · rw [h.line, h.length]
      exact hqueued.places
    · rw [h.line, h.filter_isUnstarted htask, hqueued.order, h.unstarted htask]

/-- Without a task at the place nothing goes on. -/
theorem advance_of_none (backend : Http.Backend) {host : Host} {index : Nat}
    (h : host.tasks[index]? = none) : advance backend host index = host := by
  rw [advance, h]

/-- A task goes on.  It may start if no earlier one is left to start. -/
theorem advance_sends (backend : Http.Backend) {host : Host} {index : Nat}
    (hturn : host.isUnstarted index = true →
      ∀ earlier < index, host.isUnstarted earlier = false) :
    Sends host (advance backend host index) := by
  cases htask : host.tasks[index]? with
  | none =>
      rw [advance_of_none backend htask]
      exact sends_refl host
  | some task => exact (advance_begins backend htask).sends htask hturn

theorem start_sends (backend : Http.Backend) (host : Host) : Sends host (host.start backend) := by
  unfold start
  split
  · exact sends_refl host
  · next index rest hunstarted =>
      exact advance_sends backend fun _ earlier hlt => isUnstarted_of_lt hunstarted hlt

theorem resume_sends (backend : Http.Backend) (host : Host) (index : Nat) :
    Sends host (host.resume backend index) := by
  unfold resume
  split
  · exact sends_refl host
  · next hstarted => exact advance_sends backend fun htrue => absurd htrue hstarted

/-- The tasks in line go on, one after another. -/
theorem foldl_advance_sends (backend : Http.Backend) (line : List Nat) {host : Host}
    (horder : line.filter host.isUnstarted = host.unstarted) :
    Sends host (line.foldl (advance backend) host) ∧
      (line.foldl (advance backend) host).unstarted = [] := by
  induction line generalizing host with
  | nil => exact ⟨sends_refl host, horder.symm⟩
  | cons index rest ih =>
      -- the first place in line is that of the first task that has not started, or of one
      -- that has
      have hturn : host.isUnstarted index = true →
          ∀ earlier < index, host.isUnstarted earlier = false := by
        intro htrue earlier hlt
        rw [List.filter_cons_of_pos htrue] at horder
        exact isUnstarted_of_lt horder.symm hlt
      have hnext : rest.filter (advance backend host index).isUnstarted =
          (advance backend host index).unstarted := by
        cases htask : host.tasks[index]? with
        | none =>
            have hfalse : ¬ host.isUnstarted index = true := by simp [isUnstarted, htask]
            rw [advance_of_none backend htask, ← horder, List.filter_cons_of_neg hfalse]
        | some task =>
            have hbegins := advance_begins backend htask
            rw [hbegins.filter_isUnstarted htask, hbegins.unstarted htask, ← horder,
              List.filter_cons]
            split <;> simp
      obtain ⟨hsends, hnone⟩ := ih hnext
      exact ⟨(advance_sends backend hturn).trans hsends, hnone⟩

/-- **When the background has gone on, every command has been sent.** -/
theorem Queued.runBackground {host : Host} (h : host.Queued) (backend : Http.Backend) :
    Sends host (host.runBackground backend) ∧ (host.runBackground backend).unsent = [] := by
  let waiting := { host with line := [] }
  have horder : host.line.filter waiting.isUnstarted = waiting.unstarted := h.order
  obtain ⟨hsends, hnone⟩ := foldl_advance_sends backend host.line horder
  have hline : (host.runBackground backend).line = [] :=
    (foldl_advance backend host.line waiting).line
  have hnone : (host.runBackground backend).unstarted = [] := hnone
  refine ⟨⟨hsends.ledger, hsends.unsent, ?_⟩, ?_⟩
  · intro _
    exact ⟨by simp [hline], by rw [hline, hnone, List.filter_nil]⟩
  · exact unsent_eq_nil (stage_of_unstarted hnone)

/-- A task that is let through the gate has started, so it sends nothing. -/
theorem admit_sends {host : Host} {index permits : Nat} {task : Task}
    (htask : host.tasks[index]? = some task) (hstage : task.stage = .waiting) :
    Sends host { host.setStage index .letThrough with
      permits := some permits, line := host.line ++ [index] } := by
  have hstarted : host.isUnstarted index = false := by simp [isUnstarted, htask, hstage]
  have hunsent : task.unsent? = none := if_neg (by simp [hstage])
  have hbegins : Begins host (host.setStage index .letThrough) index task :=
    begins_setStage htask (by simp) rfl rfl rfl (by simp [hunsent])
  have hsends := hbegins.sends htask (by simp [hstarted])
  refine ⟨hsends.ledger, hsends.unsent, ?_⟩
  intro hqueued
  obtain ⟨hplaces, horder⟩ := hsends.queued hqueued
  constructor
  · intro place hmem
    rcases List.mem_append.mp hmem with hold | hnew
    · exact hplaces place hold
    · obtain rfl := List.mem_singleton.mp hnew
      exact hbegins.length ▸ (List.getElem?_eq_some_iff.mp htask).1
  · have hlast : [index].filter (host.setStage index .letThrough).isUnstarted = [] := by
      simp [hbegins.isUnstarted htask]
    show (host.line ++ [index]).filter (host.setStage index .letThrough).isUnstarted = _
    rw [List.filter_append, hlast, List.append_nil]
    exact horder

theorem admitFrom_sends (index more : Nat) (host : Host) :
    Sends host (admitFrom index more host) := by
  induction more generalizing index host with
  | zero => exact sends_refl host
  | succ more ih =>
      unfold admitFrom
      split
      · next permits task _ htask =>
          refine Sends.trans ?_ (ih _ _)
          split
          · next hstage => exact admit_sends htask hstage
          · exact sends_refl host
      · exact sends_refl host

theorem release_sends (host : Host) (count : Nat) : Sends host (host.release count) := by
  have hopen : Sends host { host with permits := host.permits.map (· + count) } :=
    ⟨rfl, .refl _, fun h => ⟨h.places, h.order⟩⟩
  exact hopen.trans (admitFrom_sends _ _ _)

theorem report_sends (host : Host) (event : Event) : Sends host (host.report event) := by
  refine ⟨?_, .refl _, fun h => ⟨h.places, h.order⟩⟩
  rw [ledger, posted_report]
  rfl

/-- Whether a task is held has nothing to do with whether it has started. -/
theorem Regrips.sends {before after : Host} (h : Regrips before after) : Sends before after := by
  cases h with
  | intro change hjob hstage =>
      have hunstarted : ∀ index, isUnstarted
          { before with tasks := before.tasks.map change } index = before.isUnstarted index := by
        intro index
        rw [isUnstarted, isUnstarted, List.getElem?_map]
        cases before.tasks[index]? <;> simp [hstage]
      have hunsent : Task.unsent? ∘ change = Task.unsent? := by
        funext task
        simp [Task.unsent?, hjob, hstage]
      have hsame : unsent { before with tasks := before.tasks.map change } = before.unsent := by
        rw [unsent, unsent, List.filterMap_map, hunsent]
      refine ⟨?_, hsame ▸ .refl _, ?_⟩
      · rw [ledger, hsame]
        rfl
      · intro hqueued
        refine ⟨by simpa using hqueued.places, ?_⟩
        rw [unstarted, List.filter_congr (fun index _ => hunstarted index),
          List.filter_congr (fun index _ => hunstarted index), List.length_map]
        exact hqueued.order

end Host

end WorksheetBar
