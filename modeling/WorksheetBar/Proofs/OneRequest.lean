import WorksheetBar.Proofs.HostBackground
import WorksheetBar.Proofs.JournalEntries

/-!
# At most one request

A host **owes** its shell an answer for every request whose task has not handed one in,
dead tasks included, and for every answer that lies in the inbox.  The books are always
balanced: what is owed is exactly the ticket the session waits for.  So there is never
more than one, and whatever comes out of the inbox is waited for.

* `Move.balanced` — every move of a host or its background keeps the books balanced;
* `at_most_one_request` — in every scene, at most one request is under way or its answer
  in the inbox, and the session waits for it.
-/

namespace WorksheetBar

namespace Host

open Relation (ReflTransGen)

/-- The ticket of a request that has neither been answered nor died. -/
def Task.fetching? (task : Task) : Option Ticket :=
  if task.stage.isOver then none else task.ticket?

/-- The ticket of a request that has not been answered. -/
def Task.owed? (task : Task) : Option Ticket :=
  if task.stage = .ended then none else task.ticket?

/-- The tickets of the requests that have neither been answered nor died. -/
def fetching (host : Host) : List Ticket := host.tasks.filterMap Task.fetching?

/-- The tickets of the answers that lie in the inbox. -/
def answered (host : Host) : List Ticket := host.inbox.map Completion.ticket

/-- The tickets of the answers that the shell has not had yet. -/
def owed (host : Host) : List Ticket := host.tasks.filterMap Task.owed? ++ host.answered

/-- A request that is being fetched is owed an answer. -/
theorem Task.owed?_of_fetching? {task : Task} {ticket : Ticket}
    (h : task.fetching? = some ticket) : task.owed? = some ticket := by
  unfold fetching? at h
  unfold owed?
  split at h
  · simp at h
  · next hover =>
      rw [if_neg ?_]
      · exact h
      · intro hended
        simp [hended, Stage.isOver] at hover

/-- What is being fetched is owed. -/
theorem fetching_sublist (tasks : List Task) :
    (tasks.filterMap Task.fetching?).Sublist (tasks.filterMap Task.owed?) := by
  induction tasks with
  | nil => exact .slnil
  | cons task rest ih =>
      cases hfetching : task.fetching? with
      | none =>
          rw [List.filterMap_cons_none hfetching]
          exact ih.trans ((List.sublist_cons_self task rest).filterMap _)
      | some ticket =>
          rw [List.filterMap_cons_some hfetching,
            List.filterMap_cons_some (Task.owed?_of_fetching? hfetching)]
          exact ih.cons_cons ticket

/-- A request that waits at the gate, or was let through it, is being fetched. -/
def Parked (tasks : List Task) : Prop :=
  ∀ task ∈ tasks, task.stage = .waiting ∨ task.stage = .letThrough → task.ticket?.isSome = true

/-- The books of a host. -/
structure Balanced (host : Host) : Prop where
  isAlive : host.isAlive = true
  owed : host.owed.Perm host.shell.session.ticket?.toList
  parked : Parked host.tasks
  mostGets : host.mostGets ≤ 1
  sound : host.shell.errand.Sound
  unstale : host.shell.Unstale

/-- At most one request is under way or answered. -/
theorem Balanced.length_le {host : Host} (h : host.Balanced) :
    host.fetching.length + host.inbox.length ≤ 1 := by
  have hfetching : host.fetching.length ≤ (host.tasks.filterMap Task.owed?).length :=
    (fetching_sublist host.tasks).length_le
  have howed : host.owed.length = (host.tasks.filterMap Task.owed?).length + host.inbox.length := by
    simp [Host.owed, answered]
  have hsession : host.shell.session.ticket?.toList.length ≤ 1 := by
    cases host.shell.session.ticket? <;> simp
  have hperm := h.owed.length_eq
  omega

/-- Whatever is owed is waited for. -/
theorem Balanced.session_of_owed {host : Host} (h : host.Balanced) {ticket : Ticket}
    (hmem : ticket ∈ host.owed) : host.shell.session = .loading ticket := by
  have hticket : ticket ∈ host.shell.session.ticket?.toList := h.owed.mem_iff.mp hmem
  exact Session.ticket?_eq_some.mp (Option.mem_toList.mp hticket)

/-- Whatever is under way or answered is what the session is loading. -/
theorem Balanced.session_of_fetching {host : Host} (h : host.Balanced) {ticket : Ticket}
    (hmem : ticket ∈ host.fetching ++ host.answered) :
    host.shell.session = .loading ticket := by
  apply h.session_of_owed
  rcases List.mem_append.mp hmem with hfetching | hanswered
  · exact List.mem_append_left _ ((fetching_sublist host.tasks).subset hfetching)
  · exact List.mem_append_right _ hanswered

/-- The requests under way are among those being fetched. -/
theorem countP_le_fetching (tasks : List Task) (hparked : Parked tasks) :
    tasks.countP (fun task => task.stage == .waiting || task.stage == .letThrough) ≤
      (tasks.filterMap Task.fetching?).length := by
  induction tasks with
  | nil => simp
  | cons task rest ih =>
      have hrest := ih (fun other hmem => hparked other (List.mem_cons_of_mem _ hmem))
      by_cases hunderWay : task.stage = .waiting ∨ task.stage = .letThrough
      · obtain ⟨ticket, hticket⟩ :=
          Option.isSome_iff_exists.mp (hparked task List.mem_cons_self hunderWay)
        have hfetching : task.fetching? = some ticket := by
          rcases hunderWay with hstage | hstage <;>
            simp [Task.fetching?, hstage, Stage.isOver, hticket]
        rw [List.countP_cons_of_pos (by simpa using hunderWay),
          List.filterMap_cons_some hfetching, List.length_cons]
        omega
      · rw [List.countP_cons_of_neg (by simpa using hunderWay)]
        have hlonger : (rest.filterMap Task.fetching?).length ≤
            ((task :: rest).filterMap Task.fetching?).length :=
          ((List.sublist_cons_self task rest).filterMap _).length_le
        omega

/-- No more requests are under way than are being fetched. -/
theorem getsUnderWay_le {host : Host} (hparked : Parked host.tasks) :
    host.getsUnderWay ≤ host.fetching.length :=
  countP_le_fetching host.tasks hparked

/-- A request that begins is not yet under way, but it is being fetched. -/
theorem getsUnderWay_lt {host : Host} (hparked : Parked host.tasks) {first later : List Task}
    {task : Task} (htasks : host.tasks = first ++ task :: later) (hstage : task.stage = .spawned)
    (hticket : task.ticket?.isSome = true) : host.getsUnderWay + 1 ≤ host.fetching.length := by
  obtain ⟨ticket, hticket⟩ := Option.isSome_iff_exists.mp hticket
  have hfetching : task.fetching? = some ticket := by
    simp [Task.fetching?, hstage, Stage.isOver, hticket]
  have hfirst := countP_le_fetching first (fun other hmem => hparked other (by
    simp [htasks, hmem]))
  have hlater := countP_le_fetching later (fun other hmem => hparked other (by
    simp [htasks, hmem]))
  simp only [getsUnderWay, fetching, htasks, List.countP_append, List.filterMap_append,
    List.filterMap_cons_some hfetching, List.length_append, List.length_cons]
  rw [List.countP_cons_of_neg (by simp [hstage])]
  omega

/-- A task that goes on takes its ticket along: what it owed is owed by itself or by what
it hands in. -/
theorem Task.Goes.owed {task : Task} {stage : Stage} {answers : List Completion}
    (h : task.Goes stage answers) : task.owed?.toList =
      ({ task with stage := stage } : Task).owed?.toList ++ answers.map Completion.ticket := by
  cases h with
  | waits hstage _ | passes hstage => simp [Task.owed?, Task.ticket?, hstage]
  | answers _ hstage hticket =>
      rcases hstage with hstage | hstage <;> simp [Task.owed?, hstage, hticket]
  | sends hstage hticket => simp [Task.owed?, hticket]
  | dies hstage =>
      rcases hstage with hstage | hstage <;> simp [Task.owed?, Task.ticket?, hstage]

/-- What a host owes, task by task. -/
theorem owed_of_tasks {host : Host} {first later : List Task} {task : Task}
    (htasks : host.tasks = first ++ task :: later) :
    host.owed = first.filterMap Task.owed? ++
      (task.owed?.toList ++ (later.filterMap Task.owed? ++ host.answered)) := by
  cases howed : task.owed? <;> simp [owed, htasks, howed]

/-- When a task goes on, the same is owed as before. -/
theorem Shift.owed_perm {before after : Host} {first later : List Task} {task : Task}
    {stage : Stage} {answers : List Completion}
    (h : Shift before after first task later stage answers) : after.owed.Perm before.owed := by
  have hanswered : after.answered = before.answered ++ answers.map Completion.ticket := by
    simp [answered, h.inbox]
  rw [owed_of_tasks h.tasks, owed_of_tasks h.moved, h.goes.owed, hanswered]
  apply List.Perm.append_left
  rw [List.append_assoc]
  apply List.Perm.append_left
  rw [← List.append_assoc]
  exact List.perm_append_comm

/-- Only a request comes to the gate. -/
theorem Shift.parked {before after : Host} {first later : List Task} {task : Task}
    {stage : Stage} {answers : List Completion}
    (h : Shift before after first task later stage answers) (hparked : Parked before.tasks) :
    Parked after.tasks := by
  intro other hmem hstage
  rw [h.moved] at hmem
  rcases List.mem_append.mp hmem with hfirst | hlater
  · exact hparked other (by simp [h.tasks, hfirst]) hstage
  · rcases List.mem_cons.mp hlater with rfl | hlater
    · have htask : task ∈ before.tasks := by simp [h.tasks]
      cases h.goes with
      | waits _ hticket => simpa [Task.ticket?] using congrArg Option.isSome hticket
      | passes hwaiting => exact hparked task htask (Or.inl hwaiting)
      | answers | sends | dies => simp at hstage
    · exact hparked other (by simp [h.tasks, hlater]) hstage

/-- The books balance where no task has gone on. -/
theorem Balanced.still {before after : Host} (h : before.Balanced) (hstill : Still before after) :
    after.Balanced := by
  have howed : after.owed = before.owed := by
    simp [Host.owed, answered, hstill.tasks, hstill.inbox]
  constructor
  · exact hstill.isAlive.trans h.isAlive
  · rw [howed, hstill.shell]
    exact h.owed
  · rw [hstill.tasks]
    exact h.parked
  · rw [hstill.mostGets]
    exact h.mostGets
  · rw [hstill.shell]
    exact h.sound
  · rw [hstill.shell]
    exact h.unstale

/-- **What the background does keeps the books balanced.** -/
theorem Balanced.drift {before after : Host} (h : before.Balanced) (hdrift : Drift before after) :
    after.Balanced := by
  cases hdrift with
  | still hstill => exact h.still hstill
  | shift hshift =>
      constructor
      · exact hshift.isAlive.trans h.isAlive
      · rw [hshift.shell]
        exact hshift.owed_perm.trans h.owed
      · exact hshift.parked h.parked
      · rcases hshift.mostGets with hsame | ⟨hstage, hticket, hmost⟩
        · rw [hsame]
          exact h.mostGets
        · have hcount := getsUnderWay_lt h.parked hshift.tasks hstage hticket
          have hlength := h.length_le
          have hmostGets := h.mostGets
          omega
      · rw [hshift.shell]
        exact h.sound
      · rw [hshift.shell]
        exact h.unstale

/-- The books of a host balance whatever happens around it. -/
theorem Balanced.progress {before after : Host} (h : before.Balanced)
    (hprogress : Progress before after) : after.Balanced := by
  have hdrifts := hprogress.drifts h.isAlive
  clear hprogress
  induction hdrifts with
  | refl => exact h
  | tail _ hdrift ih => exact ih.drift hdrift

end Host

/-- Actions that bring no answer keep the errand sound and the journal free of stale
answers, and wait for what they ask for. -/
theorem Shell.run_unanswered {shell : Shell} {actions : List Action}
    (hactions : ∀ action ∈ actions, ∀ ticket result, action ≠ .runtime (.fetched ticket result))
    (hsound : shell.errand.Sound) (hunstale : shell.Unstale) :
    (shell.run actions).errand.Sound ∧ (shell.run actions).Unstale ∧
      (shell.run actions).session.ticket?.toList =
        shell.session.ticket?.toList ++ shell.issued actions := by
  induction actions using List.reverseRecOn with
  | nil => exact ⟨hsound, hunstale, by simp⟩
  | append_singleton actions action ih =>
      have haction := hactions action (by simp)
      obtain ⟨hsound', hunstale', hticket⟩ := ih fun other hmem =>
        hactions other (List.mem_append_left _ hmem)
      have hturn := Shell.run_turn shell actions action
      refine ⟨hturn.sound hsound', ?_, ?_⟩
      · rw [Shell.run_concat]
        refine Shell.step_unstale hunstale' ?_
        intro ticket result heq
        exact absurd heq (haction ticket result)
      · rw [Shell.issued_concat, ← List.append_assoc, ← hticket]
        exact hturn.ticket_of_unanswered haction

namespace Host

/-- Tasks that were started owe what they were started for. -/
theorem Spawns.owed_perm {before after : Host} {jobs : List Job} (h : Spawns before after jobs) :
    after.owed.Perm (before.owed ++ jobs.filterMap Job.ticket?) := by
  have hstarted : (started jobs).filterMap Task.owed? = jobs.filterMap Job.ticket? := by
    rw [started, List.filterMap_map]
    rfl
  have hanswered : after.answered = before.answered := by simp [answered, h.inbox]
  rw [owed, owed, h.tasks, List.filterMap_append, hstarted, hanswered, List.append_assoc,
    List.append_assoc]
  exact List.perm_append_comm.append_left _

/-- New tasks are not at the gate. -/
theorem Spawns.parked {before after : Host} {jobs : List Job} (h : Spawns before after jobs)
    (hparked : Parked before.tasks) : Parked after.tasks := by
  intro task hmem hstage
  rw [h.tasks] at hmem
  rcases List.mem_append.mp hmem with hold | hnew
  · exact hparked task hold hstage
  · obtain ⟨job, _, rfl⟩ := List.mem_map.mp hnew
    simp at hstage

/-- A host that has started tasks is balanced if its shell waits for all that is owed. -/
theorem Spawns.balanced {before after : Host} {jobs : List Job} (h : Spawns before after jobs)
    (hisAlive : before.isAlive = true) (hparked : Parked before.tasks)
    (hmost : before.mostGets ≤ 1) (hsound : after.shell.errand.Sound)
    (hunstale : after.shell.Unstale)
    (hsession : (before.owed ++ jobs.filterMap Job.ticket?).Perm
      after.shell.session.ticket?.toList) : after.Balanced where
  isAlive := h.isAlive.trans hisAlive
  owed := h.owed_perm.trans hsession
  parked := h.parked hparked
  mostGets := h.mostGets ▸ hmost
  sound := hsound
  unstale := hunstale

/-- Whatever the shell hears keeps the books balanced, unless it is an answer. -/
theorem Balanced.unanswered {host after : Host} (h : host.Balanced) {actions : List Action}
    {jobs : List Job} (hactions : ∀ action ∈ actions, ∀ ticket result,
      action ≠ .runtime (.fetched ticket result)) (hspawns : Spawns host after jobs)
    (hshell : after.shell = host.shell.run actions)
    (htickets : jobs.filterMap Job.ticket? = host.shell.issued actions) : after.Balanced := by
  obtain ⟨hsound, hunstale, hsession⟩ := Shell.run_unanswered hactions h.sound h.unstale
  refine hspawns.balanced h.isAlive h.parked h.mostGets ?_ ?_ ?_
  · rw [hshell]
    exact hsound
  · rw [hshell]
    exact hunstale
  · rw [hshell, hsession, htickets]
    exact h.owed.append_right _

/-- Passing an action on that is no answer keeps the books balanced. -/
theorem Balanced.apply {host : Host} (h : host.Balanced) {action : Action}
    (haction : ∀ ticket result, action ≠ .runtime (.fetched ticket result)) :
    (apply action host).1.Balanced := by
  obtain ⟨actions, jobs, hactions, hspawns, hshell, htickets⟩ :=
    apply_unanswered action haction host
  exact h.unanswered hactions hspawns hshell htickets

/-- What the provider says is no answer. -/
theorem Balanced.syncSignedIn {host : Host} (h : host.Balanced) :
    host.syncSignedIn.1.Balanced := by
  obtain ⟨hspawns, hshell⟩ := syncSignedIn_eq host
  exact h.unanswered (by simp) hspawns hshell (Effect.ticket_jobs _ _)

/-- The first answer in the inbox is the only one and all that is owed. -/
theorem Balanced.owed_of_inbox {host : Host} (h : host.Balanced) {completion : Completion}
    {rest : List Completion} (hinbox : host.inbox = completion :: rest) :
    host.shell.session = .loading completion.ticket ∧ rest = [] ∧
      host.tasks.filterMap Task.owed? = [] := by
  have hmem : completion.ticket ∈ host.owed := by simp [Host.owed, answered, hinbox]
  have hsession := h.session_of_owed hmem
  have hlength := h.owed.length_eq
  simp only [hsession, Session.ticket?, Option.toList_some, List.length_nil,
    Host.owed, answered, hinbox, List.length_append, List.map_cons, List.length_cons,
    List.length_map] at hlength
  refine ⟨hsession, ?_, ?_⟩
  · exact List.eq_nil_of_length_eq_zero (by omega)
  · exact List.eq_nil_of_length_eq_zero (by omega)

/-- **Taking in an answer keeps the books balanced.**  It was the only thing owed, and the
shell now waits for what it asks for in return, if for anything. -/
theorem Balanced.receive {host : Host} (h : host.Balanced) {completion : Completion}
    {rest : List Completion} (hinbox : host.inbox = completion :: rest) :
    (({ host with inbox := rest } : Host).receive completion).Balanced := by
  obtain ⟨hsession, rfl, hnone⟩ := h.owed_of_inbox hinbox
  let emptied : Host := { host with inbox := [] }
  obtain ⟨jobs, hspawns, hshell, htickets, _⟩ := receive_eq emptied completion
  have hturn := Shell.run_turn emptied.shell []
    (.runtime (.fetched completion.ticket completion.result))
  obtain ⟨hticket, _, _⟩ := hturn.ticket_of_answered h.sound hsession
  refine hspawns.balanced h.isAlive h.parked h.mostGets ?_ ?_ ?_
  · rw [hshell]
    exact hturn.sound h.sound
  · rw [hshell]
    refine Shell.step_unstale h.unstale ?_
    intro ticket result heq
    cases heq
    exact hsession
  · have howed : emptied.owed = [] := by simp [Host.owed, answered, emptied, hnone]
    rw [howed, htickets, hshell, Shell.issued_singleton]
    exact List.Perm.of_eq hticket.symm

/-- Whether the host holds on to a task is nothing to the books. -/
theorem Balanced.regrips {before after : Host} (h : before.Balanced)
    (hregrips : Regrips before after) : after.Balanced := by
  have htasks : after.tasks.filterMap Task.owed? = before.tasks.filterMap Task.owed? := by
    apply hregrips.filterMap
    intro task other hjob hstage
    rw [Task.owed?, Task.owed?, Task.ticket?, Task.ticket?, hjob, hstage]
  have hparked : Parked after.tasks := by
    intro other hmem hstage
    obtain ⟨task, htask, hjob, hsame⟩ := hregrips.exists_of_mem hmem
    rw [Task.ticket?, hjob]
    exact h.parked task htask (hsame ▸ hstage)
  cases hregrips with
  | intro =>
      refine ⟨h.isAlive, ?_, hparked, h.mostGets, h.sound, h.unstale⟩
      rw [Host.owed, htasks]
      exact h.owed

/-- The books balance after every call. -/
theorem Balanced.call {host : Host} {scene : Scene} (h : host.Balanced)
    (hcall : Call host scene) : scene.host.Balanced := by
  cases hcall with
  | mount | unmount | handle => exact h.apply (by simp)
  | syncSignedIn => exact h.syncSignedIn
  | pump => exact h.regrips (regrips_letGo host)
  | settle => exact h

end Host

namespace Scene

/-- The books of a host balance after every step of its thread: an answer that is taken in leaves
the inbox. -/
theorem Work.balanced {scene next : Scene} (hwork : Work scene next)
    (h : scene.host.Balanced) : next.host.Balanced := by
  cases hwork with
  | receive _ hinbox => exact h.receive hinbox
  | pumped | gathered | settled => exact h
  | take => exact h.regrips (Host.regrips_takeTasks _)
  | awaited =>
      dsimp only
      split
      · exact h.still ⟨rfl, rfl, rfl, rfl, rfl⟩
      · exact h
  | gather => exact h.regrips (Host.regrips_letGo _)

/-- **Every move keeps the books balanced.** -/
theorem Move.balanced {scene next : Scene} (hmove : Move scene next)
    (h : scene.host.Balanced) : next.host.Balanced := by
  cases hmove with
  | call hcall => exact h.call hcall
  | work hwork => exact hwork.balanced h
  | progress _ hprogress => exact h.progress hprogress

/-- The books of a host balance along every run. -/
theorem Moves.balanced {scene next : Scene} (hmoves : Moves scene next)
    (h : scene.host.Balanced) : next.host.Balanced := by
  induction hmoves with
  | refl => exact h
  | tail _ hmove ih => exact hmove.balanced ih

end Scene

/-- At the start nothing is under way. -/
theorem Host.Starts.balanced {host : Host} (h : host.Starts) : host.Balanced := by
  cases h with
  | fresh config provider isTerminal permits =>
      exact ⟨rfl, .refl _, by simp [Host.fresh, Parked], Nat.zero_le _,
        Shell.fresh_errand_sound config provider.signedIn, by simp [Host.fresh, Shell.Unstale,
          Shell.fresh]⟩

namespace Scene

/-- **The books of every scene balance.** -/
theorem Reachable.balanced {scene : Scene} (h : scene.Reachable) : scene.host.Balanced := by
  obtain ⟨host, hstarts, hmoves⟩ := h
  exact hmoves.balanced hstarts.balanced

/-- **At most one request, and none ever stale.**  In every scene, at most one request is
being fetched or its answer in the inbox, and the session waits for it.  No two requests
are or ever were under way together, and no answer was ever noted as a stale one. -/
theorem at_most_one_request {scene : Scene} (h : scene.Reachable) :
    scene.host.fetching.length + scene.host.inbox.length ≤ 1 ∧
    (∀ ticket ∈ scene.host.fetching ++ scene.host.answered,
      scene.host.shell.session = .loading ticket) ∧
    scene.host.getsUnderWay ≤ 1 ∧ scene.host.mostGets ≤ 1 ∧
    (∀ completion ∈ scene.host.inbox,
      scene.host.shell.session = .loading completion.ticket) ∧
    ∀ entry ∈ scene.host.shell.journal.entries, ∀ number : String,
      entry.message ≠ "discarded stale profile response " ++ number := by
  have hbalanced := h.balanced
  have hlength := hbalanced.length_le
  refine ⟨hlength, fun ticket => hbalanced.session_of_fetching, ?_, hbalanced.mostGets, ?_, ?_⟩
  · have hunderWay := Host.getsUnderWay_le hbalanced.parked
    omega
  · intro completion hmem
    have hanswered : completion.ticket ∈ scene.host.answered := List.mem_map_of_mem hmem
    exact hbalanced.session_of_fetching (List.mem_append_right _ hanswered)
  · intro entry hentry number heq
    exact hbalanced.unstale entry hentry ⟨number, heq⟩

/-- The user signs out and in again while a request waits at the gate, and then it is let
through: the answer in the inbox belongs to the session before, and nothing else has been
asked for. -/
theorem at_most_one_request_relogin :
    ∃ scene : Scene, scene.Reachable ∧ scene.host.answered = [⟨1⟩] ∧
      scene.host.shell.abandoned = some ⟨1⟩ ∧ scene.host.shell.signedIn = true ∧
      scene.host.fetching.length + scene.host.inbox.length ≤ 1 ∧
      (∀ ticket ∈ scene.host.fetching ++ scene.host.answered,
        scene.host.shell.session = .loading ticket) ∧
      scene.host.getsUnderWay ≤ 1 ∧ scene.host.mostGets ≤ 1 ∧
      (∀ completion ∈ scene.host.inbox,
        scene.host.shell.session = .loading completion.ticket) ∧
      ∀ entry ∈ scene.host.shell.journal.entries, ∀ number : String,
        entry.message ≠ "discarded stale profile response " ++ number := by
  let backend : Http.Backend := ⟨fun _ _ => .failed "timeout", fun _ _ _ => .died⟩
  let start : Host := { Host.fresh {} { signedIn := true } with permits := some 0 }
  let waiting := start.mount.1.runBackground backend
  let signedOut := Host.syncSignedIn
    { waiting with provider := { waiting.provider with signedIn := false } }
  let signedIn := Host.syncSignedIn
    { signedOut.1 with provider := { signedOut.1.provider with signedIn := true } }
  have hreachable : Reachable ⟨(signedIn.1.release 1).runBackground backend, .idle⟩ := by
    have hmount : Moves ⟨start, .idle⟩ ⟨start.mount.1, .idle⟩ := .single (.call (.mount start))
    refine ⟨start, .fresh {} { signedIn := true } false (some 0), ?_⟩
    exact hmount
      |>.tail (.progress .idle (.runBackground _ backend))
      |>.tail (.progress .idle (.decide waiting false))
      |>.tail (.call (.syncSignedIn _))
      |>.tail (.progress .idle (.decide signedOut.1 true))
      |>.tail (.call (.syncSignedIn _))
      |>.tail (.progress .idle (.release signedIn.1 1))
      |>.tail (.progress .idle (.runBackground _ backend))
  exact ⟨_, hreachable, by decide +kernel, by decide +kernel, by decide +kernel,
    at_most_one_request hreachable⟩

end Scene

end WorksheetBar
