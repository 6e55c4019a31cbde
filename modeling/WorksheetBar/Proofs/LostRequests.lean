import WorksheetBar.Proofs.OneRequest

/-!
# Requests that are lost

A request is lost when its task dies: nobody will ever answer it, and nobody tells the
session.  So the session waits for it in every scene that can still come, signing out and
in and leaving the bar and coming back included, and no other request is ever begun.

* `Host.Balanced.session_of_hasLost` — the session waits for what is lost;
* `Host.Balanced.session_iff_hasLost` — and in the end for nothing else;
* `Moves.hasLost` — what is lost stays lost, and nothing more is requested.
-/

namespace WorksheetBar

namespace Host

/-- The request of a ticket died without an answer. -/
def HasLost (host : Host) (ticket : Ticket) : Prop :=
  ∃ task ∈ host.tasks, task.ticket? = some ticket ∧ task.stage = .died

/-- The tickets of all requests that a host ever began, in order. -/
def requested (host : Host) : List Ticket := host.tasks.filterMap Task.ticket?

/-- What is lost is owed for ever. -/
theorem HasLost.mem_owed {host : Host} {ticket : Ticket} (h : host.HasLost ticket) :
    ticket ∈ host.tasks.filterMap Task.owed? := by
  obtain ⟨task, hmem, hticket, hstage⟩ := h
  refine List.mem_filterMap.mpr ⟨task, hmem, ?_⟩
  rw [Task.owed?, if_neg (by simp [hstage]), hticket]

/-- **The session waits for what is lost.** -/
theorem Balanced.session_of_hasLost {host : Host} (h : host.Balanced) {ticket : Ticket}
    (hlost : host.HasLost ticket) : host.shell.session = .loading ticket :=
  h.session_of_owed (List.mem_append_left _ hlost.mem_owed)

/-- A task that is over owes something only if it died. -/
theorem Task.stage_of_owed? {task : Task} {ticket : Ticket} (hover : task.stage.isOver = true)
    (howed : task.owed? = some ticket) : task.ticket? = some ticket ∧ task.stage = .died := by
  unfold owed? at howed
  cases hstage : task.stage with
  | ended => simp [hstage] at howed
  | died => exact ⟨by simpa [hstage] using howed, rfl⟩
  | spawned | waiting | letThrough => simp [hstage, Stage.isOver] at hover

/-- When every task is over and every answer taken in, the session waits for nothing but
what is lost. -/
theorem Balanced.session_iff_hasLost {host : Host} (h : host.Balanced)
    (hover : ∀ task ∈ host.tasks, task.stage.isOver = true) (hinbox : host.inbox = [])
    (ticket : Ticket) : host.shell.session = .loading ticket ↔ host.HasLost ticket := by
  refine ⟨?_, h.session_of_hasLost⟩
  intro hloading
  have hticket : ticket ∈ host.owed := by
    rw [h.owed.mem_iff, hloading]
    simp [Session.ticket?]
  have hmem : ticket ∈ host.tasks.filterMap Task.owed? := by
    simpa [Host.owed, answered, hinbox] using hticket
  obtain ⟨task, htask, howed⟩ := List.mem_filterMap.mp hmem
  exact ⟨task, htask, Task.stage_of_owed? (hover task htask) howed⟩

/-- The background asks for nothing that was not asked for. -/
theorem Drift.requested {before after : Host} (h : Drift before after) :
    after.requested = before.requested := by
  cases h with
  | still hstill => rw [Host.requested, Host.requested, hstill.tasks]
  | @shift first task later stage _ hshift =>
      have hticket : ({ task with stage := stage } : Task).ticket? = task.ticket? := rfl
      rw [Host.requested, Host.requested, hshift.tasks, hshift.moved, List.filterMap_append,
        List.filterMap_append, List.filterMap_cons, List.filterMap_cons, hticket]

theorem Drift.hasLost {before after : Host} (h : Drift before after) {ticket : Ticket}
    (hlost : before.HasLost ticket) : after.HasLost ticket := by
  obtain ⟨lost, hmem, hticket, hstage⟩ := hlost
  refine ⟨lost, ?_, hticket, hstage⟩
  cases h with
  | still hstill =>
      rw [hstill.tasks]
      exact hmem
  | shift hshift =>
      rw [hshift.tasks] at hmem
      rw [hshift.moved]
      rcases List.mem_append.mp hmem with hfirst | hlater
      · exact List.mem_append_left _ hfirst
      · rcases List.mem_cons.mp hlater with rfl | hlater
        · -- a task that died goes nowhere
          cases hshift.goes <;> simp_all
        · exact List.mem_append_right _ (List.mem_cons_of_mem _ hlater)

/-- What is held has no part in what is lost or requested. -/
theorem HasLost.regrips {before after : Host} {ticket : Ticket} (h : before.HasLost ticket)
    (hregrips : Regrips before after) :
    after.HasLost ticket ∧ after.requested = before.requested := by
  constructor
  · obtain ⟨lost, hmem, hticket, hdied⟩ := h
    obtain ⟨older, hmem', hjob, hstage⟩ := hregrips.exists_mem hmem
    refine ⟨older, hmem', ?_, hstage.trans hdied⟩
    rw [Task.ticket?, hjob]
    exact hticket
  · apply hregrips.filterMap
    intro task other hjob _
    rw [Task.ticket?, Task.ticket?, hjob]

/-- **While a request is lost, no other is begun**: the books have no room for it. -/
theorem HasLost.spawns {before after : Host} {jobs : List Job} {ticket : Ticket}
    (h : before.HasLost ticket) (hspawns : Spawns before after jobs) (hafter : after.Balanced) :
    after.HasLost ticket ∧ after.requested = before.requested := by
  have hlost : after.HasLost ticket := by
    obtain ⟨lost, hmem, hticket, hstage⟩ := h
    exact ⟨lost, hspawns.tasks ▸ List.mem_append_left _ hmem, hticket, hstage⟩
  have hold : 1 ≤ (before.tasks.filterMap Task.owed?).length :=
    List.length_pos_of_mem h.mem_owed
  have howed := hspawns.owed_perm.symm.trans hafter.owed
  rw [hafter.session_of_hasLost hlost] at howed
  have hlength : (before.tasks.filterMap Task.owed?).length +
      (before.answered.length + (jobs.filterMap Job.ticket?).length) = 1 := by
    simpa [owed, Session.ticket?] using howed.length_eq
  have hnone : jobs.filterMap Job.ticket? = [] := List.eq_nil_of_length_eq_zero (by omega)
  have hstarted : (started jobs).filterMap Task.ticket? = jobs.filterMap Job.ticket? := by
    rw [started, List.filterMap_map]
    rfl
  refine ⟨hlost, ?_⟩
  rw [requested, requested, hspawns.tasks, List.filterMap_append, hstarted, hnone,
    List.append_nil]

end Host

namespace Scene

open Host

theorem Work.hasLost {scene next : Scene} (hwork : Work scene next)
    (hbalanced : scene.host.Balanced) {ticket : Ticket} (h : scene.host.HasLost ticket) :
    next.host.HasLost ticket ∧ next.host.requested = scene.host.requested := by
  cases hwork with
  | receive _ hinbox =>
      -- an answer in the inbox is all that is owed
      obtain ⟨_, _, hnone⟩ := hbalanced.owed_of_inbox hinbox
      have hmem := h.mem_owed
      rw [hnone] at hmem
      cases hmem
  | pumped | gathered | settled => exact ⟨h, rfl⟩
  | take => exact h.regrips (regrips_takeTasks _)
  | awaited =>
      split
      · exact ⟨h, rfl⟩
      · exact ⟨h, rfl⟩
  | gather => exact h.regrips (regrips_letGo _)

theorem Move.hasLost {scene next : Scene} (hmove : Move scene next)
    (hbalanced : scene.host.Balanced) {ticket : Ticket} (h : scene.host.HasLost ticket) :
    next.host.HasLost ticket ∧ next.host.requested = scene.host.requested := by
  have hafter := hmove.balanced hbalanced
  cases hmove with
  | call hcall =>
      rcases hcall.spawns with ⟨jobs, hspawns, _⟩ | rfl | rfl
      · exact h.spawns hspawns hafter
      · exact h.regrips (regrips_letGo _)
      · exact ⟨h, rfl⟩
  | work hwork => exact hwork.hasLost hbalanced h
  | progress _ hprogress =>
      have hdrifts := hprogress.drifts hbalanced.isAlive
      clear hprogress hafter
      induction hdrifts with
      | refl => exact ⟨h, rfl⟩
      | tail _ hdrift ih =>
          obtain ⟨hlost, hrequested⟩ := ih
          exact ⟨hdrift.hasLost hlost, hdrift.requested.trans hrequested⟩

/-- **What is lost stays lost, and nothing more is requested.** -/
theorem Moves.hasLost {scene later : Scene} (hmoves : Moves scene later)
    (hbalanced : scene.host.Balanced) {ticket : Ticket} (h : scene.host.HasLost ticket) :
    later.host.HasLost ticket ∧ later.host.requested = scene.host.requested := by
  induction hmoves with
  | refl => exact ⟨h, rfl⟩
  | tail hmoves hmove ih =>
      obtain ⟨hlost, hrequested⟩ := ih
      obtain ⟨hlost', hrequested'⟩ := hmove.hasLost (Moves.balanced hmoves hbalanced) hlost
      exact ⟨hlost', hrequested'.trans hrequested⟩

end Scene

end WorksheetBar
