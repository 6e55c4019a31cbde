import WorksheetBar.Proofs.Settling

/-!
# Which tasks can go on

A task that can go on stands in line.  So when every task in line has gone on once, each
task is over or waits at the gate, and it waits there until more permits come: nothing
the thread of the host does lets it through.

* `foldl_advance` — what becomes of the tasks in line;
* `Reachable.lined` — in every scene the tasks that can go on stand in line.
-/

namespace WorksheetBar

namespace Host

/-- A task that goes on when it is its turn. -/
def Task.Ready (task : Task) : Prop :=
  task.stage = .spawned ∨ task.stage = .letThrough ∧ task.ticket?.isSome = true

/-- The tasks that can go on stand in line. -/
def Lined (host : Host) : Prop :=
  ∀ (index : Nat) (task : Task), host.tasks[index]? = some task → task.Ready → index ∈ host.line

/-- After the tasks at some places had their turn: those are ready no more, the others are
what they were, and whoever waits at the gate waits on. -/
structure Turns (before after : Host) (places : List Nat) : Prop where
  line : after.line = before.line
  ready : ∀ (index : Nat) (task : Task), after.tasks[index]? = some task → task.Ready →
    before.tasks[index]? = some task ∧ index ∉ places
  waiting : ∀ (index : Nat) (task : Task), before.tasks[index]? = some task →
    task.stage = .waiting → after.tasks[index]? = some task

theorem Turns.trans {first second third : Host} {places more : List Nat}
    (h : Turns first second places) (h' : Turns second third more) :
    Turns first third (places ++ more) := by
  refine ⟨h'.line.trans h.line, ?_, ?_⟩
  · intro index task hget hready
    obtain ⟨hget', hlater⟩ := h'.ready index task hget hready
    obtain ⟨hget'', hearlier⟩ := h.ready index task hget' hready
    refine ⟨hget'', ?_⟩
    rw [List.mem_append]
    rintro (hmem | hmem)
    · exact hearlier hmem
    · exact hlater hmem
  · intro index task hget hwaiting
    exact h'.waiting index task (h.waiting index task hget hwaiting) hwaiting

/-- Nothing happens to a task that cannot go on. -/
theorem turns_refl {host : Host} {index : Nat}
    (hunready : ∀ task, host.tasks[index]? = some task → ¬ task.Ready) :
    Turns host host [index] := by
  refine ⟨rfl, ?_, fun _ _ hget _ => hget⟩
  intro place task hget hready
  refine ⟨hget, ?_⟩
  rw [List.mem_singleton]
  rintro rfl
  exact hunready task hget hready

/-- A task is put into a stage from which it does not go on by itself. -/
theorem turns_setStage {before host : Host} {index : Nat} {task : Task} {stage : Stage}
    (htask : before.tasks[index]? = some task) (hgoing : task.stage ≠ .waiting)
    (hstage : stage = .waiting ∨ stage.isOver = true) (htasks : host.tasks = before.tasks)
    (hline : host.line = before.line) : Turns before (host.setStage index stage) [index] := by
  have hget : ∀ place, (host.setStage index stage).tasks[place]? =
      if index = place then some { task with stage := stage } else before.tasks[place]? := by
    intro place
    rw [setStage, List.getElem?_modify, htasks]
    split
    · next heq =>
        rw [← heq, htask]
        rfl
    · exact id_map _
  have hunready : ¬ ({ task with stage := stage } : Task).Ready := by
    rintro (hspawned | ⟨hthrough, _⟩)
    · obtain rfl : stage = .spawned := hspawned
      rcases hstage with hwaiting | hover
      · cases hwaiting
      · cases hover
    · obtain rfl : stage = .letThrough := hthrough
      rcases hstage with hwaiting | hover
      · cases hwaiting
      · cases hover
  refine ⟨hline, ?_, ?_⟩
  · intro place other hother hready
    rw [hget] at hother
    split at hother
    · cases hother
      exact absurd hready hunready
    · next hne => exact ⟨hother, by simpa using fun heq => hne heq.symm⟩
  · intro place other hother hwaiting
    rw [hget]
    split
    · next heq =>
        rw [← heq, htask] at hother
        cases hother
        exact absurd hwaiting hgoing
    · exact hother

/-- A task whose request is answered has had its turn. -/
theorem answerFetch_turns (backend : Http.Backend) {before host : Host} {index : Nat}
    {ticket : Ticket} {path : String} {task : Task} (htask : before.tasks[index]? = some task)
    (hgoing : task.stage ≠ .waiting) (htasks : host.tasks = before.tasks)
    (hline : host.line = before.line) :
    Turns before (answerFetch backend host index ticket path) [index] := by
  unfold answerFetch
  dsimp only
  split
  · exact turns_setStage htask hgoing (Or.inr rfl) htasks hline
  · unfold complete
    split
    · exact turns_setStage htask hgoing (Or.inr rfl) htasks hline
    · exact turns_setStage htask hgoing (Or.inr rfl) htasks hline

/-- **A task that has had its turn is over or waits at the gate.** -/
theorem advance_turns (backend : Http.Backend) (host : Host) (index : Nat) :
    Turns host (advance backend host index) [index] := by
  unfold advance
  split
  · next hnone =>
      refine turns_refl ?_
      intro task hget
      rw [hnone] at hget
      cases hget
  · next task htask =>
      split
      · next ticket path hstage _ =>
          have hgoing : task.stage ≠ .waiting := by simp [hstage]
          unfold beginFetch
          dsimp only
          split
          · exact answerFetch_turns backend htask hgoing rfl rfl
          · exact turns_setStage htask hgoing (Or.inl rfl) rfl rfl
          · exact answerFetch_turns backend htask hgoing rfl rfl
      · next hstage _ => exact answerFetch_turns backend htask (by simp [hstage]) rfl rfl
      · next hstage _ =>
          have hgoing : task.stage ≠ .waiting := by simp [hstage]
          unfold sendCommand
          dsimp only
          split
          · exact turns_setStage htask hgoing (Or.inr rfl) rfl rfl
          · exact turns_setStage htask hgoing (Or.inr rfl) rfl rfl
          · exact turns_setStage htask hgoing (Or.inr rfl) rfl rfl
      · next hfetch hthrough hsend =>
          refine turns_refl ?_
          intro other hget
          rw [htask] at hget
          cases hget
          rintro (hspawned | ⟨hstage, hticket⟩)
          · cases hjob : task.job with
            | fetch ticket path => exact hfetch ticket path hspawned hjob
            | dispatch command path => exact hsend command path hspawned hjob
          · cases hjob : task.job with
            | fetch ticket path => exact hthrough ticket path hstage hjob
            | dispatch command path => simp [Task.ticket?, hjob, Job.ticket?] at hticket

/-- **What becomes of the tasks in line.** -/
theorem foldl_advance (backend : Http.Backend) (places : List Nat) (host : Host) :
    Turns host (places.foldl (advance backend) host) places := by
  induction places generalizing host with
  | nil => exact ⟨rfl, fun _ _ hget _ => ⟨hget, by simp⟩, fun _ _ hget _ => hget⟩
  | cons index rest ih => exact (advance_turns backend host index).trans (ih _)

/-- When everybody in line has had a turn, nobody can go on. -/
theorem Lined.runBackground {host : Host} (h : host.Lined) (backend : Http.Backend) :
    ∀ task ∈ (host.runBackground backend).tasks, ¬ task.Ready := by
  intro task hmem hready
  obtain ⟨index, hget⟩ := List.getElem?_of_mem hmem
  have hturns := foldl_advance backend host.line { host with line := [] }
  obtain ⟨hget', hnot⟩ := hturns.ready index task hget hready
  exact hnot (h index task hget' hready)

/-- New tasks stand in line. -/
theorem Lined.spawns {before after : Host} {jobs : List Job} (h : before.Lined)
    (hspawns : Spawns before after jobs) : after.Lined := by
  intro index task hget hready
  rw [hspawns.line, List.mem_append]
  rw [hspawns.tasks] at hget
  by_cases hold : index < before.tasks.length
  · rw [List.getElem?_append_left hold] at hget
    exact Or.inl (h index task hget hready)
  · have hlt := (List.getElem?_eq_some_iff.mp hget).1
    rw [List.length_append, started, List.length_map] at hlt
    exact Or.inr (List.mem_range'_1.mpr (by omega))

/-- Whether the host holds on to a task does not move it in the line. -/
theorem Lined.regrips {before after : Host} (h : before.Lined) (hregrips : Regrips before after) :
    after.Lined := by
  cases hregrips with
  | intro change hjob hstage =>
      intro index older hget hready
      obtain ⟨task, hget', rfl⟩ := Option.map_eq_some_iff.mp
        ((List.getElem?_map).symm.trans hget)
      rw [Task.Ready, Task.ticket?, hstage, hjob] at hready
      exact h index task hget' hready

/-- A task that is let through the gate joins the line. -/
theorem Lined.admitFrom {host : Host} (h : host.Lined) (index more : Nat) :
    (admitFrom index more host).Lined := by
  induction more generalizing index host with
  | zero => exact h
  | succ more ih =>
      unfold Host.admitFrom
      split
      · next permits task _ htask =>
          apply ih
          split
          · intro place other hget hready
            dsimp only [setStage] at hget ⊢
            rw [List.getElem?_modify] at hget
            rw [List.mem_append, List.mem_singleton]
            split at hget
            · next heq => exact Or.inr heq.symm
            · exact Or.inl (h place other (by simpa using hget) hready)
          · exact h
      · exact h

/-- **The tasks that can go on stand in line**, whatever happens around the host. -/
theorem Lined.progress {before after : Host} (h : before.Lined)
    (hprogress : Progress before after) : after.Lined := by
  cases hprogress with
  | advance backend index =>
      intro place task hget hready
      have hturns := advance_turns backend before index
      rw [hturns.line]
      exact h place task (hturns.ready place task hget hready).1 hready
  | runBackground backend =>
      intro place task hget hready
      exact absurd hready (h.runBackground backend task (List.mem_of_getElem? hget))
  | release count =>
      have hopen : Lined { before with permits := before.permits.map (· + count) } := h
      exact hopen.admitFrom 0 before.tasks.length
  | decide => exact h

end Host

namespace Scene

open Host

/-- The tasks stand in line after every move. -/
theorem Move.lined {scene next : Scene} (hmove : Move scene next) (h : scene.host.Lined) :
    next.host.Lined := by
  cases hmove with
  | call hcall =>
      rcases hcall.spawns with ⟨jobs, hspawns, _⟩ | rfl | rfl
      · exact h.spawns hspawns
      · exact h.regrips (regrips_letGo _)
      · exact h
  | progress _ hprogress => exact h.progress hprogress
  | work hwork =>
      cases hwork with
      | @receive host completion rest _ _ =>
          obtain ⟨jobs, hspawns, _⟩ := receive_eq { host with inbox := rest } completion
          have hemptied : Lined { host with inbox := rest } := h
          exact hemptied.spawns hspawns
      | pumped | gathered | settled => exact h
      | take => exact h.regrips (regrips_takeTasks _)
      | awaited => split <;> exact h
      | gather => exact h.regrips (regrips_letGo _)

/-- **In every scene the tasks that can go on stand in line.** -/
theorem Reachable.lined {scene : Scene} (h : scene.Reachable) : scene.host.Lined := by
  obtain ⟨host, hstarts, hmoves⟩ := h
  induction hmoves with
  | refl =>
      cases hstarts
      simp [Lined, Host.fresh]
  | tail _ hmove ih => exact hmove.lined ih

end Scene

end WorksheetBar
