import WorksheetBar.Proofs.OneRequest

/-!
# What a host holds on to

A host keeps hold of every task until the task is over, so an answer never outlives the
last task that the host looks after: it lies in the inbox only while one is held.

Settling counts its rounds.  The first may take in the answer to an abandoned request,
and then another request begins; in the second nothing is abandoned any more, so nothing
begins and nothing is held at its end.  `Attended` says what holds in each activity, and
that there is no third round.

* `Progress.ages` — what the background does to the tasks, seen from one place;
* `Move.attended` — every move keeps a scene attended.
-/

namespace WorksheetBar

namespace Host

/-- What may have become of a task while its host looked away. -/
structure Task.Ages (task older : Task) : Prop where
  job : older.job = task.job
  isHeld : older.isHeld = task.isHeld
  stage : task.stage.isOver = true → older.stage = task.stage

/-- What may have become of a host while it looked away.  An answer comes from a task that
was not over. -/
structure Ages (before after : Host) : Prop where
  length : after.tasks.length = before.tasks.length
  tasks : ∀ (index : Nat) (older : Task), after.tasks[index]? = some older →
    ∃ task : Task, before.tasks[index]? = some task ∧ task.Ages older
  inbox : after.inbox = before.inbox ∨ ∃ task ∈ before.tasks, task.stage.isOver = false
  shell : after.shell = before.shell

theorem Task.ages_refl (task : Task) : task.Ages task := ⟨rfl, rfl, fun _ => rfl⟩

theorem Task.Goes.isOver {task : Task} {stage : Stage} {answers : List Completion}
    (h : task.Goes stage answers) : task.stage.isOver = false := by
  cases h with
  | waits hstage _ | passes hstage | sends hstage _ =>
      rw [hstage]
      rfl
  | answers _ hstage _ | dies hstage =>
      rcases hstage with hstage | hstage <;>
        · rw [hstage]
          rfl

/-- When one task goes on, the others stay what they were, and an answer comes from that task. -/
theorem Shift.ages {before after : Host} {first later : List Task} {task : Task}
    {stage : Stage} {answers : List Completion}
    (h : Shift before after first task later stage answers) : Ages before after := by
  have hover := h.goes.isOver
  refine ⟨by simp [h.tasks, h.moved], ?_, Or.inr ⟨task, by simp [h.tasks], hover⟩, h.shell⟩
  intro index older hget
  rw [h.moved] at hget
  rw [h.tasks]
  by_cases hfirst : index < first.length
  · rw [List.getElem?_append_left hfirst] at hget ⊢
    exact ⟨older, hget, older.ages_refl⟩
  · rw [List.getElem?_append_right (Nat.le_of_not_lt hfirst)] at hget ⊢
    cases hplace : index - first.length with
    | zero =>
        rw [hplace] at hget
        cases hget
        refine ⟨task, rfl, rfl, rfl, ?_⟩
        intro htrue
        rw [hover] at htrue
        cases htrue
    | succ place =>
        rw [hplace] at hget
        exact ⟨older, hget, older.ages_refl⟩

/-- A single step of the background ages a host at most. -/
theorem Drift.ages {before after : Host} (h : Drift before after) : Ages before after := by
  cases h with
  | still hstill =>
      refine ⟨congrArg List.length hstill.tasks, ?_, Or.inl hstill.inbox, hstill.shell⟩
      intro index older hget
      rw [hstill.tasks] at hget
      exact ⟨older, hget, older.ages_refl⟩
  | shift hshift => exact hshift.ages

theorem ages_refl (host : Host) : Ages host host :=
  ⟨rfl, fun _ older hget => ⟨older, hget, older.ages_refl⟩, Or.inl rfl, rfl⟩

theorem Ages.trans {first second third : Host} (h : Ages first second) (h' : Ages second third) :
    Ages first third := by
  refine ⟨h'.length.trans h.length, ?_, ?_, h'.shell.trans h.shell⟩
  · intro index oldest hget
    obtain ⟨older, hget', holder⟩ := h'.tasks index oldest hget
    obtain ⟨task, hget'', htask⟩ := h.tasks index older hget'
    refine ⟨task, hget'', holder.job.trans htask.job, holder.isHeld.trans htask.isHeld, ?_⟩
    intro hover
    have hstage := htask.stage hover
    exact (holder.stage (hstage ▸ hover)).trans hstage
  · rcases h'.inbox with hsame | ⟨older, hmem, hover⟩
    · rw [hsame]
      exact h.inbox
    · obtain ⟨index, hget⟩ := List.getElem?_of_mem hmem
      obtain ⟨task, hget', htask⟩ := h.tasks index older hget
      refine Or.inr ⟨task, List.mem_of_getElem? hget', ?_⟩
      cases hcase : task.stage.isOver with
      | true =>
          rw [htask.stage hcase, hcase] at hover
          cases hover
      | false => rfl

/-- **What the background does to the tasks**, seen from one place. -/
theorem Progress.ages {before after : Host} (h : Progress before after)
    (hisAlive : before.isAlive = true) : Ages before after := by
  have hdrifts := h.drifts hisAlive
  clear h hisAlive
  induction hdrifts with
  | refl => exact ages_refl before
  | tail _ hdrift ih => exact ih.trans hdrift.ages

/-- A task is held if it is there and marked as held. -/
theorem mem_held {host : Host} {index : Nat} :
    index ∈ host.held ↔ ∃ task, host.tasks[index]? = some task ∧ task.isHeld = true := by
  unfold held
  rw [List.mem_filter, List.mem_range]
  constructor
  · rintro ⟨hlt, hheld⟩
    rw [List.getElem?_eq_getElem hlt] at hheld
    exact ⟨_, List.getElem?_eq_getElem hlt, hheld⟩
  · rintro ⟨task, hget, hheld⟩
    refine ⟨(List.getElem?_eq_some_iff.mp hget).1, ?_⟩
    rw [hget]
    exact hheld

theorem held_ne_nil {host : Host} : host.held ≠ [] ↔ ∃ task ∈ host.tasks, task.isHeld = true := by
  constructor
  · intro hne
    obtain ⟨index, hmem⟩ := List.exists_mem_of_ne_nil _ hne
    obtain ⟨task, hget, hheld⟩ := mem_held.mp hmem
    exact ⟨task, List.mem_of_getElem? hget, hheld⟩
  · rintro ⟨task, hmem, hheld⟩
    obtain ⟨index, hget⟩ := List.getElem?_of_mem hmem
    exact List.ne_nil_of_mem (mem_held.mpr ⟨task, hget, hheld⟩)

theorem held_eq_nil {host : Host} :
    host.held = [] ↔ ∀ task ∈ host.tasks, task.isHeld = false := by
  rw [← not_iff_not]
  simpa using held_ne_nil

/-- What the background does lets go of nothing and takes hold of nothing. -/
theorem Ages.mem_held {before after : Host} (h : Ages before after) (index : Nat) :
    index ∈ after.held ↔ index ∈ before.held := by
  rw [Host.mem_held, Host.mem_held]
  constructor
  · rintro ⟨older, hget, hheld⟩
    obtain ⟨task, hget', hages⟩ := h.tasks index older hget
    exact ⟨task, hget', hages.isHeld ▸ hheld⟩
  · rintro ⟨task, hget, hheld⟩
    have hlt : index < after.tasks.length := by
      rw [h.length]
      exact (List.getElem?_eq_some_iff.mp hget).1
    have hget' := List.getElem?_eq_getElem hlt
    obtain ⟨task', hsame, hages⟩ := h.tasks index _ hget'
    rw [hget] at hsame
    cases hsame
    exact ⟨_, hget', hages.isHeld.trans hheld⟩

theorem Ages.held_eq_nil {before after : Host} (h : Ages before after) :
    after.held = [] ↔ before.held = [] := by
  rw [List.eq_nil_iff_forall_not_mem, List.eq_nil_iff_forall_not_mem]
  exact forall_congr' fun index => not_congr (h.mem_held index)

/-- Every task is held or over. -/
def Tended (host : Host) : Prop :=
  ∀ task ∈ host.tasks, task.isHeld = true ∨ task.stage.isOver = true

/-- A host stays tended while it looks away. -/
theorem Tended.ages {before after : Host} (h : before.Tended) (hages : Ages before after) :
    after.Tended := by
  intro older hmem
  obtain ⟨index, hget⟩ := List.getElem?_of_mem hmem
  obtain ⟨task, hget', haged⟩ := hages.tasks index older hget
  rcases h task (List.mem_of_getElem? hget') with hheld | hover
  · exact Or.inl (haged.isHeld.trans hheld)
  · rw [haged.stage hover]
    exact Or.inr hover

/-- New tasks are held. -/
theorem Tended.started {before after : Host} {jobs : List Job} (h : before.Tended)
    (htasks : after.tasks = before.tasks ++ started jobs) : after.Tended := by
  intro task hmem
  rw [htasks] at hmem
  rcases List.mem_append.mp hmem with hold | hnew
  · exact h task hold
  · obtain ⟨job, _, rfl⟩ := List.mem_map.mp hnew
    exact Or.inl rfl

/-- Letting go of what is over leaves the host tended. -/
theorem Tended.letGo {host : Host} (h : host.Tended) : host.letGo.Tended := by
  intro task hmem
  obtain ⟨task, hold, rfl⟩ := List.mem_map.mp hmem
  cases hover : task.stage.isOver with
  | true =>
      right
      simpa using hover
  | false => simpa [hover] using h task hold

/-- When nothing is held, everything is over. -/
theorem Tended.isOver {host : Host} (h : host.Tended) (hheld : host.held = []) :
    ∀ task ∈ host.tasks, task.stage.isOver = true := by
  intro task hmem
  rcases h task hmem with htrue | hover
  · rw [held_eq_nil.mp hheld task hmem] at htrue
    cases htrue
  · exact hover

/-- A host that holds on to nothing has nothing to let go of. -/
theorem letGo_held {host : Host} (h : host.held = []) : host.letGo.held = [] := by
  rw [held_eq_nil] at h ⊢
  intro task hmem
  obtain ⟨task, hold, rfl⟩ := List.mem_map.mp hmem
  split
  · rfl
  · exact h task hold

/-- Taking the tasks out leaves nothing held. -/
theorem takeTasks_held (host : Host) : host.takeTasks.held = [] := by
  rw [held_eq_nil]
  intro task hmem
  obtain ⟨task, _, rfl⟩ := List.mem_map.mp hmem
  rfl

theorem Spawns.held_ne_nil {before after : Host} {jobs : List Job}
    (h : Spawns before after jobs) (hheld : before.held ≠ []) : after.held ≠ [] := by
  rw [Host.held_ne_nil] at hheld ⊢
  obtain ⟨task, hmem, hheld⟩ := hheld
  exact ⟨task, h.tasks ▸ List.mem_append_left _ hmem, hheld⟩

/-- The tasks at some places are all that are left to wait for. -/
def AreLeft (host : Host) (left : List Nat) : Prop :=
  ∀ (index : Nat) (task : Task), host.tasks[index]? = some task → task.stage.isOver = false →
    index ∈ left

/-- What is left to wait for does not become more while the host looks away. -/
theorem AreLeft.ages {before after : Host} {left : List Nat} (h : before.AreLeft left)
    (hages : Ages before after) : after.AreLeft left := by
  intro index older hget hover
  obtain ⟨task, hget', haged⟩ := hages.tasks index older hget
  apply h index task hget'
  cases htask : task.stage.isOver with
  | true =>
      rw [haged.stage htask, htask] at hover
      cases hover
  | false => rfl

/-- The tasks that a host holds are left to wait for when it lets go of them. -/
theorem Tended.areLeft_held {host : Host} (h : host.Tended) :
    host.takeTasks.AreLeft host.held := by
  intro index taken hget hover
  obtain ⟨task, hget', rfl⟩ := Option.map_eq_some_iff.mp ((List.getElem?_map).symm.trans hget)
  rcases h task (List.mem_of_getElem? hget') with hheld | htrue
  · exact mem_held.mpr ⟨task, hget', hheld⟩
  · exact absurd (hover.symm.trans htrue) (by simp)

/-- A task that is over is left no more. -/
theorem AreLeft.of_cons {host : Host} {index : Nat} {left : List Nat} {task : Task}
    (h : host.AreLeft (index :: left)) (htask : host.tasks[index]? = some task)
    (hover : task.stage.isOver = true) : host.AreLeft left := by
  intro place other hget hother
  rcases List.mem_cons.mp (h place other hget hother) with rfl | hmem
  · rw [htask] at hget
    cases hget
    rw [hover] at hother
    cases hother
  · exact hmem

/-- If nothing is left to wait for, everything is over. -/
theorem AreLeft.tended {host : Host} (h : host.AreLeft []) : host.Tended := by
  intro task hmem
  obtain ⟨index, hget⟩ := List.getElem?_of_mem hmem
  cases hover : task.stage.isOver with
  | true => exact Or.inr rfl
  | false => cases h index task hget hover

/-- An answer in the inbox of a tended host comes with a task that is held, whatever the
background does. -/
theorem Tended.inbox_ages {before after : Host} (h : before.Tended) (hages : Ages before after)
    (hinbox : before.inbox ≠ [] → before.held ≠ []) (hafter : after.inbox ≠ []) :
    after.held ≠ [] := by
  rw [ne_eq, hages.held_eq_nil]
  rcases hages.inbox with hsame | ⟨task, hmem, hover⟩
  · exact hinbox (hsame ▸ hafter)
  · apply Host.held_ne_nil.mpr
    rcases h task hmem with hheld | htrue
    · exact ⟨task, hmem, hheld⟩
    · rw [hover] at htrue
      cases htrue

end Host

open Host

/-- What holds in a scene, by what the thread of the host is at. -/
inductive Scene.Attended : Scene → Prop
  | idle {host : Host} (htended : host.Tended) (hinbox : host.inbox ≠ [] → host.held ≠ []) :
      Attended ⟨host, .idle⟩
  | pumping {host : Host} (htended : host.Tended) : Attended ⟨host, .pumping none⟩
  /-- Between two rounds.  What is held after the first was not abandoned, and nothing is
  held after the second. -/
  | settling {host : Host} {rounds : Nat} (htended : host.Tended)
      (hinbox : host.inbox ≠ [] → host.held ≠ []) (hrounds : rounds ≤ 2)
      (hfirst : 1 ≤ rounds → host.held ≠ [] → host.shell.abandoned = none)
      (hsecond : rounds = 2 → host.held = []) : Attended ⟨host, .settling rounds⟩
  /-- While tasks are waited for, none is held. -/
  | awaiting {host : Host} {round : Nat} {left : List Nat} (hheld : host.held = [])
      (hleft : host.AreLeft left) (hlength : ∀ index ∈ left, index < host.tasks.length)
      (hround : 1 ≤ round ∧ round ≤ 2)
      (hsecond : round = 2 → host.shell.abandoned = none) : Attended ⟨host, .awaiting round left⟩
  | gathering {host : Host} {round : Nat} (htended : host.Tended)
      (hround : 1 ≤ round ∧ round ≤ 2)
      (hfirst : host.held ≠ [] → host.shell.abandoned = none)
      (hsecond : round = 2 → host.held = [] ∧ host.shell.abandoned = none) :
      Attended ⟨host, .pumping (some round)⟩

namespace Scene

/-- There are at most two rounds. -/
theorem Attended.rounds_le {scene : Scene} (h : Attended scene) :
    scene.activity.rounds ≤ 2 := by
  cases h with
  | idle | pumping => exact Nat.zero_le 2
  | settling _ _ hrounds => exact hrounds
  | awaiting _ _ _ hround | gathering _ hround => exact hround.2

/-- A scene stays attended while something happens around it. -/
theorem Attended.ages {before after : Host} {activity : Activity}
    (h : Attended ⟨before, activity⟩) (hages : Ages before after) :
    Attended ⟨after, activity⟩ := by
  have habandoned : after.shell.abandoned = before.shell.abandoned := by rw [hages.shell]
  cases h with
  | idle htended hinbox => exact .idle (htended.ages hages) (htended.inbox_ages hages hinbox)
  | pumping htended => exact .pumping (htended.ages hages)
  | settling htended hinbox hrounds hfirst hsecond =>
      refine .settling (htended.ages hages) (htended.inbox_ages hages hinbox) hrounds ?_ ?_
      · intro hlater hheld
        rw [habandoned]
        exact hfirst hlater (fun hnil => hheld (hages.held_eq_nil.mpr hnil))
      · intro hlast
        exact hages.held_eq_nil.mpr (hsecond hlast)
  | awaiting hheld hleft hlength hround hsecond =>
      refine .awaiting (hages.held_eq_nil.mpr hheld) (hleft.ages hages) ?_ hround ?_
      · rw [hages.length]
        exact hlength
      · rw [habandoned]
        exact hsecond
  | gathering htended hround hfirst hsecond =>
      refine .gathering (htended.ages hages) hround ?_ ?_
      · intro hheld
        rw [habandoned]
        exact hfirst (fun hnil => hheld (hages.held_eq_nil.mpr hnil))
      · rw [habandoned, hages.held_eq_nil]
        exact hsecond

end Scene

/-- **What comes of taking in an answer**, apart from what it does to the shell: nothing is
abandoned any more, and no task is started unless the answer was to an abandoned request. -/
theorem Host.Balanced.receive_spawns {host : Host} (h : host.Balanced)
    {completion : Completion} {rest : List Completion} (hinbox : host.inbox = completion :: rest) :
    ∃ jobs, Spawns { host with inbox := rest }
        (({ host with inbox := rest } : Host).receive completion) jobs ∧
      (({ host with inbox := rest } : Host).receive completion).shell.abandoned = none ∧
      (host.shell.abandoned = none → jobs = []) := by
  obtain ⟨hsession, _, _⟩ := h.owed_of_inbox hinbox
  obtain ⟨jobs, hspawns, hshell, htickets, hlength⟩ :=
    receive_eq { host with inbox := rest } completion
  have hturn := Shell.run_turn host.shell []
    (.runtime (.fetched completion.ticket completion.result))
  obtain ⟨_, habandoned, hcause⟩ := hturn.ticket_of_answered h.sound hsession
  refine ⟨jobs, hspawns, ?_, ?_⟩
  · rw [hshell]
    exact habandoned
  · intro hnone
    rcases hcause with hnil | hsome
    · rw [htickets, Shell.issued_singleton] at hlength
      exact List.eq_nil_of_length_eq_zero (hlength.trans (congrArg List.length hnil))
    · have hwas : host.shell.abandoned = some completion.ticket := hsome
      rw [hnone] at hwas
      cases hwas

namespace Scene

/-- **What the thread does keeps a scene attended.** -/
theorem Work.attended {scene next : Scene} (hwork : Work scene next)
    (hbalanced : scene.host.Balanced) (h : Attended scene) : Attended next := by
  cases hwork with
  | receive round hinbox =>
      obtain ⟨jobs, hspawns, habandoned, hnone⟩ := hbalanced.receive_spawns hinbox
      cases h with
      | pumping htended => exact .pumping (htended.started hspawns.tasks)
      | gathering htended hround hfirst hsecond =>
          refine .gathering (htended.started hspawns.tasks) hround (fun _ => habandoned) ?_
          intro hlast
          obtain ⟨hheld, hunabandoned⟩ := hsecond hlast
          obtain rfl := hnone hunabandoned
          refine ⟨?_, habandoned⟩
          rw [held_eq_nil, hspawns.tasks]
          simpa [started] using held_eq_nil.mp hheld
  | pumped hinbox =>
      cases h with
      | pumping htended => exact .idle htended (fun hne => absurd hinbox hne)
  | gathered round hinbox =>
      cases h with
      | gathering htended hround hfirst hsecond =>
          exact .settling htended (fun hne => absurd hinbox hne) hround.2 (fun _ => hfirst)
            (fun hlast => (hsecond hlast).1)
  | @take host rounds hheld =>
      cases h with
      | settling htended hinbox hrounds hfirst hsecond =>
          have hbound : rounds ≠ 2 := fun hlast => hheld (hsecond hlast)
          refine .awaiting (takeTasks_held host) htended.areLeft_held ?_ (by omega) ?_
          · intro index hmem
            obtain ⟨task, hget, _⟩ := mem_held.mp hmem
            have hlt := (List.getElem?_eq_some_iff.mp hget).1
            simpa [takeTasks] using hlt
          · intro hlast
            exact hfirst (by omega) hheld
  | awaited round left htask hover =>
      cases h with
      | awaiting hheld hleft hlength hround hsecond =>
          have hrest := hleft.of_cons htask hover
          have hrestLength := fun place hmem => hlength place (List.mem_cons_of_mem _ hmem)
          split
          · exact .awaiting hheld hrest hrestLength hround hsecond
          · exact .awaiting hheld hrest hrestLength hround hsecond
  | gather host round =>
      cases h with
      | awaiting hheld hleft _ hround hsecond =>
          refine .gathering hleft.tended.letGo hround ?_ ?_
          · intro hne
            exact absurd (letGo_held hheld) hne
          · intro hlast
            exact ⟨letGo_held hheld, hsecond hlast⟩
  | settled rounds hheld =>
      cases h with
      | settling htended hinbox => exact .idle htended hinbox

/-- **Every move keeps a scene attended.** -/
theorem Move.attended {scene next : Scene} (hmove : Move scene next)
    (hbalanced : scene.host.Balanced) (h : Attended scene) : Attended next := by
  cases hmove with
  | call hcall =>
      cases h with
      | idle htended hinbox =>
          rcases hcall.spawns with ⟨jobs, hspawns, hidle⟩ | rfl | rfl
          · obtain ⟨host, activity⟩ := next
            obtain rfl := hidle
            refine .idle (htended.started hspawns.tasks) ?_
            intro hafter
            rw [hspawns.inbox] at hafter
            exact hspawns.held_ne_nil (hinbox hafter)
          · exact .pumping htended.letGo
          · exact .settling htended hinbox (Nat.zero_le 2) (by simp) (by simp)
  | work hwork => exact hwork.attended hbalanced h
  | progress _ hprogress => exact h.ages (hprogress.ages hbalanced.isAlive)

/-- A scene stays attended along every run. -/
theorem Moves.attended {scene next : Scene} (hmoves : Moves scene next)
    (hbalanced : scene.host.Balanced) (h : Attended scene) : Attended next := by
  induction hmoves with
  | refl => exact h
  | tail hmoves hmove ih => exact hmove.attended (Moves.balanced hmoves hbalanced) ih

/-- Every scene that can be reached is attended. -/
theorem Reachable.attended {scene : Scene} (h : scene.Reachable) : Attended scene := by
  obtain ⟨host, hstarts, hmoves⟩ := h
  refine hmoves.attended hstarts.balanced ?_
  cases hstarts
  exact .idle (by simp [Tended, Host.fresh]) (by simp [Host.fresh])

end Scene

end WorksheetBar
