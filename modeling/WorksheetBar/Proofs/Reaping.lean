import Mathlib.Data.List.Nodup
import WorksheetBar.Proofs.Attendance
import WorksheetBar.Proofs.Records
import WorksheetBar.Proofs.Stories

/-!
# How a host lets go of its tasks

There are two ways in which a host comes to let go of a task.  Settling takes all of them out
of its hold and waits for each, and if one has died it reports that.  Pumping lets go of those
that are over, and does not look at how they ended.

So a death is reported if settling waits for the task, and it is passed over if a pump comes
across the task first.  To tell the two apart one has to look at the history of a scene: it
comes with the tasks that pumping let go of, which were **swept**, and those that settling has
**waited for**.

* `letGo_loose`, `takeTasks_loose` — what a host lets go of;
* `Reaps.accounts` — every task that a host let go of was swept, was waited for, or is being
  waited for, and what was reported are the deaths of those that were waited for;
* `deaths_reported` — so no death is passed over exactly if none was swept.
-/

namespace WorksheetBar

namespace Host

/-- Whether something is the report that a task has died. -/
def Happening.isFailure : Happening → Bool
  | reported .taskFailed => true
  | reported _ | requested _ | navigated _ | signedOut => false

/-- How many deaths the host has reported. -/
def failures (host : Host) : Nat := host.record.countP Happening.isFailure

/-- The tasks that the host has let go of, by their places. -/
def loose (host : Host) : List Nat :=
  (List.range host.tasks.length).filter fun index =>
    host.tasks[index]?.any fun task => !task.isHeld

/-- The tasks that the host holds although they are over, by their places. -/
def sweepings (host : Host) : List Nat :=
  host.held.filter fun index => host.tasks[index]?.any fun task => task.stage.isOver

/-- Whether the task at a place has died. -/
def isDead (host : Host) (index : Nat) : Bool :=
  host.tasks[index]?.any fun task => task.stage == .died

variable {host before after : Host} {index : Nat} {task : Task}

/-- A task has been let go of if it is there and not held. -/
theorem mem_loose :
    index ∈ host.loose ↔ ∃ task, host.tasks[index]? = some task ∧ task.isHeld = false := by
  unfold loose
  rw [List.mem_filter, List.mem_range]
  constructor
  · rintro ⟨hlt, hloose⟩
    rw [List.getElem?_eq_getElem hlt] at hloose
    exact ⟨_, List.getElem?_eq_getElem hlt, by simpa using hloose⟩
  · rintro ⟨task, hget, hloose⟩
    refine ⟨(List.getElem?_eq_some_iff.mp hget).1, ?_⟩
    rw [hget]
    simpa using hloose

/-- A task is swept if it is held although it is over. -/
theorem mem_sweepings :
    index ∈ host.sweepings ↔
      ∃ task, host.tasks[index]? = some task ∧ task.isHeld = true ∧ task.stage.isOver = true := by
  unfold sweepings
  rw [List.mem_filter, mem_held]
  constructor
  · rintro ⟨⟨task, hget, hheld⟩, hover⟩
    rw [hget] at hover
    exact ⟨task, hget, hheld, hover⟩
  · rintro ⟨task, hget, hheld, hover⟩
    exact ⟨⟨task, hget, hheld⟩, by simpa [hget] using hover⟩

theorem nodup_loose (host : Host) : host.loose.Nodup := List.nodup_range.filter _

theorem nodup_held (host : Host) : host.held.Nodup := List.nodup_range.filter _

/-- Whether a task has died is seen from its stage. -/
theorem isDead_eq (hget : host.tasks[index]? = some task) :
    host.isDead index = (task.stage == .died) := by
  simp [isDead, hget]

/-- What a host holds it has not let go of. -/
theorem held_disjoint_loose (host : Host) : host.held.Disjoint host.loose := by
  intro index hheld hloose
  obtain ⟨task, hget, htrue⟩ := mem_held.mp hheld
  obtain ⟨task', hget', hfalse⟩ := mem_loose.mp hloose
  rw [hget] at hget'
  cases hget'
  rw [htrue] at hfalse
  cases hfalse

/-- **What a host lets go of that takes all its tasks.** -/
theorem takeTasks_loose (host : Host) : host.takeTasks.loose.Perm (host.held ++ host.loose) := by
  have hnodup : (host.held ++ host.loose).Nodup :=
    List.Nodup.append (nodup_held host) (nodup_loose host) (held_disjoint_loose host)
  rw [List.perm_ext_iff_of_nodup (nodup_loose _) hnodup]
  intro index
  rw [List.mem_append, mem_loose, mem_loose, mem_held]
  simp only [takeTasks, List.getElem?_map, Option.map_eq_some_iff]
  constructor
  · rintro ⟨_, ⟨task, hget, rfl⟩, _⟩
    cases hheld : task.isHeld with
    | true => exact Or.inl ⟨task, hget, hheld⟩
    | false => exact Or.inr ⟨task, hget, hheld⟩
  · rintro (⟨task, hget, _⟩ | ⟨task, hget, _⟩) <;> exact ⟨_, ⟨task, hget, rfl⟩, rfl⟩

/-- **What a host lets go of that sweeps.** -/
theorem letGo_loose (host : Host) : host.letGo.loose.Perm (host.sweepings ++ host.loose) := by
  have hheld : host.sweepings ⊆ host.held := List.filter_subset_self _
  have hnodup : (host.sweepings ++ host.loose).Nodup :=
    List.Nodup.append ((nodup_held host).filter _) (nodup_loose host)
      fun _ hswept hloose => held_disjoint_loose host (hheld hswept) hloose
  rw [List.perm_ext_iff_of_nodup (nodup_loose _) hnodup]
  intro index
  rw [List.mem_append, mem_loose, mem_loose, mem_sweepings]
  simp only [letGo, List.getElem?_map, Option.map_eq_some_iff]
  constructor
  · rintro ⟨_, ⟨task, hget, rfl⟩, hloose⟩
    cases hheld : task.isHeld with
    | true =>
        cases hover : task.stage.isOver with
        | true => exact Or.inl ⟨task, hget, hheld, hover⟩
        | false => simp [hover, hheld] at hloose
    | false => exact Or.inr ⟨task, hget, hheld⟩
  · rintro (⟨task, hget, _, hover⟩ | ⟨task, hget, hloose⟩)
    · exact ⟨_, ⟨task, hget, rfl⟩, by simp [hover]⟩
    · refine ⟨_, ⟨task, hget, rfl⟩, ?_⟩
      split
      · rfl
      · exact hloose

/-- The task at a place is over. -/
def IsOver (host : Host) (index : Nat) : Prop :=
  ∃ task, host.tasks[index]? = some task ∧ task.stage.isOver = true

/-- What was over is as it was, and no death was reported. -/
structure Lasts (before after : Host) : Prop where
  stage : ∀ (index : Nat) (task : Task), before.tasks[index]? = some task →
    task.stage.isOver = true → ∃ older, after.tasks[index]? = some older ∧ older.stage = task.stage
  failures : after.failures = before.failures

/-- A death that is reported is counted. -/
theorem report_failures (host : Host) : (host.report .taskFailed).failures = host.failures + 1 := by
  simp [failures, report, note, Happening.isFailure]

/-- Deaths are reported only in waiting. -/
theorem Records.failures_eq {origins : List Happening.Origin} (h : Records origins before after)
    (hnone : .waiting ∉ origins) : after.failures = before.failures := by
  apply h.countP_eq
  intro happening hfailure
  cases happening with
  | reported event =>
      cases event with
      | taskFailed => exact hnone
      | _ => cases hfailure
  | requested _ | navigated _ | signedOut => cases hfailure

theorem Lasts.isOver (h : Lasts before after) (hover : before.IsOver index) :
    after.IsOver index := by
  obtain ⟨task, hget, hstage⟩ := hover
  obtain ⟨older, hget', hsame⟩ := h.stage index task hget hstage
  exact ⟨older, hget', hsame ▸ hstage⟩

theorem Lasts.isDead (h : Lasts before after) (hover : before.IsOver index) :
    after.isDead index = before.isDead index := by
  obtain ⟨task, hget, hstage⟩ := hover
  obtain ⟨older, hget', hsame⟩ := h.stage index task hget hstage
  rw [isDead_eq hget, isDead_eq hget', hsame]

theorem lasts_refl (host : Host) : Lasts host host :=
  ⟨fun _ task hget _ => ⟨task, hget, rfl⟩, rfl⟩

/-- What is held or let go of makes no difference to the stages. -/
theorem Regrips.lasts (h : Regrips before after) : Lasts before after := by
  cases h with
  | intro change _ hstage =>
      refine ⟨?_, rfl⟩
      intro index task hget _
      exact ⟨change task, by simp [hget], hstage task⟩

/-- Passing an action on lets go of nothing, and leaves alone what is over. -/
theorem Spawns.lasts {jobs : List Job} (h : Spawns before after jobs)
    (hrecords : Records [.effects, .leaving] before after) :
    Lasts before after ∧ ∀ index, index ∈ after.loose ↔ index ∈ before.loose := by
  have hold : ∀ (index : Nat) (task : Task), before.tasks[index]? = some task →
      after.tasks[index]? = some task := by
    intro index task hget
    rw [h.tasks, List.getElem?_append_left (List.getElem?_eq_some_iff.mp hget).1, hget]
  refine ⟨⟨fun index task hget _ => ⟨task, hold index task hget, rfl⟩,
    hrecords.failures_eq (by decide)⟩, ?_⟩
  intro index
  rw [mem_loose, mem_loose]
  constructor
  · rintro ⟨task, hget, hloose⟩
    rw [h.tasks] at hget
    rcases Nat.lt_or_ge index before.tasks.length with hlt | hge
    · rw [List.getElem?_append_left hlt] at hget
      exact ⟨task, hget, hloose⟩
    · -- what was started is held
      rw [List.getElem?_append_right hge] at hget
      obtain ⟨job, _, rfl⟩ := List.mem_map.mp (List.mem_of_getElem? hget)
      cases hloose
  · rintro ⟨task, hget, hloose⟩
    exact ⟨task, hold index task hget, hloose⟩

/-- What happens around a host brings no dead task back, and lets go of none. -/
theorem Progress.lasts (h : Progress before after) (hisAlive : before.isAlive = true) :
    Lasts before after ∧ ∀ index, index ∈ after.loose ↔ index ∈ before.loose := by
  have hages := h.ages hisAlive
  have hold : ∀ (index : Nat) (task : Task), before.tasks[index]? = some task →
      ∃ older, after.tasks[index]? = some older ∧ task.Ages older := by
    intro index task hget
    have hlt : index < after.tasks.length := by
      rw [hages.length]
      exact (List.getElem?_eq_some_iff.mp hget).1
    obtain ⟨task', hsame, haged⟩ := hages.tasks index _ (List.getElem?_eq_getElem hlt)
    rw [hget] at hsame
    cases hsame
    exact ⟨_, List.getElem?_eq_getElem hlt, haged⟩
  refine ⟨⟨?_, h.records.failures_eq (by decide)⟩, ?_⟩
  · intro index task hget hover
    obtain ⟨older, hget', haged⟩ := hold index task hget
    exact ⟨older, hget', haged.stage hover⟩
  · intro index
    rw [mem_loose, mem_loose]
    constructor
    · rintro ⟨older, hget, hloose⟩
      obtain ⟨task, hget', haged⟩ := hages.tasks index older hget
      exact ⟨task, hget', haged.isHeld ▸ hloose⟩
    · rintro ⟨task, hget, hloose⟩
      obtain ⟨older, hget', haged⟩ := hold index task hget
      exact ⟨older, hget', haged.isHeld.trans hloose⟩

/-- What a call records comes from effects, or from leaving. -/
theorem enter_records (host : Host) (operation : Operation) :
    Records [.effects, .leaving] host (host.enter operation).host := by
  cases operation with
  | mount => exact apply_records (.runtime .mount) host
  | unmount => exact apply_records (.runtime .unmount) host
  | syncSignedIn => exact (syncSignedIn_records host).mono (by decide)
  | handle action => exact apply_records (.user action) host
  | pump | settle => exact records_of_eq rfl

/-- A call that does not let go of tasks starts some, or none. -/
theorem enter_spawns (host : Host) {operation : Operation} (hpump : operation ≠ .pump) :
    ∃ jobs, Spawns host (host.enter operation).host jobs := by
  cases operation with
  | mount => exact ⟨_, (apply_eq (.runtime .mount) host).1⟩
  | unmount => exact ⟨_, (apply_eq (.runtime .unmount) host).1⟩
  | syncSignedIn => exact ⟨_, (syncSignedIn_eq host).1⟩
  | handle action => exact ⟨_, (apply_eq (.user action) host).1⟩
  | pump => exact absurd rfl hpump
  | settle => exact ⟨[], spawns_refl host⟩

/-- The tasks that are swept at once when the host is called, by their places. -/
def sweptAtOnce (host : Host) : Operation → List Nat
  | .pump => host.sweepings
  | .mount | .unmount | .syncSignedIn | .handle _ | .settle => []

end Host

open Host

namespace Scene

/-- The tasks that are left to wait for, by their places. -/
def left (scene : Scene) : List Nat :=
  match scene.activity with
  | .awaiting _ left => left
  | .idle | .pumping _ | .settling _ => []

/-- The task that has been waited for when the thread of the host goes on, by its place. -/
def waitedFor (scene : Scene) : List Nat := scene.left.take 1

/-- When nothing is left to wait for, nothing was waited for but what is counted already. -/
theorem waitedFor_of_left {scene : Scene} (h : scene.left = []) : scene.waitedFor = [] := by
  rw [waitedFor, h, List.take_nil]

/-- How a scene has come about, with the tasks that pumping has swept on the way and those that
settling has waited for, by their places. -/
inductive Reaps (start : Host) : List Nat → List Nat → Scene → Prop
  | opening : Reaps start [] [] ⟨start, .idle⟩
  | call {swept waited : List Nat} {host : Host} (h : Reaps start swept waited ⟨host, .idle⟩)
      (operation : Operation) :
      Reaps start (swept ++ host.sweptAtOnce operation) waited (host.enter operation)
  | work {swept waited : List Nat} {scene next : Scene} (h : Reaps start swept waited scene)
      (hwork : Work scene next) : Reaps start swept (waited ++ scene.waitedFor) next
  | progress {swept waited : List Nat} {before after : Host} {activity : Activity}
      (h : Reaps start swept waited ⟨before, activity⟩) (hprogress : Progress before after) :
      Reaps start swept waited ⟨after, activity⟩

/-- A history of reaping is a run. -/
theorem Reaps.moves {start : Host} {swept waited : List Nat} {scene : Scene}
    (h : Reaps start swept waited scene) : Moves ⟨start, .idle⟩ scene := by
  induction h with
  | opening => exact .refl
  | call _ operation ih => exact ih.tail (.call (call_iff.mpr ⟨operation, rfl⟩))
  | work _ hwork ih => exact ih.tail (.work hwork)
  | progress _ hprogress ih => exact ih.tail (.progress _ hprogress)

/-- Every scene that can be reached has come about in such a way. -/
theorem Reachable.exists_reaps {scene : Scene} (h : scene.Reachable) :
    ∃ start swept waited, Host.Starts start ∧ Reaps start swept waited scene := by
  obtain ⟨start, hstarts, hmoves⟩ := h
  induction hmoves with
  | refl => exact ⟨start, [], [], hstarts, .opening⟩
  | tail _ hmove ih =>
      obtain ⟨start, swept, waited, hstarts, hreaps⟩ := ih
      cases hmove with
      | call hcall =>
          obtain ⟨operation, rfl⟩ := call_iff.mp hcall
          exact ⟨start, _, _, hstarts, hreaps.call operation⟩
      | work hwork => exact ⟨start, _, _, hstarts, hreaps.work hwork⟩
      | progress _ hprogress => exact ⟨start, _, _, hstarts, hreaps.progress hprogress⟩

/-- **What there is to know of the tasks that a host has let go of.**  Each was swept, was waited
for, or is left to wait for; those that are not left are over; and what was reported are the
deaths of those that were waited for. -/
structure Accounts (swept waited : List Nat) (scene : Scene) : Prop where
  perm : (swept ++ waited ++ scene.left).Perm scene.host.loose
  ended : ∀ index ∈ swept ++ waited, scene.host.IsOver index
  failures : scene.host.failures = waited.countP scene.host.isDead

variable {swept waited : List Nat} {scene next : Scene}

/-- What lasts keeps the tasks over that were over, and their deaths. -/
theorem Accounts.lasts (h : Accounts swept waited scene) {after : Host}
    (hlasts : Lasts scene.host after) :
    (∀ index ∈ swept ++ waited, after.IsOver index) ∧
      after.failures = waited.countP after.isDead := by
  refine ⟨fun index hmem => hlasts.isOver (h.ended index hmem), ?_⟩
  rw [hlasts.failures, h.failures]
  apply List.countP_congr
  intro index hmem
  rw [hlasts.isDead (h.ended index (List.mem_append_right _ hmem))]

/-- Nothing is let go of. -/
theorem Accounts.keep (h : Accounts swept waited scene) (hleft : next.left = scene.left)
    (hlasts : Lasts scene.host next.host)
    (hloose : ∀ index, index ∈ next.host.loose ↔ index ∈ scene.host.loose) :
    Accounts swept waited next := by
  obtain ⟨hover, hfailures⟩ := h.lasts hlasts
  have hsame : scene.host.loose.Perm next.host.loose :=
    (List.perm_ext_iff_of_nodup (nodup_loose _) (nodup_loose _)).mpr fun index =>
      (hloose index).symm
  refine ⟨?_, hover, hfailures⟩
  rw [hleft]
  exact h.perm.trans hsame

/-- Everything is let go of that is over. -/
theorem Accounts.sweep {host : Host} (h : Accounts swept waited ⟨host, .idle⟩) :
    Accounts (swept ++ host.sweepings) waited ⟨host.letGo, .pumping none⟩ := by
  have hlasts := (regrips_letGo host).lasts
  obtain ⟨hover, hfailures⟩ := h.lasts hlasts
  refine ⟨?_, ?_, hfailures⟩
  · have hmoved : (swept ++ host.sweepings ++ waited ++ []).Perm
        (host.sweepings ++ (swept ++ waited ++ [])) := by
      simp only [List.append_assoc]
      exact List.perm_append_comm_assoc _ _ _
    exact (hmoved.trans (h.perm.append_left host.sweepings)).trans (letGo_loose host).symm
  · intro index hmem
    rw [List.append_assoc, List.mem_append, List.mem_append] at hmem
    rcases hmem with hswept | hnew | hwaited
    · exact hover index (List.mem_append_left _ hswept)
    · obtain ⟨task, hget, _, hstage⟩ := mem_sweepings.mp hnew
      exact hlasts.isOver ⟨task, hget, hstage⟩
    · exact hover index (List.mem_append_right _ hwaited)

/-- Everything is let go of, to be waited for. -/
theorem Accounts.take {host : Host} {rounds : Nat}
    (h : Accounts swept waited ⟨host, .settling rounds⟩) :
    Accounts swept waited ⟨host.takeTasks, .awaiting (rounds + 1) host.held⟩ := by
  obtain ⟨hover, hfailures⟩ := h.lasts (regrips_takeTasks host).lasts
  refine ⟨?_, hover, hfailures⟩
  have hbefore : (swept ++ waited).Perm host.loose := by simpa [left] using h.perm
  have hmoved : (swept ++ waited ++ host.held).Perm (host.held ++ host.loose) :=
    List.perm_append_comm.trans (hbefore.append_left host.held)
  exact hmoved.trans (takeTasks_loose host).symm

/-- A task has been waited for. -/
theorem Accounts.await {host : Host} {round index : Nat} {rest : List Nat} {task : Host.Task}
    (h : Accounts swept waited ⟨host, .awaiting round (index :: rest)⟩)
    (htask : host.tasks[index]? = some task) (hover : task.stage.isOver = true) :
    Accounts swept (waited ++ [index])
      ⟨if task.stage = .died then host.report .taskFailed else host, .awaiting round rest⟩ := by
  obtain ⟨hperm, hearlier, hfailures⟩ := h
  have hdead : host.isDead index = (task.stage == .died) := isDead_eq htask
  have hcount : (waited ++ [index]).countP host.isDead =
      host.failures + if task.stage = .died then 1 else 0 := by
    rw [List.countP_append, List.countP_singleton, hdead, hfailures]
    simp
  have hplaces : (swept ++ (waited ++ [index]) ++ rest).Perm host.loose := by
    simpa [left] using hperm
  have hall : ∀ place ∈ swept ++ (waited ++ [index]), host.IsOver place := by
    intro place hmem
    rw [← List.append_assoc, List.mem_append, List.mem_singleton] at hmem
    rcases hmem with hmem | rfl
    · exact hearlier place hmem
    · exact ⟨task, htask, hover⟩
  split
  · next hdied =>
      rw [if_pos hdied] at hcount
      exact ⟨hplaces, hall, (report_failures host).trans hcount.symm⟩
  · next hdied =>
      rw [if_neg hdied] at hcount
      exact ⟨hplaces, hall, hcount.symm⟩

/-- **The thread of a host keeps account**, and waits for one task at a time. -/
theorem Work.accounts (hwork : Work scene next) (hattended : Attended scene)
    (h : Accounts swept waited scene) : Accounts swept (waited ++ scene.waitedFor) next := by
  cases hwork with
  | @receive host completion rest round hinbox =>
      obtain ⟨hspawns, _⟩ := apply_eq (.runtime (.fetched completion.ticket completion.result))
        { host with inbox := rest }
      obtain ⟨hlasts, hloose⟩ := hspawns.lasts (apply_records _ _)
      rw [waitedFor_of_left rfl, List.append_nil]
      exact h.keep rfl ⟨hlasts.stage, hlasts.failures⟩ hloose
  | pumped | gathered | settled =>
      rw [waitedFor_of_left rfl, List.append_nil]
      exact h.keep rfl (lasts_refl _) fun _ => Iff.rfl
  | take rounds =>
      rw [waitedFor_of_left rfl, List.append_nil]
      exact h.take
  | awaited round rest htask hover => exact h.await htask hover
  | gather host round =>
      -- there is nothing to sweep, since nothing is held
      have hheld : host.held = [] := by
        cases hattended with
        | awaiting hheld => exact hheld
      have hloose := letGo_loose host
      rw [sweepings, hheld] at hloose
      rw [waitedFor_of_left rfl, List.append_nil]
      exact h.keep rfl (regrips_letGo host).lasts fun index => hloose.mem_iff

/-- **A call keeps account**: it sweeps if it is for pumping. -/
theorem Accounts.enter {host : Host} (h : Accounts swept waited ⟨host, .idle⟩)
    (operation : Operation) :
    Accounts (swept ++ host.sweptAtOnce operation) waited (host.enter operation) := by
  by_cases hpump : operation = .pump
  · rw [hpump]
    exact h.sweep
  · have hnone : host.sweptAtOnce operation = [] := by
      cases operation <;> first | rfl | exact absurd rfl hpump
    have hleft : (host.enter operation).left = [] := by cases operation <;> rfl
    obtain ⟨jobs, hspawns⟩ := enter_spawns host hpump
    obtain ⟨hlasts, hloose⟩ := hspawns.lasts (enter_records host operation)
    rw [hnone, List.append_nil]
    exact h.keep hleft hlasts hloose

/-- **Along every run each task that was let go of is accounted for.** -/
theorem Reaps.accounts {start : Host} (hstarts : start.Starts)
    (h : Reaps start swept waited scene) : Accounts swept waited scene := by
  induction h with
  | opening =>
      cases hstarts with
      | fresh => exact ⟨.refl _, fun index hmem => absurd hmem List.not_mem_nil, rfl⟩
  | call _ operation ih => exact ih.enter operation
  | work hreaps hwork ih =>
      have hreachable : Reachable _ := ⟨start, hstarts, hreaps.moves⟩
      exact hwork.accounts hreachable.attended ih
  | progress hreaps hprogress ih =>
      have hreachable : Reachable _ := ⟨start, hstarts, hreaps.moves⟩
      obtain ⟨hlasts, hloose⟩ := hprogress.lasts hreachable.balanced.isAlive
      exact ih.keep rfl hlasts hloose

/-- **A death is reported unless it was swept.**  A scene that can be reached has a history: a host
has started, and some tasks were swept on the way to the scene and some were waited for.  With
those that are left to wait for these are exactly the tasks that the host has let go of, each let
go of once.  The host has reported as many deaths as there are among the tasks that were
waited for.  So when no task is left to wait for, every death of a task that the host has let go
of has been reported, and once, exactly if none that was swept had died. -/
theorem deaths_reported (scene : Scene) :
    (scene.Reachable →
      ∃ start swept waited, Host.Starts start ∧ Reaps start swept waited scene) ∧
    ∀ (start : Host) (swept waited : List Nat), start.Starts → Reaps start swept waited scene →
      (swept ++ waited ++ scene.left).Nodup ∧
      (∀ index, index ∈ swept ++ waited ++ scene.left ↔
        ∃ task, scene.host.tasks[index]? = some task ∧ task.isHeld = false) ∧
      scene.host.failures = waited.countP scene.host.isDead ∧
      (scene.left = [] →
        (scene.host.failures = scene.host.loose.countP scene.host.isDead ↔
          ∀ index ∈ swept, scene.host.isDead index = false)) := by
  refine ⟨fun hreachable => hreachable.exists_reaps,
    fun start swept waited hstarts hreaps => ?_⟩
  obtain ⟨hperm, _, hfailures⟩ := hreaps.accounts hstarts
  refine ⟨hperm.nodup_iff.mpr (nodup_loose _), fun index => hperm.mem_iff.trans mem_loose,
    hfailures, ?_⟩
  intro hleft
  rw [hleft, List.append_nil] at hperm
  rw [← hperm.countP_eq, List.countP_append, hfailures]
  have hnone : swept.countP scene.host.isDead = 0 ↔
      ∀ index ∈ swept, scene.host.isDead index = false := by simp
  rw [← hnone]
  omega

/-- The request for the profile dies and settling waits for it; then a command dies and is swept.
Only the first death is reported. -/
theorem deaths_reported_one_of_two :
    ∃ (start : Host) (scene : Scene), start.Starts ∧ Reaps start [1] [0] scene ∧
      scene.left = [] ∧ scene.host.isDead 0 = true ∧ scene.host.isDead 1 = true ∧
      scene.host.failures = 1 ∧
      ¬ scene.host.failures = scene.host.loose.countP scene.host.isDead := by
  let backend : Http.Backend := ⟨fun _ _ => .died, fun _ _ _ => .died⟩
  let start := Host.fresh {} { signedIn := true }
  let first := start.mount.1.runBackground backend
  let reported := (first.takeTasks.report .taskFailed).letGo
  let opened := (handle (.activate .newWorksheet) reported).1
  let second := (handle .confirmDialog opened).1.runBackground backend
  have hstarts : start.Starts := .fresh {} { signedIn := true } false none
  have hdied : Reaps start [] [] ⟨first, .idle⟩ :=
    .progress (.call .opening .mount) (.runBackground _ backend)
  have hheld : first.held = [0] := by decide +kernel
  have htaken : Reaps start [] [] ⟨first.takeTasks, .awaiting 1 [0]⟩ := by
    have htake : Reaps start [] [] ⟨first.takeTasks, .awaiting 1 first.held⟩ :=
      .work (.call hdied .settle) (.take 0 (by rw [hheld]; simp))
    rwa [hheld] at htake
  have htask : first.takeTasks.tasks[0]? = some ⟨.fetch ⟨1⟩ "/rest/user", .died, false⟩ := by
    decide +kernel
  have hwaited : Reaps start [] [0] ⟨first.takeTasks.report .taskFailed, .awaiting 1 []⟩ :=
    htaken.work (.awaited 1 [] htask rfl)
  have hgathered : Reaps start [] [0] ⟨reported, .settling 1⟩ :=
    (hwaited.work (.gather _ 1)).work (.gathered 1 (by decide +kernel))
  have hsettled : Reaps start [] [0] ⟨reported, .idle⟩ :=
    hgathered.work (.settled 1 (by decide +kernel))
  have hsecond : Reaps start [] [0] ⟨second, .idle⟩ :=
    .progress (.call (.call hsettled (.handle (.activate .newWorksheet))) (.handle .confirmDialog))
      (.runBackground _ backend)
  have hswept : second.sweepings = [1] := by decide +kernel
  have hreaps : Reaps start [1] [0] ⟨second.letGo, .idle⟩ := by
    have hpump := hsecond.call .pump
    rw [sweptAtOnce, hswept] at hpump
    exact hpump.work (.pumped (by decide +kernel))
  obtain ⟨_, hhistory⟩ := deaths_reported ⟨second.letGo, .idle⟩
  obtain ⟨_, _, hfailures, hall⟩ := hhistory start [1] [0] hstarts hreaps
  have hone : second.letGo.isDead 0 = true := by decide +kernel
  have htwo : second.letGo.isDead 1 = true := by decide +kernel
  refine ⟨start, _, hstarts, hreaps, rfl, hone, htwo, ?_, ?_⟩
  · rw [hfailures]
    simp [hone]
  · intro hreported
    have hnone := (hall rfl).mp hreported 1 List.mem_cons_self
    rw [htwo] at hnone
    cases hnone

/-- **Pumping passes a death over**: the request for the profile dies, the host lets go of it, and
nothing is ever reported of it. -/
theorem pump_passes_death_over :
    ¬ ∀ scene : Scene, scene.Reachable → scene.activity = .idle →
      scene.host.failures = scene.host.loose.countP scene.host.isDead := by
  intro hall
  let backend : Http.Backend := ⟨fun _ _ => .died, fun _ _ _ => .died⟩
  let scene := (Scene.fresh {} { signedIn := true } false none).play backend
    [.mount, .background, .pump, .work]
  have hreachable : scene.Reachable := reachable_play _ _ _ _ _ _
  have hsilent : scene.host.failures = 0 := by decide +kernel
  have hdied : scene.host.loose.countP scene.host.isDead = 1 := by decide +kernel
  have hreported := hall scene hreachable (by decide +kernel)
  rw [hsilent, hdied] at hreported
  cases hreported

end Scene

end WorksheetBar
