import WorksheetBar.Proofs.Readiness

/-!
# What settling comes to

The host settles by a loop that lets the background go on where it has to wait.  If all
tasks are over at its end, the loop has been one of the runs of settling, and what is true
of every run is true of it.  The other way it can end is with a task that waits at the
gate, where no permit comes as long as the host does nothing but settle.

* `settleRounds_strides` — so is settling, unless a task is left at the gate;
* `settle_comes_to_rest` — settling comes to an end after at most two rounds, and what it
  leaves is what is lost.
-/

namespace WorksheetBar

open Relation (ReflTransGen)

namespace Host

/-- Some task waits at the gate. -/
def Waits (host : Host) : Prop := ∃ task ∈ host.tasks, task.stage = .waiting

/-- A task that waits at the gate waits on while others have their turn. -/
theorem Turns.waits {before after : Host} {places : List Nat} (h : Turns before after places)
    (hwaits : before.Waits) : after.Waits := by
  obtain ⟨task, hmem, hwaiting⟩ := hwaits
  obtain ⟨index, hget⟩ := List.getElem?_of_mem hmem
  exact ⟨task, List.mem_of_getElem? (h.waiting index task hget hwaiting), hwaiting⟩

/-- A task that waits at the gate still does when the background goes on. -/
theorem Waits.runBackground {host : Host} (h : host.Waits) (backend : Http.Backend) :
    (host.runBackground backend).Waits :=
  (foldl_advance backend host.line { host with line := [] }).waits h

/-- A task that waits at the gate still does, whatever the host takes hold of or lets go of. -/
theorem Waits.regrips {before after : Host} (h : before.Waits) (hregrips : Regrips before after) :
    after.Waits := by
  obtain ⟨task, hmem, hwaiting⟩ := h
  obtain ⟨older, hmem', _, hstage⟩ := hregrips.exists_mem hmem
  exact ⟨older, hmem', hstage.trans hwaiting⟩

/-- Reports the death of the task at a place, if that is how it ended. -/
def notice (host : Host) (index : Nat) : Host :=
  match host.tasks[index]? with
  | some task => if task.stage = .died then host.report .taskFailed else host
  | none => host

@[simp] theorem notice_tasks (host : Host) (index : Nat) :
    (host.notice index).tasks = host.tasks := by
  unfold notice
  split
  · split <;> rfl
  · rfl

/-- Waiting for a task that is over changes nothing. -/
theorem await_of_ended (backend : Http.Backend) {host : Host} {index : Nat}
    (h : host.Ended index) : await backend host index = host.notice index := by
  unfold await
  cases hget : host.tasks[index]? with
  | none => simp [notice, hget]
  | some task => simp [notice, hget, h task hget]

/-- Waiting for another one lets the background go on. -/
theorem await_of_not_ended (backend : Http.Backend) {host : Host} {index : Nat}
    (h : ¬ host.Ended index) :
    await backend host index = (host.runBackground backend).notice index := by
  unfold await
  cases hget : host.tasks[index]? with
  | none => exact absurd (fun task htask => by simp [hget] at htask) h
  | some task =>
      have hover : task.stage.isOver = false := by
        by_contra htrue
        refine h fun other hother => ?_
        rw [hget] at hother
        cases hother
        simpa using htrue
      simp only [hover, Bool.false_eq_true, if_false]
      rfl

/-- To wait for a task is to find it over, or to let the background go on until it is. -/
theorem await_cases (backend : Http.Backend) (host : Host) (index : Nat) :
    (host.Ended index ∧ await backend host index = host.notice index) ∨
      await backend host index = (host.runBackground backend).notice index := by
  by_cases h : host.Ended index
  · exact Or.inl ⟨h, await_of_ended backend h⟩
  · exact Or.inr (await_of_not_ended backend h)

/-- A task at the gate is not let through by waiting for one. -/
theorem Waits.await {host : Host} (h : host.Waits) (backend : Http.Backend) (index : Nat) :
    (await backend host index).Waits := by
  rcases await_cases backend host index with ⟨_, hawait⟩ | hawait
  · rw [hawait, Waits, notice_tasks]
    exact h
  · rw [hawait, Waits, notice_tasks]
    exact h.runBackground backend

/-- A task that waits at the gate is not let through by waiting for several. -/
theorem Waits.foldl_await {host : Host} (h : host.Waits) (backend : Http.Backend)
    (left : List Nat) : (left.foldl (Host.await backend) host).Waits := by
  induction left generalizing host with
  | nil => exact h
  | cons index rest ih => exact ih (h.await backend index)

/-- A task that waits at the gate is not let through by taking in answers. -/
theorem Waits.drain {host : Host} (h : host.Waits) (inbox : List Completion) :
    (drain inbox host).1.Waits := by
  induction inbox generalizing host with
  | nil => exact h
  | cons completion rest ih =>
      obtain ⟨jobs, hspawns, _⟩ := receive_eq host completion
      obtain ⟨task, hmem, hwaiting⟩ := h
      have hreceived : (host.receive completion).Waits :=
        ⟨task, hspawns.tasks ▸ List.mem_append_left _ hmem, hwaiting⟩
      exact ih hreceived

/-- A task that waits at the gate is not let through by a pump. -/
theorem Waits.pump {host : Host} (h : host.Waits) : host.pump.1.Waits := by
  have hletGo : host.letGo.Waits := h.regrips (regrips_letGo host)
  have hemptied : Waits { host.letGo with inbox := [] } := hletGo
  exact hemptied.drain host.letGo.inbox

theorem settleRounds_of_held_eq_nil (backend : Http.Backend) (fuel : Nat) {host : Host}
    (hheld : host.held = []) : (settleRounds backend (fuel + 1) host).1 = host := by
  simp [settleRounds, hheld]

/-- A round of settling: every task that is held is waited for, what has arrived is taken
in, and the next round begins. -/
theorem settleRounds_of_held_ne_nil (backend : Http.Backend) (fuel : Nat) {host : Host}
    (hheld : host.held ≠ []) :
    (settleRounds backend (fuel + 1) host).1 =
      (settleRounds backend fuel
        (host.held.foldl (await backend) host.takeTasks).pump.1).1 := by
  rw [settleRounds]
  dsimp only
  split
  · next hnil => exact absurd hnil hheld
  · rfl

/-- **Settling lets nobody through the gate.** -/
theorem Waits.settleRounds {host : Host} (h : host.Waits) (backend : Http.Backend)
    (fuel : Nat) : (settleRounds backend fuel host).1.Waits := by
  induction fuel generalizing host with
  | zero => exact h
  | succ fuel ih =>
      by_cases hheld : host.held = []
      · rw [settleRounds_of_held_eq_nil backend fuel hheld]
        exact h
      · have htaken : host.takeTasks.Waits := h.regrips (regrips_takeTasks host)
        rw [settleRounds_of_held_ne_nil backend fuel hheld]
        exact ih (htaken.foldl_await backend host.held).pump

/-- If nobody can go on and nobody waits, everybody is over. -/
theorem Balanced.isOver {host : Host} (h : host.Balanced)
    (hready : ∀ task ∈ host.tasks, ¬ task.Ready) (hwaits : ¬ host.Waits) :
    ∀ task ∈ host.tasks, task.stage.isOver = true := by
  intro task hmem
  cases hstage : task.stage with
  | spawned => exact absurd (Or.inl hstage) (hready task hmem)
  | waiting => exact absurd ⟨task, hmem, hstage⟩ hwaits
  | letThrough =>
      have hticket := h.parked task hmem (Or.inr hstage)
      exact absurd (Or.inr ⟨hstage, hticket⟩) (hready task hmem)
  | ended | died => rfl

end Host

namespace Scene

open Host

/-- What the loop of settling does: the next piece of work, or letting the background go on. -/
inductive Strides (backend : Http.Backend) : Scene → Scene → Prop
  | work {scene next : Scene} (hwork : Work scene next) : Strides backend scene next
  | background (host : Host) (activity : Activity) :
      Strides backend ⟨host, activity⟩ ⟨host.runBackground backend, activity⟩

/-- The loop of settling makes moves that go on with an operation. -/
theorem Strides.continues {backend : Http.Backend} {scene next : Scene}
    (h : Strides backend scene next) : Continues scene next := by
  cases h with
  | work hwork => exact .work hwork
  | background host activity => exact .progress (.runBackground host backend) rfl

/-- A scene that can be reached leads, stride by stride, to scenes that can be reached. -/
theorem Reachable.strides {backend : Http.Backend} {scene next : Scene} (h : scene.Reachable)
    (hstrides : ReflTransGen (Strides backend) scene next) : next.Reachable := by
  obtain ⟨host, hstarts, hmoves⟩ := h
  have hmore : Moves scene next :=
    Relation.ReflTransGen.mono (fun _ _ hstride => hstride.continues.move) _ _ hstrides
  exact ⟨host, hstarts, hmoves.trans hmore⟩

/-- Waiting for a task makes the moves of waiting for it, unless a task is left at the
gate. -/
theorem await_strides (backend : Http.Backend) {host : Host} {round index : Nat}
    {left : List Nat} (h : Reachable ⟨host, .awaiting round (index :: left)⟩)
    (hwaits : ¬ (await backend host index).Waits) :
    ReflTransGen (Strides backend) ⟨host, .awaiting round (index :: left)⟩
      ⟨await backend host index, .awaiting round left⟩ := by
  have hnotice : ∀ waited : Host, index < waited.tasks.length → waited.Ended index →
      Strides backend ⟨waited, .awaiting round (index :: left)⟩
        ⟨waited.notice index, .awaiting round left⟩ := by
    intro waited hlt hended
    have hget := List.getElem?_eq_getElem hlt
    have hwork : Work ⟨waited, .awaiting round (index :: left)⟩ _ :=
      .awaited round left hget (hended _ hget)
    rw [notice, hget]
    exact .work hwork
  have hlt : index < host.tasks.length := by
    cases h.attended with
    | awaiting _ _ hlength => exact hlength index List.mem_cons_self
  rcases await_cases backend host index with ⟨hended, hawait⟩ | hawait
  · rw [hawait]
    exact .single (hnotice host hlt hended)
  · have hprogress : Progress host (host.runBackground backend) := .runBackground host backend
    have hages := hprogress.ages h.balanced.isAlive
    rw [hawait, Waits, notice_tasks] at hwaits
    have hover := (h.balanced.progress hprogress).isOver (h.lined.runBackground backend) hwaits
    have hended : (host.runBackground backend).Ended index := by
      intro task hget
      exact hover task (List.mem_of_getElem? hget)
    rw [hawait]
    have hgoes : Strides backend ⟨host, .awaiting round (index :: left)⟩
        ⟨host.runBackground backend, .awaiting round (index :: left)⟩ := .background host _
    exact .head hgoes (.single (hnotice _ (hages.length ▸ hlt) hended))

/-- Unless a task is left at the gate, waiting for all tasks comes to the end of the list. -/
theorem foldl_await_strides (backend : Http.Backend) {round : Nat} (left : List Nat)
    {host : Host} (h : Reachable ⟨host, .awaiting round left⟩)
    (hwaits : ¬ (left.foldl (await backend) host).Waits) :
    ReflTransGen (Strides backend) ⟨host, .awaiting round left⟩
      ⟨left.foldl (await backend) host, .awaiting round []⟩ := by
  induction left generalizing host with
  | nil => exact .refl
  | cons index rest ih =>
      have hfirst := await_strides backend h
        (fun hfirst => hwaits (hfirst.foldl_await backend rest))
      exact hfirst.trans (ih (h.strides hfirst) hwaits)

/-- Pumping takes in what is there, which is one answer at most. -/
theorem pump_works {host : Host} {round : Option Nat}
    (h : Reachable ⟨host.letGo, .pumping round⟩) :
    ReflTransGen Work ⟨host.letGo, .pumping round⟩ ⟨host.pump.1, .pumping round⟩ ∧
      host.pump.1.inbox = [] := by
  unfold pump
  dsimp only
  cases hinbox : host.letGo.inbox with
  | nil =>
      have hsame : ({ host.letGo with inbox := [] } : Host) = host.letGo := by rw [← hinbox]
      refine ⟨?_, rfl⟩
      simp only [drain]
      rw [hsame]
  | cons completion rest =>
      obtain ⟨_, rfl, _⟩ := h.balanced.owed_of_inbox hinbox
      obtain ⟨jobs, hspawns, _⟩ := receive_eq { host.letGo with inbox := [] } completion
      have hwork : Work ⟨host.letGo, .pumping round⟩ _ := .receive round hinbox
      exact ⟨.single hwork, hspawns.inbox⟩

/-- **Settling is made of moves**, unless a task is left at the gate.  There is fuel enough,
because nothing is held after the second round. -/
theorem settleRounds_strides (backend : Http.Backend) (fuel : Nat) {rounds : Nat} {host : Host}
    (h : Reachable ⟨host, .settling rounds⟩) (hfuel : 2 ≤ fuel + rounds)
    (hwaits : ¬ (settleRounds backend fuel host).1.Waits) :
    ReflTransGen (Strides backend) ⟨host, .settling rounds⟩
      ⟨(settleRounds backend fuel host).1, .idle⟩ := by
  induction fuel generalizing host rounds with
  | zero =>
      have hheld : host.held = [] := by
        cases h.attended with
        | settling _ _ hrounds _ hsecond => exact hsecond (by omega)
      exact .single (.work (.settled rounds hheld))
  | succ fuel ih =>
      by_cases hheld : host.held = []
      · rw [settleRounds_of_held_eq_nil backend fuel hheld]
        exact .single (.work (.settled rounds hheld))
      · rw [settleRounds_of_held_ne_nil backend fuel hheld] at hwaits ⊢
        let awaited := host.held.foldl (await backend) host.takeTasks
        have htake : ReflTransGen (Strides backend) ⟨host, .settling rounds⟩
            ⟨host.takeTasks, .awaiting (rounds + 1) host.held⟩ :=
          .single (.work (.take rounds hheld))
        have hawait := foldl_await_strides backend host.held (h.strides htake)
          (fun hleft => hwaits (Waits.settleRounds (Waits.pump hleft) backend fuel))
        have hgather : ReflTransGen (Strides backend) ⟨awaited, .awaiting (rounds + 1) []⟩
            ⟨awaited.letGo, .pumping (some (rounds + 1))⟩ :=
          .single (.work (.gather awaited (rounds + 1)))
        have hbefore := (htake.trans hawait).trans hgather
        obtain ⟨hpump, hinbox⟩ := pump_works (h.strides hbefore)
        have hpumped : ReflTransGen (Strides backend) _ _ :=
          Relation.ReflTransGen.mono (fun _ _ hwork => .work hwork) _ _ hpump
        have hafter := (hbefore.trans hpumped).tail (.work (.gathered (rounds + 1) hinbox))
        exact hafter.trans (ih (h.strides hafter) (by omega) hwaits)

/-- **Settling comes to its end by such moves**, unless a task is left at the gate. -/
theorem settleRounds_continues (backend : Http.Backend) (fuel : Nat) {rounds : Nat} {host : Host}
    (h : Reachable ⟨host, .settling rounds⟩) (hfuel : 2 ≤ fuel + rounds)
    (hwaits : ¬ (settleRounds backend fuel host).1.Waits) :
    ReflTransGen Continues ⟨host, .settling rounds⟩
      ⟨(settleRounds backend fuel host).1, .idle⟩ :=
  Relation.ReflTransGen.mono (fun _ _ hstride => hstride.continues) _ _
    (settleRounds_strides backend fuel h hfuel hwaits)

/-- Moves that come to a scene where nothing moves any more can be laid out in time. -/
theorem exists_trace {first last : Scene} (h : ReflTransGen Continues first last) :
    ∃ scene : Nat → Scene, scene 0 = first ∧
      (∀ n, Continues (scene n) (scene (n + 1))) ∧ ∃ n, ∀ m, n ≤ m → scene m = last := by
  induction h using ReflTransGen.head_induction_on with
  | refl =>
      have hrests : Continues last last := .progress (.decide last.host _) rfl
      exact ⟨fun _ => last, rfl, fun _ => hrests, 0, fun _ _ => rfl⟩
  | @head before next hcontinue _ ih =>
      obtain ⟨scene, hstart, hcontinues, n, hlast⟩ := ih
      refine ⟨fun m => m.casesOn before scene, rfl, ?_, n + 1, ?_⟩
      · intro m
        cases m with
        | zero =>
            have hfirst : Continues before (scene 0) := by
              rw [hstart]
              exact hcontinue
            exact hfirst
        | succ m => exact hcontinues m
      · intro m hm
        cases m with
        | zero => omega
        | succ m => exact hlast m (by omega)

/-- **Moves that bring settling to rest, with every task over, are a run of settling.** -/
theorem exists_settling {host after : Host}
    (h : ReflTransGen Continues ⟨host, .settling 0⟩ ⟨after, .idle⟩)
    (hover : ∀ task ∈ after.tasks, task.stage.isOver = true) :
    ∃ run : Settling host, ∃ n, run.scene n = ⟨after, .idle⟩ := by
  obtain ⟨scene, hstart, hcontinues, n, hlast⟩ := exists_trace h
  have hworks : ∀ k, (∀ m, k ≤ m → ∃ next, Work (scene m) next) →
      ∃ m, k ≤ m ∧ Work (scene m) (scene (m + 1)) := by
    intro k hcan
    obtain ⟨next, hwork⟩ := hcan (max k n) (Nat.le_max_left k n)
    rw [hlast _ (Nat.le_max_right k n)] at hwork
    cases hwork
  have hends : ∀ k index, ∃ m, k ≤ m ∧ (scene m).host.Ended index := by
    intro k index
    refine ⟨max k n, Nat.le_max_left k n, ?_⟩
    rw [hlast _ (Nat.le_max_right k n)]
    intro task hget
    exact hover task (List.mem_of_getElem? hget)
  exact ⟨⟨scene, hstart, hcontinues, hworks, hends⟩, n, hlast n (le_refl n)⟩

end Scene

/-- **Settling comes to an end, and what it leaves is what is lost.**  Whatever happened to
the host before and whatever the background does in the meantime, if all tasks end sooner
or later, settling comes to rest after at most two rounds.  Then there is no task and no
answer left, the session waits exactly for a request that died, and it does so for ever
without anything more being requested.  The loop that the host runs is such a run whenever
it leaves no task that is not over. -/
theorem Host.settle_comes_to_rest {host : Host} (h : Scene.Reachable ⟨host, .idle⟩) :
    (∀ run : Scene.Settling host,
      (∀ n, (run.scene n).activity.rounds ≤ 2) ∧
      (∃ n, (run.scene n).activity = .idle) ∧
      ∀ n, (run.scene n).activity = .idle → (run.scene n).Settled) ∧
    ∀ backend : Http.Backend,
      (∀ task ∈ (Host.settle backend host).1.tasks, task.stage.isOver = true) →
      ∃ run : Scene.Settling host, ∃ n, run.scene n = ⟨(Host.settle backend host).1, .idle⟩ := by
  constructor
  · intro run
    refine ⟨?_, run.comes_to_rest h, fun n => run.settled h⟩
    intro n
    exact (run.reachable h n).attended.rounds_le
  · intro backend hover
    have hwaits : ¬ (Host.settle backend host).1.Waits := by
      rintro ⟨task, hmem, hwaiting⟩
      have hend := hover task hmem
      simp [hwaiting, Stage.isOver] at hend
    have hsettling : Scene.Reachable ⟨host, .settling 0⟩ := by
      obtain ⟨first, hstarts, hmoves⟩ := h
      exact ⟨first, hstarts, hmoves.tail (.call (.settle host))⟩
    exact Scene.exists_settling
      (Scene.settleRounds_continues backend _ hsettling (by omega) hwaits) hover

/-- The user signs out and in again before the first answer comes.  The first round takes
that answer in and asks again, the second one waits for a request that dies, and then the
session is stuck. -/
theorem Host.settle_comes_to_rest_stuck :
    ∃ (host : Host) (backend : Http.Backend) (run : Scene.Settling host) (n : Nat),
      Scene.Reachable ⟨host, .idle⟩ ∧
      run.scene n = ⟨(Host.settle backend host).1, .idle⟩ ∧
      (run.scene n).host.shell.session = .loading ⟨2⟩ ∧ (run.scene n).Settled := by
  let backend : Http.Backend :=
    ⟨fun count _ => if count = 0 then .failed "timeout" else .died, fun _ _ _ => .died⟩
  let mounted := (Host.fresh {} { signedIn := true }).mount.1
  let signedOut := Host.syncSignedIn
    { mounted with provider := { mounted.provider with signedIn := false } }
  let signedIn := Host.syncSignedIn
    { signedOut.1 with provider := { signedOut.1.provider with signedIn := true } }
  have hreachable : Scene.Reachable ⟨signedIn.1, .idle⟩ := by
    have hmount : Scene.Moves ⟨Host.fresh {} { signedIn := true }, .idle⟩ ⟨mounted, .idle⟩ :=
      .single (.call (.mount _))
    refine ⟨Host.fresh {} { signedIn := true }, .fresh {} { signedIn := true } false none, ?_⟩
    exact hmount
      |>.tail (.progress .idle (.decide mounted false))
      |>.tail (.call (.syncSignedIn _))
      |>.tail (.progress .idle (.decide signedOut.1 true))
      |>.tail (.call (.syncSignedIn _))
  have hover : ∀ task ∈ (Host.settle backend signedIn.1).1.tasks, task.stage.isOver = true := by
    decide +kernel
  obtain ⟨hruns, hloop⟩ := Host.settle_comes_to_rest hreachable
  obtain ⟨run, n, hscene⟩ := hloop backend hover
  have hsettled := (hruns run).2.2 n (by rw [hscene])
  refine ⟨signedIn.1, backend, run, n, hreachable, hscene, ?_, hsettled⟩
  rw [hscene]
  exact Session.ticket?_eq_some.mp (by decide +kernel)

end WorksheetBar
