import Mathlib.Data.Prod.Lex
import WorksheetBar.Proofs.Attendance
import WorksheetBar.Proofs.LostRequests

/-!
# Settling comes to an end

What the thread of a host does lowers the rank of the scene, and nothing that happens
around it raises the rank.  The rank has two parts.  The first counts what may still be
taken in, an answer to an abandoned request twice because another request may follow it,
and whether any task is held; the second measures the way to the end of the round.

The thread is held up by one thing only: a task it waits for that is not over.  So if all
tasks end sooner or later, and the thread goes on whenever it can, settling comes to an
end, whatever the background does in the meantime and in whatever order.

* `Work.rank_lt`, `Progress.rank_le` — work lowers the rank, and nothing raises it;
* `Attended.works_or_awaits` — what the thread is held up by;
* `Settling.comes_to_rest` — settling comes to an end;
* `Settling.settled` — nothing is left then but requests that are lost.
-/

namespace WorksheetBar

open Host

/-- What may still be taken in.  The answer to an abandoned request may be followed by
another one. -/
def Host.outstanding (host : Host) : Nat :=
  host.fetching.length + host.inbox.length + host.shell.abandoned.toList.length

/-- How far it is to the end of the round. -/
def Activity.height : Activity → Nat
  | idle => 0
  | settling _ => 1
  | pumping _ => 2
  | awaiting _ left => left.length + 3

namespace Scene

/-- What the thread of the host still has to do, the more the higher. -/
def rank (scene : Scene) : Nat ×ₗ Nat :=
  toLex (2 * scene.host.outstanding + (if scene.host.held = [] then 0 else 1),
    scene.activity.height)

/-- The rank falls with the height of the activity. -/
theorem rank_lt_of_height {before after : Host} {activity next : Activity}
    (houtstanding : after.outstanding = before.outstanding)
    (hheld : before.held = [] → after.held = []) (hheight : next.height < activity.height) :
    rank ⟨after, next⟩ < rank ⟨before, activity⟩ := by
  rw [rank, rank, Prod.Lex.toLex_lt_toLex']
  refine ⟨?_, fun _ => hheight⟩
  dsimp only
  rw [houtstanding]
  split
  · split <;> omega
  · next hne =>
      rw [if_neg (fun hnil => hne (hheld hnil))]

/-- The rank falls with what may still be taken in, whatever comes to be held. -/
theorem rank_lt_of_outstanding {before after : Host} {activity next : Activity}
    (houtstanding : after.outstanding + 1 ≤ before.outstanding) :
    rank ⟨after, next⟩ < rank ⟨before, activity⟩ := by
  rw [rank, rank, Prod.Lex.toLex_lt_toLex]
  left
  dsimp only
  split <;> split <;> omega

/-- A task that is not held may still be answered. -/
theorem outstanding_regrips {before after : Host} (h : Regrips before after) :
    after.outstanding = before.outstanding := by
  have htasks : after.fetching = before.fetching := by
    apply h.filterMap
    intro task other hjob hstage
    rw [Task.fetching?, Task.fetching?, Task.ticket?, Task.ticket?, hjob, hstage]
  cases h with
  | intro => rw [outstanding, htasks, outstanding]

/-- Taking in an answer leaves less to be taken in: either nothing follows, or what was
abandoned is abandoned no more. -/
theorem outstanding_receive {host : Host} (h : host.Balanced) {completion : Completion}
    {rest : List Completion} (hinbox : host.inbox = completion :: rest) :
    (({ host with inbox := rest } : Host).receive completion).outstanding + 1 ≤
      host.outstanding := by
  obtain ⟨jobs, hspawns, habandoned, hnone⟩ := h.receive_spawns hinbox
  have hlength := h.length_le
  have hafter := (h.receive hinbox).length_le
  simp only [outstanding, habandoned, Option.toList_none, List.length_nil]
  cases hcase : host.shell.abandoned with
  | none =>
      obtain rfl := hnone hcase
      have hfetching : (({ host with inbox := rest } : Host).receive completion).fetching =
          host.fetching := by
        simp [fetching, hspawns.tasks, started]
      rw [hfetching, hspawns.inbox, hinbox, List.length_cons, Option.toList_none, List.length_nil]
      dsimp only
      omega
  | some ticket =>
      rw [hinbox] at hlength ⊢
      simp only [Option.toList_some, List.length_cons, List.length_nil]
      omega

/-- **What the thread does lowers the rank.** -/
theorem Work.rank_lt {scene next : Scene} (hwork : Work scene next)
    (hbalanced : scene.host.Balanced) : next.rank < scene.rank := by
  cases hwork with
  | receive round hinbox =>
      exact rank_lt_of_outstanding (outstanding_receive hbalanced hinbox)
  | pumped | gathered | settled => exact rank_lt_of_height rfl id (by simp [Activity.height])
  | @take host rounds hheld =>
      have hsame := outstanding_regrips (regrips_takeTasks host)
      rw [rank, rank, Prod.Lex.toLex_lt_toLex]
      left
      dsimp only
      rw [hsame, if_pos (takeTasks_held host), if_neg hheld]
      omega
  | awaited =>
      split <;> exact rank_lt_of_height rfl id (by simp [Activity.height])
  | gather host round =>
      exact rank_lt_of_height (outstanding_regrips (regrips_letGo host)) letGo_held
        (by simp [Activity.height])

end Scene

namespace Host

/-- A task that goes on hands in no more than it was fetching. -/
theorem Task.Goes.fetching_le {task : Task} {stage : Stage} {answers : List Completion}
    (h : task.Goes stage answers) :
    ({ task with stage := stage } : Task).fetching?.toList.length + answers.length ≤
      task.fetching?.toList.length := by
  cases h with
  | waits hstage _ | passes hstage => simp [Task.fetching?, Task.ticket?, hstage, Stage.isOver]
  | answers _ hstage hticket =>
      rcases hstage with hstage | hstage <;>
        simp [Task.fetching?, hstage, hticket, Stage.isOver]
  | sends | dies => simp [Task.fetching?, Stage.isOver]

/-- The background adds nothing to what may still be taken in. -/
theorem Drift.outstanding_le {before after : Host} (h : Drift before after) :
    after.outstanding ≤ before.outstanding := by
  cases h with
  | still hstill =>
      simp [outstanding, fetching, hstill.tasks, hstill.inbox, hstill.shell]
  | @shift first task later stage answers hshift =>
      have hgoes := hshift.goes.fetching_le
      have hsplit : ∀ (host : Host) (task : Task), host.tasks = first ++ task :: later →
          host.fetching.length = (first.filterMap Task.fetching?).length +
            (task.fetching?.toList.length + (later.filterMap Task.fetching?).length) := by
        intro host task htasks
        cases hfetching : task.fetching? <;> simp [fetching, htasks, hfetching]
        omega
      have hbefore := hsplit before _ hshift.tasks
      have hafter := hsplit after _ hshift.moved
      have hinbox := congrArg List.length hshift.inbox
      rw [List.length_append] at hinbox
      simp only [outstanding, hshift.shell]
      omega

end Host

namespace Scene

/-- **Nothing that happens around a host raises the rank.** -/
theorem Progress.rank_le {before after : Host} (h : Progress before after)
    (hisAlive : before.isAlive = true) (activity : Activity) :
    rank ⟨after, activity⟩ ≤ rank ⟨before, activity⟩ := by
  have hdrifts := h.drifts hisAlive
  clear h hisAlive
  induction hdrifts with
  | refl => exact le_refl _
  | @tail middle after _ hdrift ih =>
      refine le_trans ?_ ih
      have hless := hdrift.outstanding_le
      have hheld := hdrift.ages.held_eq_nil
      rw [rank, rank, Prod.Lex.toLex_le_toLex']
      refine ⟨?_, fun _ => le_refl _⟩
      dsimp only
      simp only [hheld]
      omega

end Scene

/-- The task at a place, if there is one, is over. -/
def Host.Ended (host : Host) (index : Nat) : Prop :=
  ∀ task, host.tasks[index]? = some task → task.stage.isOver = true

/-- A task that has ended stays so. -/
theorem Host.Ages.ended {before after : Host} (h : Ages before after) {index : Nat}
    (hended : before.Ended index) : after.Ended index := by
  intro older hget
  obtain ⟨task, hget', haged⟩ := h.tasks index older hget
  have hover := hended task hget'
  rw [haged.stage hover, hover]

namespace Scene

/-- What may happen to a host that is called for nothing. -/
inductive Continues (scene next : Scene) : Prop
  | work (hwork : Work scene next)
  | progress (hprogress : Progress scene.host next.host)
      (hactivity : next.activity = scene.activity)

/-- What continues is a move. -/
theorem Continues.move {scene next : Scene} (h : Continues scene next) : Move scene next := by
  cases h with
  | work hwork => exact .work hwork
  | progress hprogress hactivity =>
      obtain ⟨host, activity⟩ := scene
      obtain ⟨after, activity'⟩ := next
      have hsame : activity' = activity := hactivity
      rw [hsame]
      exact .progress activity hprogress

/-- **Whatever continues leaves no more to do.** -/
theorem Continues.rank_le {scene next : Scene} (h : Continues scene next)
    (hbalanced : scene.host.Balanced) : next.rank ≤ scene.rank := by
  cases h with
  | work hwork => exact le_of_lt (hwork.rank_lt hbalanced)
  | progress hprogress hactivity =>
      obtain ⟨host, activity⟩ := scene
      obtain ⟨after, activity'⟩ := next
      have hsame : activity' = activity := hactivity
      rw [hsame]
      exact Progress.rank_le hprogress hbalanced.isAlive activity

/-- **The thread is held up by one thing only**: a task it waits for that is not over. -/
theorem Attended.works_or_awaits {scene : Scene} (h : Attended scene)
    (hactive : scene.activity ≠ .idle) :
    (∃ next, Work scene next) ∨ ∃ round index left,
      scene.activity = .awaiting round (index :: left) ∧ ¬ scene.host.Ended index := by
  cases h with
  | idle => exact absurd rfl hactive
  | @pumping host =>
      left
      cases hinbox : host.inbox with
      | nil => exact ⟨_, .pumped hinbox⟩
      | cons completion rest => exact ⟨_, .receive none hinbox⟩
  | @gathering host round =>
      left
      cases hinbox : host.inbox with
      | nil => exact ⟨_, .gathered round hinbox⟩
      | cons completion rest => exact ⟨_, .receive (some round) hinbox⟩
  | @settling host rounds =>
      left
      by_cases hheld : host.held = []
      · exact ⟨_, .settled rounds hheld⟩
      · exact ⟨_, .take rounds hheld⟩
  | @awaiting host round left hheld hleft hlength =>
      cases left with
      | nil => exact Or.inl ⟨_, .gather host round⟩
      | cons index left =>
          have hlt := hlength index List.mem_cons_self
          have hget := List.getElem?_eq_getElem hlt
          cases hover : host.tasks[index].stage.isOver with
          | true => exact Or.inl ⟨_, .awaited round left hget hover⟩
          | false =>
              refine Or.inr ⟨round, index, left, rfl, ?_⟩
              intro hended
              rw [hended _ hget] at hover
              cases hover

/-- A run of settling, step by step.  The background does what it likes as long as every
task ends sooner or later, by returning or by dying, and the thread of the host goes on
sooner or later if it can go on all the time. -/
structure Settling (host : Host) where
  scene : Nat → Scene
  start : scene 0 = ⟨host, .settling 0⟩
  continues : ∀ n, Continues (scene n) (scene (n + 1))
  works : ∀ n, (∀ m, n ≤ m → ∃ next, Work (scene m) next) →
    ∃ m, n ≤ m ∧ Work (scene m) (scene (m + 1))
  ends : ∀ n index, ∃ m, n ≤ m ∧ (scene m).host.Ended index

namespace Settling

variable {host : Host}

/-- Every point of a run of settling can be reached. -/
theorem reachable (run : Settling host) (h : Reachable ⟨host, .idle⟩) (n : Nat) :
    Reachable (run.scene n) := by
  induction n with
  | zero =>
      rw [run.start]
      exact h.move (.call (.settle host))
  | succ n ih => exact ih.move (run.continues n).move

/-- While the thread does nothing, it stays where it is, and what is over stays over. -/
theorem stands_still (run : Settling host) (h : Reachable ⟨host, .idle⟩) {n : Nat}
    (hnever : ∀ m, n ≤ m → ¬ Work (run.scene m) (run.scene (m + 1))) {k m : Nat} (hk : n ≤ k)
    (hm : k ≤ m) :
    (run.scene m).activity = (run.scene k).activity ∧
      ∀ index, (run.scene k).host.Ended index → (run.scene m).host.Ended index := by
  induction m, hm using Nat.le_induction with
  | base => exact ⟨rfl, fun _ hended => hended⟩
  | succ m hm ih =>
      obtain ⟨hsame, hkept⟩ := ih
      cases run.continues m with
      | work hwork => exact absurd hwork (hnever m (hk.trans hm))
      | progress hprogress hactivity =>
          have hages := hprogress.ages (run.reachable h m).balanced.isAlive
          exact ⟨hactivity.trans hsame, fun index hended => hages.ended (hkept index hended)⟩

/-- As long as the host is not idle, its thread goes on sooner or later: otherwise it would
be held up for ever by a task that is over at some point. -/
theorem works_on (run : Settling host) (h : Reachable ⟨host, .idle⟩) {n : Nat}
    (hactive : ∀ m, n ≤ m → (run.scene m).activity ≠ .idle) :
    ∃ m, n ≤ m ∧ Work (run.scene m) (run.scene (m + 1)) := by
  by_contra hnone
  have hnever : ∀ m, n ≤ m → ¬ Work (run.scene m) (run.scene (m + 1)) :=
    fun m hm hwork => hnone ⟨m, hm, hwork⟩
  -- from some scene on, nothing holds the thread up any more
  obtain ⟨k, hk, hfree⟩ : ∃ k, n ≤ k ∧ ∀ m, k ≤ m → ∀ round index left,
      (run.scene n).activity = .awaiting round (index :: left) →
        (run.scene m).host.Ended index := by
    cases hcase : (run.scene n).activity with
    | idle | pumping | settling => exact ⟨n, le_refl n, by simp⟩
    | awaiting round left =>
        cases left with
        | nil => exact ⟨n, le_refl n, by simp⟩
        | cons index left =>
            obtain ⟨k, hk, hended⟩ := run.ends n index
            refine ⟨k, hk, ?_⟩
            intro m hm round' index' left' heq
            cases heq
            exact (run.stands_still h hnever hk hm).2 index hended
  have hcan : ∀ m, k ≤ m → ∃ next, Work (run.scene m) next := by
    intro m hm
    have hsame := (run.stands_still h hnever (le_refl n) (hk.trans hm)).1
    rcases (run.reachable h m).attended.works_or_awaits (hactive m (hk.trans hm)) with
      hwork | ⟨round, index, left, hcase, hawaited⟩
    · exact hwork
    · rw [hsame] at hcase
      exact absurd (hfree m hm round index left hcase) hawaited
  obtain ⟨m, hm, hwork⟩ := run.works k hcan
  exact hnever m (hk.trans hm) hwork

/-- The rank never rises along a run. -/
theorem rank_le (run : Settling host) (h : Reachable ⟨host, .idle⟩) {n m : Nat} (hm : n ≤ m) :
    (run.scene m).rank ≤ (run.scene n).rank := by
  induction m, hm using Nat.le_induction with
  | base => exact le_refl _
  | succ m hm ih => exact ((run.continues m).rank_le (run.reachable h m).balanced).trans ih

/-- **Settling comes to an end.**  Otherwise the thread would go on for ever, and the rank
would fall for ever. -/
theorem comes_to_rest (run : Settling host) (h : Reachable ⟨host, .idle⟩) :
    ∃ n, (run.scene n).activity = .idle := by
  by_contra hnever
  have hactive : ∀ n, (run.scene n).activity ≠ .idle := fun n hidle => hnever ⟨n, hidle⟩
  have hfalse : ∀ rank n, (run.scene n).rank = rank → False := by
    intro rank
    induction rank using WellFoundedLT.induction with
    | ind rank ih =>
        intro n hrank
        obtain ⟨m, hm, hwork⟩ := run.works_on h (fun m _ => hactive m)
        have hlower := hwork.rank_lt (run.reachable h m).balanced
        have hless := lt_of_lt_of_le hlower (run.rank_le h hm)
        exact ih _ (hrank ▸ hless) (m + 1) rfl
  exact hfalse _ 0 rfl

/-- A run of settling never pumps but at the end of a round, and comes to rest only when
nothing is held. -/
theorem held_of_idle (run : Settling host) (h : Reachable ⟨host, .idle⟩) (n : Nat) :
    (run.scene n).activity ≠ .pumping none ∧
      ((run.scene n).activity = .idle → (run.scene n).host.held = []) := by
  induction n with
  | zero =>
      rw [run.start]
      exact ⟨by simp, by simp⟩
  | succ n ih =>
      have hbalanced := (run.reachable h n).balanced
      cases run.continues n with
      | progress hprogress hactivity =>
          rw [hactivity, (hprogress.ages hbalanced.isAlive).held_eq_nil]
          exact ih
      | work hwork =>
          generalize run.scene n = scene at hwork ih
          generalize run.scene (n + 1) = next at hwork
          cases hwork with
          | receive => exact ⟨ih.1, by simp⟩
          | pumped => exact absurd rfl ih.1
          | gathered | take | awaited | gather => exact ⟨by simp, by simp⟩
          | settled rounds hheld => exact ⟨by simp, fun _ => hheld⟩

end Settling

/-- What is left when settling has come to an end: no task, no answer, and a session that
waits exactly for what is lost.  It waits for that for ever, and nothing more is
requested. -/
structure Settled (scene : Scene) : Prop where
  held : scene.host.held = []
  isOver : ∀ task ∈ scene.host.tasks, task.stage.isOver = true
  inbox : scene.host.inbox = []
  session : ∀ ticket, scene.host.shell.session = .loading ticket ↔ scene.host.HasLost ticket
  stuck : ∀ ticket, scene.host.shell.session = .loading ticket → ∀ later, Moves scene later →
    later.host.shell.session = .loading ticket ∧ later.host.requested = scene.host.requested

/-- **A host that is idle and holds nothing has settled.** -/
theorem Reachable.settled {scene : Scene} (h : scene.Reachable) (hidle : scene.activity = .idle)
    (hheld : scene.host.held = []) : Settled scene := by
  obtain ⟨host, activity⟩ := scene
  obtain rfl := hidle
  have hbalanced : host.Balanced := h.balanced
  obtain ⟨hover, hinbox⟩ : (∀ task ∈ host.tasks, task.stage.isOver = true) ∧ host.inbox = [] := by
    cases h.attended with
    | idle htended hinbox => exact ⟨htended.isOver hheld, by_contra fun hne => hinbox hne hheld⟩
  have hsession := hbalanced.session_iff_hasLost hover hinbox
  refine ⟨hheld, hover, hinbox, hsession, ?_⟩
  intro ticket hloading later hmoves
  obtain ⟨hlost, hrequested⟩ := hmoves.hasLost hbalanced ((hsession ticket).mp hloading)
  exact ⟨(hmoves.balanced hbalanced).session_of_hasLost hlost, hrequested⟩

/-- A run of settling that is idle has come to rest. -/
theorem Settling.settled {host : Host} (run : Settling host) (h : Reachable ⟨host, .idle⟩) {n : Nat}
    (hidle : (run.scene n).activity = .idle) : Settled (run.scene n) :=
  (run.reachable h n).settled hidle ((run.held_of_idle h n).2 hidle)

end Scene

end WorksheetBar
