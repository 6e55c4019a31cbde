import WorksheetBar.Proofs.SessionIsolation

/-!
# Nothing is asked for twice

A request spends the errand of a shell: whatever becomes of it, no other one begins.
Two things give the errand back.  The user signs out, or the answer is missed because
the shell is not mounted when it comes.  A failure does not, and neither does coming
and going, being told again what is known, or an answer that nobody waits for.

* `Turn.spent` — a turn that does neither leaves a spent errand spent;
* `spent_of_le` — so it stays spent over any stretch of a run without the two;
* `no_retry` — between two requests lies one of the two, and an answer that was taken
  in, good or bad, is kept until the user signs out.
-/

namespace WorksheetBar

namespace Errand

/-- Something has been asked for, and its answer will count if it comes. -/
structure Spent (errand : Errand) : Prop where
  asked : errand.session ≠ .notLoaded
  kept : errand.abandoned = none

/-- The turn signs the user out. -/
def SignsOut (errand : Errand) (action : Action) : Prop :=
  action = .runtime (.setSignedIn false) ∧ errand.signedIn = true

/-- The turn misses the answer that the session waits for. -/
def Misses (errand : Errand) (action : Action) : Prop :=
  ∃ ticket result, action = .runtime (.fetched ticket result) ∧
    errand.session = .loading ticket ∧ errand.mounted = false

variable {errand after : Errand} {action : Action} {tickets : List Ticket}

/-- The guard asks for nothing more once something has been asked for. -/
theorem Begins.rests_of_asked (h : Begins errand after tickets)
    (hasked : errand.session ≠ .notLoaded) : after = errand ∧ tickets = [] := by
  cases h with
  | rests => exact ⟨rfl, rfl⟩
  | asks _ _ hsession => exact absurd hsession hasked

/-- Where nothing has been asked for, nothing is abandoned. -/
theorem Sound.abandoned_eq_none (hsound : errand.Sound) (hsession : errand.session = .notLoaded) :
    errand.abandoned = none := by
  cases habandoned : errand.abandoned with
  | none => rfl
  | some ticket =>
      have hloading := hsound.pending ticket habandoned
      rw [hsession] at hloading
      cases hloading

/-- After a request has begun the errand is spent. -/
theorem Begins.spent (h : Begins errand after tickets) (hkept : errand.abandoned = none)
    (hasks : tickets ≠ []) : after.Spent := by
  cases h with
  | rests => exact absurd rfl hasks
  | asks => exact ⟨by simp, hkept⟩

/-- **A turn that asks spends the errand.** -/
theorem Turn.spent_of_asks (h : Turn errand action after tickets) (hsound : errand.Sound)
    (hasks : tickets ≠ []) : after.Spent := by
  cases h with
  | mounts _ hbegins | signsIn _ hbegins =>
      by_cases hsession : errand.session = .notLoaded
      · exact hbegins.spent (hsound.abandoned_eq_none hsession) hasks
      · exact absurd (hbegins.rests_of_asked hsession).2 hasks
  | drops _ _ _ hbegins => exact hbegins.spent rfl hasks
  | stays | unmounts | abandons | forgets | misses | settles => exact absurd rfl hasks

/-- While the errand is spent, nothing is asked for. -/
theorem Turn.tickets_of_spent (h : Turn errand action after tickets) (hspent : errand.Spent) :
    tickets = [] := by
  cases h with
  | mounts _ hbegins | signsIn _ hbegins => exact (hbegins.rests_of_asked hspent.asked).2
  | drops _ _ habandoned =>
      rw [hspent.kept] at habandoned
      cases habandoned
  | stays | unmounts | abandons | forgets | misses | settles => rfl

/-- **A spent errand stays spent**, unless the user signs out or the answer is missed. -/
theorem Turn.spent (h : Turn errand action after tickets) (hspent : errand.Spent)
    (hsignsOut : ¬ errand.SignsOut action) (hmisses : ¬ errand.Misses action) : after.Spent := by
  cases h with
  | stays => exact hspent
  | unmounts => exact ⟨hspent.asked, hspent.kept⟩
  | mounts _ hbegins | signsIn _ hbegins =>
      rw [(hbegins.rests_of_asked hspent.asked).1]
      exact ⟨hspent.asked, hspent.kept⟩
  | abandons hsigned | forgets hsigned => exact absurd ⟨rfl, hsigned⟩ hsignsOut
  | drops _ _ habandoned =>
      rw [hspent.kept] at habandoned
      cases habandoned
  | misses result hsession _ hmounted =>
      exact absurd ⟨_, result, rfl, hsession, hmounted⟩ hmisses
  | settles result => exact ⟨by cases result <;> simp [Session.ofResult], hspent.kept⟩

/-- Once an answer was taken in, nothing is asked for. -/
theorem Turn.tickets_of_answered (h : Turn errand action after tickets)
    (hasked : errand.session ≠ .notLoaded) (hanswered : errand.session.ticket? = none) :
    tickets = [] := by
  cases h with
  | stays | unmounts | abandons | forgets | misses | settles => rfl
  | mounts _ hbegins | signsIn _ hbegins => exact (hbegins.rests_of_asked hasked).2
  | drops _ hsession => simp [hsession, Session.ticket?] at hanswered

/-- **An answer that was taken in is kept**, good or bad, unless the user signs out. -/
theorem Turn.session_of_answered (h : Turn errand action after tickets)
    (hasked : errand.session ≠ .notLoaded) (hanswered : errand.session.ticket? = none)
    (hsignsOut : ¬ errand.SignsOut action) : after.session = errand.session := by
  cases h with
  | stays | unmounts => rfl
  | mounts _ hbegins | signsIn _ hbegins => exact hbegins.session_eq hasked
  | abandons hsigned | forgets hsigned => exact absurd ⟨rfl, hsigned⟩ hsignsOut
  | drops _ hsession | misses _ hsession | settles _ hsession =>
      simp [hsession, Session.ticket?] at hanswered

end Errand

namespace Shell

/-- Step `k` of the run signs the user out. -/
def SignedOutAt (shell : Shell) (actions : List Action) (k : Nat) : Prop :=
  actions[k]? = some (.runtime (.setSignedIn false)) ∧
    (shell.run (actions.take k)).signedIn = true

/-- Step `k` of the run brings the answer that the session waits for while the shell is
not mounted. -/
def MissedAt (shell : Shell) (actions : List Action) (k : Nat) : Prop :=
  ∃ ticket result, actions[k]? = some (.runtime (.fetched ticket result)) ∧
    (shell.run (actions.take k)).session = .loading ticket ∧
    (shell.run (actions.take k)).mounted = false

variable {shell : Shell} {actions : List Action} {action : Action} {i j k : Nat}

/-- Step `k` of a run is a turn. -/
theorem turn_at (hget : actions[k]? = some action) :
    Errand.Turn (shell.run (actions.take k)).errand action
      (shell.run (actions.take (k + 1))).errand
      (Effect.tickets ((shell.run (actions.take k)).step action).2) := by
  rw [run_take_succ hget]
  exact step_turn _ action

/-- The step of a run signs the user out if the errand is ended by it. -/
theorem signsOut_iff (hget : actions[k]? = some action) :
    (shell.run (actions.take k)).errand.SignsOut action ↔ shell.SignedOutAt actions k := by
  rw [SignedOutAt, hget, Option.some_inj]
  rfl

/-- The step of a run misses an answer if its errand does. -/
theorem misses_iff (hget : actions[k]? = some action) :
    (shell.run (actions.take k)).errand.Misses action ↔ shell.MissedAt actions k := by
  simp only [MissedAt, hget, Option.some_inj]
  rfl

/-- A step that asks leaves the errand spent. -/
theorem AskedAt.spent {ticket : Ticket} (h : shell.AskedAt actions i ticket)
    (hsound : (shell.run (actions.take i)).errand.Sound) :
    (shell.run (actions.take (i + 1))).errand.Spent := by
  obtain ⟨action, hget, hasks⟩ := h
  refine (turn_at hget).spent_of_asks hsound ?_
  exact List.ne_nil_of_mem (Effect.mem_tickets.mpr hasks)

/-- A step that asks finds the errand unspent. -/
theorem AskedAt.not_spent {ticket : Ticket} (h : shell.AskedAt actions j ticket) :
    ¬ (shell.run (actions.take j)).errand.Spent := by
  intro hspent
  obtain ⟨action, hget, hasks⟩ := h
  have hmem := Effect.mem_tickets.mpr hasks
  rw [(turn_at hget).tickets_of_spent hspent] at hmem
  cases hmem

/-- **The errand stays spent** over a stretch of the run without a sign-out and without a
missed answer. -/
theorem spent_of_le (hspent : (shell.run (actions.take i)).errand.Spent) (hij : i ≤ j)
    (hnone : ∀ k, i ≤ k → k < j → ¬ (shell.SignedOutAt actions k ∨ shell.MissedAt actions k)) :
    (shell.run (actions.take j)).errand.Spent := by
  refine run_of_le (P := fun shell => shell.errand.Spent) hij ?_ hspent
  intro k action hik hkj hget hbefore
  have hquiet := hnone k hik hkj
  refine (turn_at hget).spent hbefore ?_ ?_
  · intro hsignsOut
    exact hquiet (Or.inl ((signsOut_iff hget).mp hsignsOut))
  · intro hmisses
    exact hquiet (Or.inr ((misses_iff hget).mp hmisses))

/-- **An answer that was taken in is kept** over a stretch of the run without a sign-out. -/
theorem session_of_le (hasked : (shell.run (actions.take i)).session ≠ .notLoaded)
    (hanswered : (shell.run (actions.take i)).session.ticket? = none) (hij : i ≤ j)
    (hnone : ∀ k, i ≤ k → k < j → ¬ shell.SignedOutAt actions k) :
    (shell.run (actions.take j)).session = (shell.run (actions.take i)).session := by
  refine run_of_le (P := fun later => later.session = (shell.run (actions.take i)).session) hij
    ?_ rfl
  intro k action hik hkj hget hbefore
  rw [← hbefore] at hasked hanswered ⊢
  refine (turn_at hget).session_of_answered hasked hanswered ?_
  intro hsignsOut
  exact hnone k hik hkj ((signsOut_iff hget).mp hsignsOut)

/-- **There is no retry.**  Between any two steps of a run that ask for a profile, the user
signs out or an answer that was waited for is missed; and no step asks twice.  Once a
profile or a failure was taken in, the session keeps it, and nothing is asked for, until
the user signs out. -/
theorem no_retry (config : Config) (signedIn : Bool) (actions : List Action) :
    let shell := fresh config signedIn
    (∀ i j ticket ticket', i < j → shell.AskedAt actions i ticket →
      shell.AskedAt actions j ticket' →
      ∃ k, i < k ∧ k < j ∧ (shell.SignedOutAt actions k ∨ shell.MissedAt actions k)) ∧
    (∀ k action, actions[k]? = some action →
      (Effect.tickets ((shell.run (actions.take k)).step action).2).length ≤ 1) ∧
    ∀ i j, i ≤ j →
      ((∃ profile, (shell.run (actions.take i)).session = .loaded profile) ∨
        (shell.run (actions.take i)).session = .failed) →
      (∀ k, i ≤ k → k < j → ¬ shell.SignedOutAt actions k) →
      (shell.run (actions.take j)).session = (shell.run (actions.take i)).session ∧
        ∀ ticket, ¬ shell.AskedAt actions j ticket := by
  intro shell
  refine ⟨?_, ?_, ?_⟩
  · intro i j ticket ticket' hij hfirst hsecond
    by_contra hnone
    have hspent := hfirst.spent (run_errand_sound config signedIn (actions.take i))
    refine hsecond.not_spent (spent_of_le hspent hij ?_)
    intro k hik hkj hbetween
    exact hnone ⟨k, hik, hkj, hbetween⟩
  · intro k action _
    rcases (step_turn (shell.run (actions.take k)) action).tickets_eq with
      ⟨hnone, _⟩ | ⟨hone, _⟩
    · simp [hnone]
    · simp [hone]
  · intro i j hij hcase hnone
    obtain ⟨hasked, hanswered⟩ : (shell.run (actions.take i)).session ≠ .notLoaded ∧
        (shell.run (actions.take i)).session.ticket? = none := by
      rcases hcase with ⟨profile, hloaded⟩ | hfailed
      · simp [hloaded, Session.ticket?]
      · simp [hfailed, Session.ticket?]
    have hsame := session_of_le hasked hanswered hij hnone
    refine ⟨hsame, ?_⟩
    rintro ticket ⟨action, hget, hasks⟩
    rw [← hsame] at hasked hanswered
    have hmem := Effect.mem_tickets.mpr hasks
    rw [(turn_at hget).tickets_of_answered hasked hanswered] at hmem
    cases hmem

/-- The first answer comes while the shell is away, so it asks again; the second one is a
failure, and that is that. -/
theorem no_retry_missed_then_failed :
    let shell := fresh {} true
    let actions : List Action :=
      [.runtime .mount, .runtime .unmount,
        .runtime (.fetched ⟨1⟩ (.ok (Profile.of "0x1" "eve" []))), .runtime .mount,
        .runtime (.fetched ⟨2⟩ (.error (.transport "timeout"))), .runtime .unmount,
        .runtime .mount, .runtime (.setSignedIn true)]
    (shell.AskedAt actions 0 ⟨1⟩ ∧ shell.AskedAt actions 3 ⟨2⟩ ∧
      ∃ k, 0 < k ∧ k < 3 ∧ (shell.SignedOutAt actions k ∨ shell.MissedAt actions k)) ∧
    (shell.run (actions.take 5)).session = .failed ∧
      (∀ k, 5 ≤ k → k < 7 → ¬ shell.SignedOutAt actions k) ∧
      (shell.run (actions.take 7)).session = .failed ∧
      ∀ ticket, ¬ shell.AskedAt actions 7 ticket := by
  intro shell actions
  obtain ⟨hbetween, _, hkept⟩ := no_retry {} true actions
  have hfirst : shell.AskedAt actions 0 ⟨1⟩ := ⟨_, rfl, List.mem_cons_self⟩
  have hsecond : shell.AskedAt actions 3 ⟨2⟩ := ⟨_, rfl, List.mem_cons_self⟩
  have hnone : ∀ k, 5 ≤ k → k < 7 → ¬ shell.SignedOutAt actions k := by
    rintro k hk hk' ⟨hget, _⟩
    obtain rfl | rfl : k = 5 ∨ k = 6 := by omega
    all_goals simp [actions] at hget
  obtain ⟨hsame, hquiet⟩ := hkept 5 7 (by decide) (Or.inr rfl) hnone
  exact ⟨⟨hfirst, hsecond, hbetween 0 3 ⟨1⟩ ⟨2⟩ (by decide) hfirst hsecond⟩, rfl, hnone, hsame,
    hquiet⟩

end Shell

end WorksheetBar
