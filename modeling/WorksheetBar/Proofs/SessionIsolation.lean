import WorksheetBar.Proofs.ShellRun

/-!
# Sessions are kept apart

A profile belongs to the session in which it was asked for.  The history of a run
tells which request a profile answers: `AskedAt` is the step that made the request,
`SignedInSince` says that the user has not been signed out after that step.

The invariant of a run has two halves.  A ticket that is waited for and not abandoned
was issued in the session that still lasts; a profile that is shown answers such a
ticket.  Signing out breaks neither: it abandons the ticket or drops the profile.

* `loaded_in_one_session` — whoever is shown was asked for, and answered, without a
  sign-out since.
-/

namespace WorksheetBar.Shell

/-- Step `i` of the run asks for a profile under the ticket. -/
def AskedAt (shell : Shell) (actions : List Action) (i : Nat) (ticket : Ticket) : Prop :=
  ∃ action, actions[i]? = some action ∧
    Effect.fetchProfile ticket ∈ ((shell.run (actions.take i)).step action).2

/-- The user is signed in at every point of the run after step `i`. -/
def SignedInSince (shell : Shell) (actions : List Action) (i : Nat) : Prop :=
  ∀ k, i < k → k ≤ actions.length → (shell.run (actions.take k)).signedIn = true

/-- Step `j` of the run takes in the profile as the answer to the ticket, while mounted. -/
def TakenInAt (shell : Shell) (actions : List Action) (j : Nat) (ticket : Ticket)
    (profile : Profile) : Prop :=
  actions[j]? = some (.runtime (.fetched ticket (.ok profile))) ∧
    (shell.run (actions.take j)).mounted = true ∧
    (shell.run (actions.take j)).session = .loading ticket ∧
    (shell.run (actions.take (j + 1))).session = .loaded profile

variable {shell : Shell} {actions : List Action} {action : Action} {i j : Nat} {ticket : Ticket}
  {profile : Profile}

theorem AskedAt.lt_length (h : shell.AskedAt actions i ticket) : i < actions.length := by
  obtain ⟨action, hget, _⟩ := h
  exact (List.getElem?_eq_some_iff.mp hget).1

theorem AskedAt.concat (h : shell.AskedAt actions i ticket) (action : Action) :
    shell.AskedAt (actions ++ [action]) i ticket := by
  have hlt := h.lt_length
  obtain ⟨asking, hget, hasks⟩ := h
  refine ⟨asking, ?_, ?_⟩
  · rw [List.getElem?_append_left hlt]
    exact hget
  · rw [List.take_append_of_le_length (by omega)]
    exact hasks

theorem TakenInAt.lt_length (h : shell.TakenInAt actions j ticket profile) :
    j < actions.length :=
  (List.getElem?_eq_some_iff.mp h.1).1

theorem TakenInAt.concat (h : shell.TakenInAt actions j ticket profile) (action : Action) :
    shell.TakenInAt (actions ++ [action]) j ticket profile := by
  have hlt := h.lt_length
  obtain ⟨hget, hmounted, hloading, hloaded⟩ := h
  unfold TakenInAt
  rw [List.getElem?_append_left hlt, List.take_append_of_le_length (by omega),
    List.take_append_of_le_length (by omega)]
  exact ⟨hget, hmounted, hloading, hloaded⟩

/-- A step after which the user is signed in prolongs the time since any step. -/
theorem SignedInSince.concat (h : shell.SignedInSince actions i)
    (hsigned : (shell.run (actions ++ [action])).signedIn = true) :
    shell.SignedInSince (actions ++ [action]) i := by
  intro k hik hk
  by_cases hlast : k ≤ actions.length
  · rw [List.take_append_of_le_length hlast]
    exact h k hik hlast
  · have hall : (actions ++ [action]).length ≤ k := by
      simp only [List.length_append, List.length_singleton]
      omega
    rw [List.take_of_length_le hall]
    exact hsigned

/-- At the end of a run nothing has happened since but the last step. -/
theorem signedInSince_last (hsigned : (shell.run (actions ++ [action])).signedIn = true) :
    shell.SignedInSince (actions ++ [action]) actions.length := by
  intro k hik hk
  have hall : (actions ++ [action]).length ≤ k := by
    simp only [List.length_append, List.length_singleton]
    omega
  rw [List.take_of_length_le hall]
  exact hsigned

/-- Who is signed in since a step is signed in at the end. -/
theorem SignedInSince.signedIn (h : shell.SignedInSince actions i) (hi : i < actions.length) :
    (shell.run actions).signedIn = true := by
  have hend := h actions.length hi (Nat.le_refl _)
  rwa [List.take_length] at hend

/-- The last step asks under the tickets of its effects. -/
theorem askedAt_last
    (hmem : ticket ∈ Effect.tickets ((shell.run actions).step action).2) :
    shell.AskedAt (actions ++ [action]) actions.length ticket := by
  refine ⟨action, by simp, ?_⟩
  rw [List.take_append_of_le_length (Nat.le_refl _), List.take_length]
  exact Effect.mem_tickets.mp hmem

/-- The history behind an errand: what it waits for was asked for in this session, and
what it shows was asked for and taken in there. -/
structure Accounted (shell : Shell) (actions : List Action) (errand : Errand) : Prop where
  loading : ∀ ticket, errand.session = .loading ticket → errand.abandoned ≠ some ticket →
    ∃ i, shell.AskedAt actions i ticket ∧ shell.SignedInSince actions i
  loaded : ∀ profile, errand.session = .loaded profile →
    ∃ i j ticket, i < j ∧ shell.AskedAt actions i ticket ∧
      shell.TakenInAt actions j ticket profile ∧ shell.SignedInSince actions i

/-- A session that holds neither a ticket nor a profile needs no history. -/
theorem accounted_of_notLoaded {errand : Errand} (hsession : errand.session = .notLoaded) :
    shell.Accounted actions errand :=
  ⟨by simp [hsession], by simp [hsession]⟩

/-- A step that leaves the session alone, and does not sign the user out, leaves its
history alone. -/
theorem Accounted.keep {before after : Errand} (h : shell.Accounted actions before)
    (hsession : after.session = before.session) (habandoned : after.abandoned = before.abandoned)
    (hsigned : (shell.run actions).signedIn = true →
      (shell.run (actions ++ [action])).signedIn = true) :
    shell.Accounted (actions ++ [action]) after := by
  constructor
  · intro ticket hloading hkept
    rw [hsession] at hloading
    rw [habandoned] at hkept
    obtain ⟨i, hasked, hsince⟩ := h.loading ticket hloading hkept
    have hbefore := hsince.signedIn hasked.lt_length
    exact ⟨i, hasked.concat action, hsince.concat (hsigned hbefore)⟩
  · intro profile hloaded
    rw [hsession] at hloaded
    obtain ⟨i, j, ticket, hij, hasked, htaken, hsince⟩ := h.loaded profile hloaded
    have hbefore := hsince.signedIn hasked.lt_length
    exact ⟨i, j, ticket, hij, hasked.concat action, htaken.concat action,
      hsince.concat (hsigned hbefore)⟩

/-- A request that the last step begins is accounted for by that step. -/
theorem Accounted.begins {begun after : Errand} {tickets : List Ticket}
    (h : shell.Accounted (actions ++ [action]) begun) (hbegins : Errand.Begins begun after tickets)
    (htickets : Effect.tickets ((shell.run actions).step action).2 = tickets)
    (hafter : (shell.run (actions ++ [action])).signedIn = after.signedIn) :
    shell.Accounted (actions ++ [action]) after := by
  cases hbegins with
  | rests => exact h
  | asks _ hsigned _ =>
      refine ⟨?_, by simp⟩
      intro ticket hloading _
      cases hloading
      have hmem : (⟨begun.nextTicket⟩ : Ticket) ∈
          Effect.tickets ((shell.run actions).step action).2 := by
        rw [htickets]
        exact List.mem_singleton_self _
      exact ⟨actions.length, askedAt_last hmem, signedInSince_last (hafter.trans hsigned)⟩

/-- The answer to what a session waits for is accounted for by the request and itself. -/
theorem Accounted.settles {before : Errand} {result : Except FetchError Profile}
    (h : shell.Accounted actions before) (hbefore : (shell.run actions).errand = before)
    (hafter : (shell.run (actions ++ [.runtime (.fetched ticket result)])).errand =
      { before with session := .ofResult result })
    (hsession : before.session = .loading ticket) (habandoned : before.abandoned ≠ some ticket)
    (hmounted : before.mounted = true) :
    shell.Accounted (actions ++ [.runtime (.fetched ticket result)])
      { before with session := .ofResult result } := by
  cases result with
  | error error => exact ⟨by simp [Session.ofResult], by simp [Session.ofResult]⟩
  | ok answer =>
      refine ⟨by simp [Session.ofResult], ?_⟩
      intro profile hloaded
      cases hloaded
      obtain ⟨i, hasked, hsince⟩ := h.loading ticket hsession habandoned
      have hsignedBefore := hsince.signedIn hasked.lt_length
      have hsigned := (congrArg Errand.signedIn hafter).trans
        ((congrArg Errand.signedIn hbefore).symm.trans hsignedBefore)
      refine ⟨i, actions.length, ticket, hasked.lt_length, hasked.concat _, ?_,
        hsince.concat hsigned⟩
      unfold TakenInAt
      rw [List.take_append_of_le_length (Nat.le_refl _), List.take_length,
        List.take_of_length_le (by simp)]
      exact ⟨by simp, (congrArg Errand.mounted hbefore).trans hmounted,
        (congrArg Errand.session hbefore).trans hsession, congrArg Errand.session hafter⟩

/-- **Each step accounts for what it leaves behind.** -/
theorem Accounted.concat (h : shell.Accounted actions (shell.run actions).errand)
    (action : Action) :
    shell.Accounted (actions ++ [action]) (shell.run (actions ++ [action])).errand := by
  have hturn := shell.run_turn actions action
  generalize hbefore : (shell.run actions).errand = before at hturn h
  generalize hafter : (shell.run (actions ++ [action])).errand = after at hturn
  generalize htickets : Effect.tickets ((shell.run actions).step action).2 = tickets at hturn
  have hsignedBefore : (shell.run actions).signedIn = before.signedIn :=
    congrArg Errand.signedIn hbefore
  have hsignedAfter : (shell.run (actions ++ [action])).signedIn = after.signedIn :=
    congrArg Errand.signedIn hafter
  cases hturn with
  | stays =>
      exact h.keep rfl rfl (fun hsigned => hsignedAfter.trans (hsignedBefore.symm.trans hsigned))
  | mounts _ hbegins =>
      have hsame := hsignedAfter.trans hbegins.signedIn_eq
      have hkept : shell.Accounted (actions ++ [.runtime .mount]) { before with mounted := true } :=
        h.keep rfl rfl (fun hsigned => hsame.trans (hsignedBefore.symm.trans hsigned))
      exact hkept.begins hbegins htickets hsignedAfter
  | unmounts =>
      exact h.keep rfl rfl (fun hsigned => hsignedAfter.trans (hsignedBefore.symm.trans hsigned))
  | signsIn _ hbegins =>
      have hkept : shell.Accounted (actions ++ [.runtime (.setSignedIn true)])
          { before with signedIn := true } :=
        h.keep rfl rfl (fun _ => hsignedAfter.trans hbegins.signedIn_eq)
      exact hkept.begins hbegins htickets hsignedAfter
  | abandons _ hsession =>
      refine ⟨?_, by simp [hsession]⟩
      intro ticket hloading hkept
      cases hsession.symm.trans hloading
      exact absurd rfl hkept
  | forgets => exact accounted_of_notLoaded rfl
  | drops _ _ _ hbegins =>
      exact (accounted_of_notLoaded rfl).begins hbegins htickets hsignedAfter
  | misses => exact accounted_of_notLoaded rfl
  | settles result hsession habandoned hmounted =>
      exact h.settles hbefore hafter hsession habandoned hmounted

/-- **Every run accounts for what its errand waits for and shows.** -/
theorem run_accounted (config : Config) (signedIn : Bool) (actions : List Action) :
    (fresh config signedIn).Accounted actions ((fresh config signedIn).run actions).errand := by
  induction actions using List.reverseRecOn with
  | nil => exact accounted_of_notLoaded rfl
  | append_singleton actions action ih => exact ih.concat action

/-- A ticket is asked for once in a run: what was issued by an earlier step is not issued
again. -/
theorem AskedAt.not_lt {config : Config} {signedIn : Bool} {actions : List Action}
    {i i' : Nat} {ticket : Ticket} (h : (fresh config signedIn).AskedAt actions i ticket)
    (h' : (fresh config signedIn).AskedAt actions i' ticket) : ¬ i' < i := by
  intro hlt
  obtain ⟨action, _, hasks⟩ := h
  obtain ⟨action', hget', hasks'⟩ := h'
  have hunissued := (run_numbered config signedIn (actions.take i)).not_mem_of_asks
    (Effect.mem_tickets.mpr hasks)
  apply hunissued
  have hget : (actions.take i)[i']? = some action' :=
    (List.getElem?_take_of_lt hlt).trans hget'
  obtain ⟨hlength, hvalue⟩ := List.getElem?_eq_some_iff.mp hget
  have hsplit : actions.take i =
      actions.take i' ++ ([action'] ++ (actions.take i).drop (i' + 1)) := by
    calc actions.take i
        = (actions.take i).take i' ++ (actions.take i).drop i' :=
          (List.take_append_drop i' _).symm
      _ = actions.take i' ++ ([action'] ++ (actions.take i).drop (i' + 1)) := by
          rw [List.take_take, Nat.min_eq_left (Nat.le_of_lt hlt),
            List.drop_eq_getElem_cons hlength, hvalue]
          rfl
  rw [hsplit, issued, effects_append, effects_append]
  simp [Effect.mem_tickets.mpr hasks', effects]

/-- **Whoever is shown was asked for in the session that still lasts.**  If a run ends
with a profile, one of its steps asked for it, a later one took it in as the answer to
that request while the shell was mounted, and the user was never signed out in between
or after.  No other step asked under that ticket, so an answer to a request from before
a sign-out is never shown after it. -/
theorem loaded_in_one_session {config : Config} {signedIn : Bool} {actions : List Action}
    {profile : Profile}
    (h : ((fresh config signedIn).run actions).session = .loaded profile) :
    ∃ i j ticket, i < j ∧ (fresh config signedIn).AskedAt actions i ticket ∧
      (fresh config signedIn).TakenInAt actions j ticket profile ∧
      (fresh config signedIn).SignedInSince actions i ∧
      ∀ i', (fresh config signedIn).AskedAt actions i' ticket → i' = i := by
  obtain ⟨i, j, ticket, hij, hasked, htaken, hsince⟩ :=
    (run_accounted config signedIn actions).loaded profile h
  refine ⟨i, j, ticket, hij, hasked, htaken, hsince, ?_⟩
  intro i' hasked'
  have hnotBefore := hasked.not_lt hasked'
  have hnotAfter := hasked'.not_lt hasked
  omega

/-- The user signs out and in again before the first answer comes: the second one is
shown. -/
theorem loaded_in_one_session_relogin :
    let actions : List Action :=
      [.runtime .mount, .runtime (.setSignedIn false), .runtime (.setSignedIn true),
        .runtime (.fetched ⟨1⟩ (.ok (Profile.of "0x1" "eve" []))),
        .runtime (.fetched ⟨2⟩ (.ok (Profile.of "0x2" "ada" [])))]
    ((fresh {} true).run actions).session = .loaded (Profile.of "0x2" "ada" []) ∧
      ∃ i j ticket, i < j ∧ (fresh {} true).AskedAt actions i ticket ∧
        (fresh {} true).TakenInAt actions j ticket (Profile.of "0x2" "ada" []) ∧
        (fresh {} true).SignedInSince actions i ∧
        ∀ i', (fresh {} true).AskedAt actions i' ticket → i' = i :=
  ⟨rfl, loaded_in_one_session rfl⟩

end WorksheetBar.Shell
