import WorksheetBar.Shell.Step

/-!
# The errand of a shell

Of everything a shell holds, five fields decide about its request for a profile:
whether it is mounted, whether its user is signed in, the session, the abandoned
ticket and the number of the next one.  Together they are the **errand** of the
shell.  The rest (the popups, the journal, the configuration) never comes into it.

`Turn` lists everything a step can do to the errand, one constructor for each way
it can go, and `step_turn` says that there is no other way.  Every invariant of the
request is read off that list; nothing after this file opens the step again.

* `step_turn` — a step is one of the listed turns;
* `Turn.sound` — a turn keeps the errand sound: a mounted shell with a signed-in
  user has asked, and only a pending request is ever abandoned.
-/

namespace WorksheetBar

/-- What decides about the request of a shell. -/
structure Errand where
  mounted : Bool
  signedIn : Bool
  session : Session
  abandoned : Option Ticket
  nextTicket : Nat

/-- The errand of a shell. -/
def Shell.errand (shell : Shell) : Errand :=
  ⟨shell.mounted, shell.signedIn, shell.session, shell.abandoned, shell.nextTicket⟩

/-- The ticket under which an effect asks for a profile. -/
def Effect.ticket? : Effect → Option Ticket
  | fetchProfile ticket => some ticket
  | requestFrame | preventDefault | dispatch _ | navigate _ | signOut => none

/-- The tickets under which some effects ask for a profile, in order. -/
def Effect.tickets (effects : List Effect) : List Ticket := effects.filterMap Effect.ticket?

namespace Effect

@[simp] theorem tickets_nil : tickets [] = [] := rfl

@[simp] theorem tickets_cons (effect : Effect) (effects : List Effect) :
    tickets (effect :: effects) = effect.ticket?.toList ++ tickets effects := by
  cases h : effect.ticket? <;> simp [tickets, h]

@[simp] theorem tickets_append (first second : List Effect) :
    tickets (first ++ second) = tickets first ++ tickets second := by
  simp [tickets]

/-- A ticket is asked under by the effect that fetches a profile. -/
theorem mem_tickets {effects : List Effect} {ticket : Ticket} :
    ticket ∈ tickets effects ↔ Effect.fetchProfile ticket ∈ effects := by
  unfold tickets
  rw [List.mem_filterMap]
  constructor
  · rintro ⟨effect, hmem, hticket⟩
    cases effect with
    | fetchProfile other =>
        have heq : other = ticket := by simpa [ticket?] using hticket
        exact heq ▸ hmem
    | requestFrame | preventDefault | dispatch _ | navigate _ | signOut =>
        simp [ticket?] at hticket
  · intro hmem
    exact ⟨.fetchProfile ticket, hmem, rfl⟩

end Effect

/-- What an action reports about the user. -/
def Action.signedIn? : Action → Option Bool
  | .runtime (.setSignedIn value) => some value
  | .user _ | .runtime _ => none

/-- What an action reports about the shell's being mounted. -/
def Action.mounted? : Action → Option Bool
  | .runtime .mount => some true
  | .runtime .unmount => some false
  | .user _ | .runtime _ => none

/-- What the outcome of a request makes of the session. -/
def Session.ofResult : Except FetchError Profile → Session
  | .ok profile => loaded profile
  | .error _ => failed

/-- A request that has an outcome is under way no more. -/
@[simp] theorem Session.ticket?_ofResult (result : Except FetchError Profile) :
    (Session.ofResult result).ticket? = none := by
  cases result <;> rfl

namespace Errand

/-- What the guard makes of an errand: it asks for a profile exactly if the shell is
mounted, its user is signed in and nothing has been asked for. -/
inductive Begins : Errand → Errand → List Ticket → Prop
  | rests (errand : Errand)
      (hguard : ¬ (errand.mounted = true ∧ errand.signedIn = true ∧
        errand.session = .notLoaded)) :
      Begins errand errand []
  | asks (errand : Errand) (hmounted : errand.mounted = true)
      (hsigned : errand.signedIn = true) (hsession : errand.session = .notLoaded) :
      Begins errand
        { errand with
          session := .loading ⟨errand.nextTicket⟩, nextTicket := errand.nextTicket + 1 }
        [⟨errand.nextTicket⟩]

/-- The actions that leave an errand alone: what the user does, a report of what is
known already, and an answer that nobody waits for. -/
def Ignores (errand : Errand) : Action → Prop
  | .user _ => True
  | .runtime .mount => errand.mounted = true
  | .runtime .unmount => errand.mounted = false
  | .runtime (.setSignedIn value) => errand.signedIn = value
  | .runtime (.fetched ticket _) => errand.session ≠ .loading ticket

/-- Everything a step can do to an errand, with the tickets it asks under. -/
inductive Turn : Errand → Action → Errand → List Ticket → Prop
  | stays (errand : Errand) (action : Action) (hignores : errand.Ignores action) :
      Turn errand action errand []
  | mounts {errand after : Errand} {tickets : List Ticket} (hmounted : errand.mounted = false)
      (hbegins : Begins { errand with mounted := true } after tickets) :
      Turn errand (.runtime .mount) after tickets
  | unmounts (errand : Errand) (hmounted : errand.mounted = true) :
      Turn errand (.runtime .unmount) { errand with mounted := false } []
  | signsIn {errand after : Errand} {tickets : List Ticket} (hsigned : errand.signedIn = false)
      (hbegins : Begins { errand with signedIn := true } after tickets) :
      Turn errand (.runtime (.setSignedIn true)) after tickets
  /-- The user signs out while a request is under way. -/
  | abandons {errand : Errand} {ticket : Ticket} (hsigned : errand.signedIn = true)
      (hsession : errand.session = .loading ticket) :
      Turn errand (.runtime (.setSignedIn false))
        { errand with signedIn := false, abandoned := some ticket } []
  | forgets {errand : Errand} (hsigned : errand.signedIn = true)
      (hsession : errand.session.ticket? = none) :
      Turn errand (.runtime (.setSignedIn false))
        { errand with signedIn := false, session := .notLoaded } []
  /-- The answer to an abandoned request; only now may another one begin. -/
  | drops {errand after : Errand} {tickets : List Ticket} {ticket : Ticket}
      (result : Except FetchError Profile) (hsession : errand.session = .loading ticket)
      (habandoned : errand.abandoned = some ticket)
      (hbegins : Begins { errand with abandoned := none, session := .notLoaded } after tickets) :
      Turn errand (.runtime (.fetched ticket result)) after tickets
  /-- The answer comes while the shell is not mounted. -/
  | misses {errand : Errand} {ticket : Ticket} (result : Except FetchError Profile)
      (hsession : errand.session = .loading ticket)
      (habandoned : errand.abandoned ≠ some ticket) (hmounted : errand.mounted = false) :
      Turn errand (.runtime (.fetched ticket result)) { errand with session := .notLoaded } []
  | settles {errand : Errand} {ticket : Ticket} (result : Except FetchError Profile)
      (hsession : errand.session = .loading ticket)
      (habandoned : errand.abandoned ≠ some ticket) (hmounted : errand.mounted = true) :
      Turn errand (.runtime (.fetched ticket result))
        { errand with session := .ofResult result } []

/-- What holds of an errand all along: once the shell is mounted and its user signed in,
a profile has been asked for, and only a request under way is ever abandoned. -/
structure Sound (errand : Errand) : Prop where
  asked : ¬ (errand.mounted = true ∧ errand.signedIn = true ∧ errand.session = .notLoaded)
  pending : ∀ ticket, errand.abandoned = some ticket → errand.session = .loading ticket

/-- After the guard nothing is left to ask for. -/
theorem Begins.asked {errand after : Errand} {tickets : List Ticket}
    (h : Begins errand after tickets) :
    ¬ (after.mounted = true ∧ after.signedIn = true ∧ after.session = .notLoaded) := by
  cases h with
  | rests hguard => exact hguard
  | asks => simp

/-- The guard leaves a session alone that something has been asked for. -/
theorem Begins.session_eq {errand after : Errand} {tickets : List Ticket}
    (h : Begins errand after tickets) (hpending : errand.session ≠ .notLoaded) :
    after.session = errand.session := by
  cases h with
  | rests => rfl
  | asks hmounted hsigned hsession => exact absurd hsession hpending

theorem Begins.signedIn_eq {errand after : Errand} {tickets : List Ticket}
    (h : Begins errand after tickets) : after.signedIn = errand.signedIn := by
  cases h <;> rfl

theorem Begins.mounted_eq {errand after : Errand} {tickets : List Ticket}
    (h : Begins errand after tickets) : after.mounted = errand.mounted := by
  cases h <;> rfl

theorem Begins.abandoned_eq {errand after : Errand} {tickets : List Ticket}
    (h : Begins errand after tickets) : after.abandoned = errand.abandoned := by
  cases h <;> rfl

/-- What it asks for is under way afterwards. -/
theorem Begins.ticket_toList {errand after : Errand} {tickets : List Ticket}
    (h : Begins errand after tickets) :
    after.session.ticket?.toList = errand.session.ticket?.toList ++ tickets := by
  cases h with
  | rests => simp
  | asks _ _ hsession => simp [hsession, Session.ticket?]

/-- **A turn keeps the errand sound.**  The guard is applied again wherever the shell
comes to be mounted with a signed-in user and nothing asked for: when it is mounted,
when its user signs in, and when an abandoned request has ended. -/
theorem Turn.sound {errand after : Errand} {action : Action} {tickets : List Ticket}
    (h : Turn errand action after tickets) (hsound : errand.Sound) : after.Sound := by
  obtain ⟨hasked, hpending⟩ := hsound
  cases h with
  | stays => exact ⟨hasked, hpending⟩
  | mounts _ hbegins | signsIn _ hbegins =>
      refine ⟨hbegins.asked, ?_⟩
      intro ticket hticket
      rw [hbegins.abandoned_eq] at hticket
      have hloading := hpending ticket hticket
      rw [hbegins.session_eq (by simp [hloading])]
      exact hloading
  | unmounts => exact ⟨by simp, hpending⟩
  | abandons _ hsession =>
      refine ⟨by simp, ?_⟩
      intro ticket hticket
      cases hticket
      exact hsession
  | forgets _ hsession =>
      refine ⟨by simp, ?_⟩
      intro ticket hticket
      simp [hpending ticket hticket, Session.ticket?] at hsession
  | drops _ _ _ hbegins =>
      refine ⟨hbegins.asked, ?_⟩
      intro ticket hticket
      simp [hbegins.abandoned_eq] at hticket
  | misses _ hsession habandoned hmounted | settles _ hsession habandoned hmounted =>
      refine ⟨by cases ‹Except FetchError Profile› <;> simp [hmounted, Session.ofResult], ?_⟩
      intro ticket hticket
      have hloading := hpending ticket hticket
      rw [hsession] at hloading
      cases hloading
      exact absurd hticket habandoned

/-- A turn issues no ticket, and then nothing new is waited for, or it issues the next
one and waits for that. -/
theorem Turn.tickets_eq {errand after : Errand} {action : Action} {tickets : List Ticket}
    (h : Turn errand action after tickets) :
    (tickets = [] ∧ after.nextTicket = errand.nextTicket ∧
        ∀ ticket, after.session = .loading ticket → errand.session = .loading ticket) ∨
      (tickets = [⟨errand.nextTicket⟩] ∧ after.nextTicket = errand.nextTicket + 1 ∧
        after.session = .loading ⟨errand.nextTicket⟩) := by
  cases h with
  | stays | unmounts | abandons => exact Or.inl ⟨rfl, rfl, fun _ hloading => hloading⟩
  | mounts _ hbegins | signsIn _ hbegins | drops _ _ _ hbegins =>
      cases hbegins with
      | rests => exact Or.inl ⟨rfl, rfl, by simp⟩
      | asks => exact Or.inr ⟨rfl, rfl, rfl⟩
  | forgets | misses => exact Or.inl ⟨rfl, rfl, by simp⟩
  | settles result =>
      refine Or.inl ⟨rfl, rfl, ?_⟩
      intro ticket hloading
      cases result <;> cases hloading

/-- Whether the user is signed in is what was reported last. -/
theorem Turn.signedIn_eq {errand after : Errand} {action : Action} {tickets : List Ticket}
    (h : Turn errand action after tickets) :
    after.signedIn = action.signedIn?.getD errand.signedIn := by
  cases h with
  | stays action hignores =>
      match action, hignores with
      | .runtime (.setSignedIn _), hsame => exact hsame
      | .user _, _ | .runtime .mount, _ | .runtime .unmount, _
      | .runtime (.fetched _ _), _ => rfl
  | mounts _ hbegins | signsIn _ hbegins | drops _ _ _ hbegins => exact hbegins.signedIn_eq
  | unmounts | abandons | forgets | misses | settles => rfl

/-- Whether the shell is mounted is what the action says, if it says anything about that. -/
theorem Turn.mounted_eq {errand after : Errand} {action : Action} {tickets : List Ticket}
    (h : Turn errand action after tickets) :
    after.mounted = action.mounted?.getD errand.mounted := by
  cases h with
  | stays action hignores =>
      match action, hignores with
      | .runtime .mount, hmounted | .runtime .unmount, hmounted => exact hmounted
      | .user _, _ | .runtime (.setSignedIn _), _ | .runtime (.fetched _ _), _ => rfl
  | mounts _ hbegins | signsIn _ hbegins | drops _ _ _ hbegins => exact hbegins.mounted_eq
  | unmounts | abandons | forgets | misses | settles => rfl

/-- An action that brings no answer leaves a pending ticket pending, and a session comes
to wait only for the ticket that is asked for. -/
theorem Turn.ticket_of_unanswered {errand after : Errand} {action : Action}
    {tickets : List Ticket} (h : Turn errand action after tickets)
    (haction : ∀ ticket result, action ≠ .runtime (.fetched ticket result)) :
    after.session.ticket?.toList = errand.session.ticket?.toList ++ tickets := by
  cases h with
  | stays | unmounts | abandons => simp
  | mounts _ hbegins | signsIn _ hbegins => exact hbegins.ticket_toList
  | forgets _ hsession =>
      rw [hsession]
      rfl
  | drops result | misses result | settles result => exact absurd rfl (haction _ result)

/-- The answer a session waits for ends the wait.  Another request begins only after an
abandoned one, and nothing is abandoned afterwards. -/
theorem Turn.ticket_of_answered {errand after : Errand} {ticket : Ticket}
    {result : Except FetchError Profile} {tickets : List Ticket}
    (h : Turn errand (.runtime (.fetched ticket result)) after tickets)
    (hsound : errand.Sound) (hsession : errand.session = .loading ticket) :
    after.session.ticket?.toList = tickets ∧ after.abandoned = none ∧
      (tickets = [] ∨ errand.abandoned = some ticket) := by
  have hnone : errand.abandoned ≠ some ticket → errand.abandoned = none := by
    intro hne
    cases hab : errand.abandoned with
    | none => rfl
    | some other =>
        have hloading := hsound.pending other hab
        rw [hsession] at hloading
        cases hloading
        exact absurd hab hne
  cases h with
  | stays _ hignores => exact absurd hsession hignores
  | drops _ _ habandoned hbegins =>
      refine ⟨?_, hbegins.abandoned_eq, Or.inr habandoned⟩
      cases hbegins <;> rfl
  | misses _ _ habandoned => exact ⟨rfl, hnone habandoned, Or.inl rfl⟩
  | settles result _ habandoned => exact ⟨by simp, hnone habandoned, Or.inl rfl⟩

end Errand

namespace Shell

/-- The popups have nothing to do with the errand. -/
@[simp] theorem errand_closePopups (shell : Shell) : shell.closePopups.errand = shell.errand :=
  rfl

/-- The guard of the shell is the guard of its errand. -/
theorem beginFetch_begins (shell : Shell) :
    Errand.Begins shell.errand shell.beginFetch.1.errand (Effect.tickets shell.beginFetch.2) := by
  unfold beginFetch
  split
  · next hguard =>
      have hsession : shell.session = .notLoaded := by
        cases h : shell.session <;> simp [h, Session.isNotLoaded] at hguard ⊢
      have hmounted : shell.mounted = true := by simp_all
      have hsigned : shell.signedIn = true := by simp_all
      exact .asks shell.errand hmounted hsigned hsession
  · next hguard =>
      refine .rests shell.errand ?_
      rintro ⟨hmounted, hsigned, hsession⟩
      apply hguard
      have h : shell.session = .notLoaded := hsession
      rw [h]
      simpa [Session.isNotLoaded] using ⟨hmounted, hsigned⟩

/-- A user action leaves the errand alone and asks for nothing. -/
theorem stepUser_errand (shell : Shell) (action : UserAction) :
    (shell.stepUser action).1.errand = shell.errand ∧
      Effect.tickets (shell.stepUser action).2 = [] := by
  have hclose : shell.closeDialog.1.errand = shell.errand ∧
      Effect.tickets shell.closeDialog.2 = [] := by
    unfold closeDialog
    split <;> exact ⟨rfl, rfl⟩
  have hconfirm : shell.confirmDialog.1.errand = shell.errand ∧
      Effect.tickets shell.confirmDialog.2 = [] := by
    unfold confirmDialog
    split <;> exact ⟨rfl, rfl⟩
  have htoggle : ∀ anchor, (shell.toggleMenu anchor).1.errand = shell.errand ∧
      Effect.tickets (shell.toggleMenu anchor).2 = [] := by
    intro anchor
    unfold toggleMenu
    split
    · exact ⟨rfl, rfl⟩
    · split <;> exact ⟨rfl, rfl⟩
  cases action with
  | activate control =>
      simp only [stepUser, activate]
      split
      · exact ⟨rfl, rfl⟩
      · split
        · exact ⟨rfl, rfl⟩
        · split
          · exact ⟨rfl, rfl⟩
          · exact htoggle none
  | pressInName key =>
      simp only [stepUser, pressInName]
      split
      · exact ⟨rfl, rfl⟩
      · cases key with
        | enter => exact ⟨hconfirm.1, by simpa [Effect.ticket?] using hconfirm.2⟩
        | escape => exact hclose
        | other => exact ⟨rfl, rfl⟩
  | confirmDialog => exact hconfirm
  | cancelDialog | dismissDialog => exact hclose
  | toggleMenu anchor => exact htoggle anchor
  | editName _ | closeMenu | openProfile | signOut =>
      simp only [stepUser, editName, closeMenu, openProfile, requestSignOut]
      split <;> exact ⟨rfl, rfl⟩

/-- An action that the errand ignores and that asks for nothing is a turn. -/
private theorem turn_stays {shell : Shell} {action : Action} {after : Shell}
    {effects : List Effect} (hignores : shell.errand.Ignores action)
    (hstep : shell.step action = (after, effects)) (herrand : after.errand = shell.errand)
    (htickets : Effect.tickets effects = []) :
    Errand.Turn shell.errand action (shell.step action).1.errand
      (Effect.tickets (shell.step action).2) := by
  rw [hstep, herrand, htickets]
  exact .stays shell.errand action hignores

/-- Signing out abandons what is under way and forgets everything else. -/
private theorem turn_forget {shell : Shell} (hsigned : shell.signedIn = true) :
    Errand.Turn shell.errand (.runtime (.setSignedIn false))
      { shell with signedIn := false }.forget.closePopups.errand
      (Effect.tickets [.requestFrame]) := by
  have htickets : Effect.tickets [.requestFrame] = [] := rfl
  rw [htickets, errand_closePopups]
  cases hsession : shell.session with
  | loading ticket =>
      have hturn : Errand.Turn shell.errand (.runtime (.setSignedIn false)) _ _ :=
        .abandons hsigned hsession
      simpa [forget, hsession, errand] using hturn
  | notLoaded | loaded _ | failed =>
      have hunasked : shell.errand.session.ticket? = none := by
        simp [errand, hsession, Session.ticket?]
      have hturn : Errand.Turn shell.errand (.runtime (.setSignedIn false)) _ _ :=
        .forgets hsigned hunasked
      simpa [forget, hsession, errand] using hturn

/-- A frame that is due after a request has begun asks for nothing more. -/
private theorem tickets_framed (effects : List Effect) :
    Effect.tickets (if effects.isEmpty then [] else effects ++ [.requestFrame]) =
      Effect.tickets effects := by
  cases effects <;> simp [Effect.ticket?]

/-- An outcome ends the request and asks for nothing more. -/
private theorem settleFetch_errand (shell : Shell) (result : Except FetchError Profile) :
    (shell.settleFetch result).1.errand =
        { shell.errand with session := .ofResult result } ∧
      Effect.tickets (shell.settleFetch result).2 = [] := by
  cases result <;> exact ⟨rfl, rfl⟩

/-- An answer is unwanted, abandoned, missed or taken in. -/
private theorem turn_fetched (shell : Shell) (ticket : Ticket)
    (result : Except FetchError Profile) :
    Errand.Turn shell.errand (.runtime (.fetched ticket result))
      (shell.step (.runtime (.fetched ticket result))).1.errand
      (Effect.tickets (shell.step (.runtime (.fetched ticket result))).2) := by
  by_cases hsession : shell.session = .loading ticket
  · by_cases habandoned : shell.abandoned = some ticket
    · let dropped := { shell with abandoned := none, session := .notLoaded }
      have hbegins := beginFetch_begins (dropped.log .debug .session
        ("discarded profile response " ++ toString ticket.number ++ " from a signed-out session"))
      have hturn : Errand.Turn shell.errand (.runtime (.fetched ticket result)) _ _ :=
        .drops result hsession habandoned hbegins
      simp only [step, stepRuntime, fetched, hsession, Session.ticket?, habandoned]
      split
      · contradiction
      · simp only [if_pos]
        rw [tickets_framed]
        exact hturn
    · by_cases hmounted : shell.mounted = true
      · have hstep : shell.step (.runtime (.fetched ticket result)) =
            shell.settleFetch result := by
          simp [step, stepRuntime, fetched, hsession, habandoned, hmounted]
        obtain ⟨herrand, htickets⟩ := settleFetch_errand shell result
        rw [hstep, herrand, htickets]
        exact .settles result hsession habandoned hmounted
      · have hstep : shell.step (.runtime (.fetched ticket result)) =
            ({ shell with session := .notLoaded }.log .debug .session
              ("discarded profile response " ++ toString ticket.number ++ " after unmount"),
            []) := by
          simp [step, stepRuntime, fetched, hsession, habandoned, hmounted]
        have hunmounted : shell.mounted = false := by simpa using hmounted
        rw [hstep]
        exact .misses result hsession habandoned hunmounted
  · have hstep : shell.step (.runtime (.fetched ticket result)) =
        (shell.log .debug .session
          ("discarded stale profile response " ++ toString ticket.number), []) := by
      simp [step, stepRuntime, fetched, hsession]
    exact turn_stays hsession hstep rfl rfl

/-- **A step is one of the listed turns.** -/
theorem step_turn (shell : Shell) (action : Action) :
    Errand.Turn shell.errand action (shell.step action).1.errand
      (Effect.tickets (shell.step action).2) := by
  cases action with
  | user action =>
      obtain ⟨herrand, htickets⟩ := stepUser_errand shell action
      exact turn_stays trivial rfl herrand htickets
  | runtime action =>
      cases action with
      | mount =>
          by_cases hmounted : shell.mounted = true
          · have hstep : shell.step (.runtime .mount) = (shell, []) := by
              simp [step, stepRuntime, mount, hmounted]
            exact turn_stays hmounted hstep rfl rfl
          · have hunmounted : shell.mounted = false := by simpa using hmounted
            have hbegins := beginFetch_begins { shell with mounted := true }
            have hturn : Errand.Turn shell.errand (.runtime .mount) _ _ :=
              .mounts hunmounted hbegins
            simpa [step, stepRuntime, mount, hmounted, Effect.ticket?] using hturn
      | unmount =>
          by_cases hmounted : shell.mounted = true
          · have hstep : shell.step (.runtime .unmount) =
                ({ shell with mounted := false }.closePopups, []) := by
              simp [step, stepRuntime, unmount, hmounted]
            rw [hstep]
            exact .unmounts shell.errand hmounted
          · have hstep : shell.step (.runtime .unmount) = (shell, []) := by
              simp [step, stepRuntime, unmount, hmounted]
            have hunmounted : shell.mounted = false := by simpa using hmounted
            exact turn_stays hunmounted hstep rfl rfl
      | setSignedIn value =>
          by_cases hsame : shell.signedIn = value
          · have hstep : shell.step (.runtime (.setSignedIn value)) = (shell, []) := by
              simp [step, stepRuntime, setSignedIn, hsame]
            exact turn_stays hsame hstep rfl rfl
          · cases value with
            | true =>
                have hsigned : shell.signedIn = false := by simpa using hsame
                have hbegins := beginFetch_begins { shell with signedIn := true }
                have hturn : Errand.Turn shell.errand (.runtime (.setSignedIn true)) _ _ :=
                  .signsIn hsigned hbegins
                simpa [step, stepRuntime, setSignedIn, hsame, Effect.ticket?] using hturn
            | false =>
                have hstep : shell.step (.runtime (.setSignedIn false)) =
                    ({ shell with signedIn := false }.forget.closePopups, [.requestFrame]) := by
                  simp [step, stepRuntime, setSignedIn, hsame]
                rw [hstep]
                exact turn_forget (by simpa using hsame)
      | fetched ticket result => exact turn_fetched shell ticket result

end Shell

end WorksheetBar
