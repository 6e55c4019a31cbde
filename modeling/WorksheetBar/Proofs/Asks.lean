import WorksheetBar.Shell.Step

/-!
# What a step may ask of the host

Whatever the state of a shell, a step asks only for what belongs to its action, and only if
the state allows it: a command is sent from an open dialog, a link is followed if its control
is visible, and a profile is asked for, or a session ended, while the user is signed in.

* `step_asks` — a step asks for nothing else;
* `mem_stepRuntime` — so what happens around the bar calls for profiles and frames only;
* `step_of_signOut` — and only a user who signs out ends the session.
-/

namespace WorksheetBar.Shell

/-- What a shell may ask of its host on an action. -/
inductive Asks (shell : Shell) : Action → Effect → Prop
  | frame (action : Action) : Asks shell action .requestFrame
  | keep (hshown : shell.dialog.isShown = true) :
      Asks shell (.user (.pressInName .enter)) .preventDefault
  | send (action : UserAction) (command : String) (hshown : shell.dialog.isShown = true) :
      Asks shell (.user action) (.dispatch command)
  | follow {control : Control} {path : String}
      (hvisible : control.isVisible shell.signedIn = true)
      (hlink : control.link? shell.config.links = some path) :
      Asks shell (.user (.activate control)) (.navigate path)
  | profilePage (hsigned : shell.signedIn = true) :
      Asks shell (.user .openProfile) (.navigate shell.config.links.accountProfile)
  | signOut (hsigned : shell.signedIn = true) : Asks shell (.user .signOut) .signOut
  | fetch (action : RuntimeAction) (ticket : Ticket)
      (hsigned : shell.signedIn = true ∨ action = .setSignedIn true) :
      Asks shell (.runtime action) (.fetchProfile ticket)

variable {shell : Shell} {effect : Effect}

/-- A dialog that is closed asks for a frame at most. -/
theorem closeDialog_asks (h : effect ∈ shell.closeDialog.2) : effect = .requestFrame := by
  unfold closeDialog at h
  split at h
  · cases h
  · exact List.mem_singleton.mp h

/-- A menu that is toggled asks for a frame at most. -/
theorem toggleMenu_asks {anchor : Option Anchor} (h : effect ∈ (shell.toggleMenu anchor).2) :
    effect = .requestFrame := by
  unfold toggleMenu at h
  split at h
  · cases h
  · split at h <;> exact List.mem_singleton.mp h

/-- A dialog that is confirmed asks for its command to be sent. -/
theorem confirmDialog_asks {action : UserAction} (h : effect ∈ shell.confirmDialog.2) :
    shell.Asks (.user action) effect := by
  unfold confirmDialog at h
  split at h
  · cases h
  · next hshown =>
      have hshown : shell.dialog.isShown = true := by rw [hshown, Dialog.isShown]
      rcases List.mem_cons.mp h with rfl | hframe
      · exact .send action _ hshown
      · rw [List.mem_singleton.mp hframe]
        exact .frame _

/-- A click asks for what its control is for. -/
theorem activate_asks {control : Control} (h : effect ∈ (shell.activate control).2) :
    shell.Asks (.user (.activate control)) effect := by
  unfold activate at h
  split at h
  · cases h
  · next hvisible =>
      have hvisible : control.isVisible shell.signedIn = true := by simpa using hvisible
      split at h
      · next hlink =>
          rw [List.mem_singleton.mp h]
          exact .follow hvisible hlink
      · split at h
        · rw [List.mem_singleton.mp h]
          exact .frame _
        · rw [toggleMenu_asks h]
          exact .frame _

/-- A key in the name field asks for what confirming or closing does. -/
theorem pressInName_asks {key : FieldKey} (h : effect ∈ (shell.pressInName key).2) :
    shell.Asks (.user (.pressInName key)) effect := by
  unfold pressInName at h
  split at h
  · cases h
  · next hshown =>
      have hshown : shell.dialog.isShown = true := by rw [hshown, Dialog.isShown]
      cases key with
      | enter =>
          rcases List.mem_cons.mp h with rfl | hconfirm
          · exact .keep hshown
          · exact confirmDialog_asks hconfirm
      | escape =>
          rw [closeDialog_asks h]
          exact .frame _
      | other => cases h

/-- Whatever the user does asks for nothing else. -/
theorem stepUser_asks {action : UserAction} (h : effect ∈ (shell.stepUser action).2) :
    shell.Asks (.user action) effect := by
  cases action with
  | activate control => exact activate_asks h
  | pressInName key => exact pressInName_asks h
  | confirmDialog => exact confirmDialog_asks h
  | cancelDialog | dismissDialog =>
      rw [closeDialog_asks h]
      exact .frame _
  | toggleMenu anchor =>
      rw [toggleMenu_asks h]
      exact .frame _
  | editName _ | closeMenu =>
      simp only [stepUser, editName, closeMenu] at h
      split at h
      · cases h
      · rw [List.mem_singleton.mp h]
        exact .frame _
  | openProfile =>
      simp only [stepUser, openProfile] at h
      split at h
      · cases h
      · next hsigned =>
          rcases List.mem_cons.mp h with rfl | hframe
          · exact .profilePage (by simpa using hsigned)
          · rw [List.mem_singleton.mp hframe]
            exact .frame _
  | signOut =>
      simp only [stepUser, requestSignOut] at h
      split at h
      · cases h
      · next hsigned =>
          rcases List.mem_cons.mp h with rfl | hframe
          · exact .signOut (by simpa using hsigned)
          · rw [List.mem_singleton.mp hframe]
            exact .frame _

/-- The guard lets nothing through while the user is signed out. -/
theorem beginFetch_asks (h : effect ∈ shell.beginFetch.2) :
    shell.signedIn = true ∧ ∃ ticket, effect = .fetchProfile ticket := by
  unfold beginFetch at h
  split at h
  · next hguard =>
      simp only [Bool.and_eq_true] at hguard
      exact ⟨hguard.1.2, _, List.mem_singleton.mp h⟩
  · cases h

/-- What the guard lets through, with a frame after it. -/
theorem begun_asks {action : RuntimeAction} {begun : Shell}
    (h : effect ∈ begun.beginFetch.2 ++ [.requestFrame])
    (hsigned : begun.signedIn = true → shell.signedIn = true ∨ action = .setSignedIn true) :
    shell.Asks (.runtime action) effect := by
  rcases List.mem_append.mp h with hfetch | hframe
  · obtain ⟨hbegun, ticket, rfl⟩ := beginFetch_asks hfetch
    exact .fetch action ticket (hsigned hbegun)
  · rw [List.mem_singleton.mp hframe]
    exact .frame _

/-- What happens around the bar asks for a profile or a frame at most. -/
theorem stepRuntime_asks {action : RuntimeAction} (h : effect ∈ (shell.stepRuntime action).2) :
    shell.Asks (.runtime action) effect := by
  cases action with
  | mount =>
      simp only [stepRuntime, mount] at h
      split at h
      · cases h
      · exact begun_asks h Or.inl
  | unmount =>
      simp only [stepRuntime, unmount] at h
      split at h <;> cases h
  | setSignedIn value =>
      simp only [stepRuntime, setSignedIn] at h
      split at h
      · cases h
      · split at h
        · next hvalue => exact begun_asks h fun _ => Or.inr (by rw [hvalue])
        · rw [List.mem_singleton.mp h]
          exact .frame _
  | fetched ticket result =>
      simp only [stepRuntime, fetched] at h
      split at h
      · cases h
      · split at h
        · split at h
          · cases h
          · exact begun_asks h Or.inl
        · split at h
          · cases h
          · cases result <;>
              · rw [List.mem_singleton.mp h]
                exact .frame _

/-- **A step asks for nothing else.** -/
theorem step_asks {action : Action} (h : effect ∈ (shell.step action).2) :
    shell.Asks action effect := by
  cases action with
  | user action => exact stepUser_asks h
  | runtime action => exact stepRuntime_asks h

/-- What happens around the bar calls for profiles and frames, and for nothing else. -/
theorem mem_stepRuntime {action : RuntimeAction} (h : effect ∈ (shell.stepRuntime action).2) :
    effect = .requestFrame ∨ ∃ ticket, effect = .fetchProfile ticket := by
  cases stepRuntime_asks h with
  | frame => exact Or.inl rfl
  | fetch _ ticket => exact Or.inr ⟨ticket, rfl⟩

/-- Nothing that happens around the bar ends a session. -/
theorem signOut_not_mem_stepRuntime (shell : Shell) (action : RuntimeAction) :
    Effect.signOut ∉ (shell.stepRuntime action).2 :=
  fun h => nomatch stepRuntime_asks h

/-- Of what the user does, only signing out ends a session, and only while signed in. -/
theorem step_of_signOut {action : Action} (h : Effect.signOut ∈ (shell.step action).2) :
    shell.step action = ({ shell with menu := .closed }, [.signOut, .requestFrame]) := by
  cases step_asks h with
  | signOut hsigned => simp [step, stepUser, requestSignOut, hsigned]

/-- What ends a session asks for a frame, and for nothing else. -/
theorem effects_of_signOut {action : Action} (h : Effect.signOut ∈ (shell.step action).2) :
    (shell.step action).2 = [.signOut, .requestFrame] :=
  congrArg Prod.snd (step_of_signOut h)

end WorksheetBar.Shell
