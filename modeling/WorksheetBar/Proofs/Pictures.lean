import WorksheetBar.Proofs.Asks
import WorksheetBar.Proofs.ShellRun
import WorksheetBar.Shell.View

/-!
# A change of the picture calls for a frame

Every branch of a step decides by itself whether a frame is due.  Several of them change the
shell and call for none: they touch only what cannot be seen.  A session shows in the picture
by the profile it holds, so a request may begin, be abandoned and be given up unseen; and an
unmounted shell looks like a mounted one.

Only disappearing closes the popups without a frame: by then there is nothing to draw on.

* `step_paints` — a step calls for a frame or leaves the picture alone, unless the bar
  disappears;
* `run_paints` — so does a run;
* `preventDefault_mem_step` — only Enter in the field of an open dialog is to go no further.
-/

namespace WorksheetBar.Shell

/-- The session shows in the picture only by the profile it holds. -/
theorem view_session (shell : Shell) (session : Session)
    (hprofile : session.profile? = shell.session.profile?) :
    ({ shell with session } : Shell).view = shell.view := by
  have hlabel : ∀ control,
      ({ shell with session } : Shell).itemLabel control = shell.itemLabel control := by
    intro control
    cases control with
    | accountMenu =>
        cases hsession : shell.session <;> cases session <;>
          simp_all [itemLabel, Session.profile?]
    | newWorksheet | dashboard | gallery | howTo | contact | signUp | login => rfl
  have hitem : ({ shell with session } : Shell).item = shell.item := by
    funext control
    rw [item, item, hlabel]
  have hname : session.userName? = shell.session.userName? := by
    rw [Session.userName?, hprofile, Session.userName?]
  simp only [view, hitem, hname]

/-- A request begins unseen. -/
theorem beginFetch_view (shell : Shell) : shell.beginFetch.1.view = shell.view := by
  unfold beginFetch
  split
  · next hguard =>
      have hnotLoaded : shell.session.isNotLoaded = true := by simp_all
      have hprofile : shell.session.profile? = none := by
        cases hsession : shell.session <;> simp_all [Session.isNotLoaded, Session.profile?]
      exact view_session shell (.loading ⟨shell.nextTicket⟩) hprofile.symm
  · rfl

/-- A function of the shell calls for a frame or leaves the picture alone. -/
def Paints (shell : Shell) (made : Shell × List Effect) : Prop :=
  .requestFrame ∈ made.2 ∨ made.1.view = shell.view

/-- Closing the dialog calls for a frame if it changes the picture. -/
theorem closeDialog_paints (shell : Shell) : shell.Paints shell.closeDialog := by
  unfold closeDialog
  split
  · exact Or.inr rfl
  · exact Or.inl List.mem_cons_self

/-- Confirming the dialog calls for a frame if it changes the picture. -/
theorem confirmDialog_paints (shell : Shell) : shell.Paints shell.confirmDialog := by
  unfold confirmDialog
  split
  · exact Or.inr rfl
  · exact Or.inl (List.mem_cons_of_mem _ List.mem_cons_self)

/-- Toggling the menu calls for a frame if it changes the picture. -/
theorem toggleMenu_paints (shell : Shell) (anchor : Option Anchor) :
    shell.Paints (shell.toggleMenu anchor) := by
  unfold toggleMenu
  split
  · exact Or.inr rfl
  · split <;> exact Or.inl List.mem_cons_self

/-- A hidden control and a link leave the picture alone. -/
theorem activate_paints (shell : Shell) (control : Control) :
    shell.Paints (shell.activate control) := by
  unfold activate
  split
  · exact Or.inr rfl
  · split
    · exact Or.inr rfl
    · split
      · exact Or.inl List.mem_cons_self
      · exact toggleMenu_paints shell none

/-- A key in the name field calls for a frame if it changes the picture. -/
theorem pressInName_paints (shell : Shell) (key : FieldKey) :
    shell.Paints (shell.pressInName key) := by
  unfold pressInName
  split
  · exact Or.inr rfl
  · cases key with
    | enter => exact (confirmDialog_paints shell).imp_left (List.mem_cons_of_mem _)
    | escape => exact closeDialog_paints shell
    | other => exact Or.inr rfl

/-- Whatever the user does calls for a frame if it changes the picture. -/
theorem stepUser_paints (shell : Shell) (action : UserAction) :
    shell.Paints (shell.stepUser action) := by
  cases action with
  | activate control => exact activate_paints shell control
  | pressInName key => exact pressInName_paints shell key
  | confirmDialog => exact confirmDialog_paints shell
  | cancelDialog | dismissDialog => exact closeDialog_paints shell
  | toggleMenu anchor => exact toggleMenu_paints shell anchor
  | editName _ | closeMenu =>
      simp only [stepUser, editName, closeMenu]
      split
      · exact Or.inr rfl
      · exact Or.inl List.mem_cons_self
  | openProfile | signOut =>
      simp only [stepUser, openProfile, requestSignOut]
      split
      · exact Or.inr rfl
      · exact Or.inl (List.mem_cons_of_mem _ List.mem_cons_self)

/-- An answer that is dropped leaves the picture alone, and so does the request that had to
wait for it. -/
theorem fetched_paints (shell : Shell) (ticket : Ticket) (result : Except FetchError Profile) :
    shell.Paints (shell.fetched ticket result) := by
  have hforgotten : shell.session.ticket? = some ticket →
      ({ shell with session := .notLoaded } : Shell).view = shell.view := by
    intro hwaits
    apply view_session
    rw [Session.ticket?_eq_some.mp hwaits]
    rfl
  unfold fetched
  dsimp only
  split
  · exact Or.inr rfl
  · next hwaits =>
      have hforgotten := hforgotten (not_not.mp hwaits)
      split
      · exact Or.inr ((beginFetch_view _).trans hforgotten)
      · split
        · exact Or.inr hforgotten
        · cases result <;> exact Or.inl List.mem_cons_self

/-- **A step calls for a frame or leaves the picture alone**, unless the bar disappears. -/
theorem step_paints (shell : Shell) {action : Action} (haction : action ≠ .runtime .unmount) :
    shell.Paints (shell.step action) := by
  cases action with
  | user action => exact stepUser_paints shell action
  | runtime action =>
      cases action with
      | mount =>
          simp only [step, stepRuntime, mount]
          split
          · exact Or.inr rfl
          · exact Or.inl (List.mem_append_right _ List.mem_cons_self)
      | unmount => exact absurd rfl haction
      | setSignedIn value =>
          simp only [step, stepRuntime, setSignedIn]
          split
          · exact Or.inr rfl
          · split
            · exact Or.inl (List.mem_append_right _ List.mem_cons_self)
            · exact Or.inl List.mem_cons_self
      | fetched ticket result => exact fetched_paints shell ticket result

/-- **A run in which the shell is not unmounted calls for a frame if it changes the picture.** -/
theorem run_paints (shell : Shell) {actions : List Action}
    (hactions : .runtime .unmount ∉ actions) :
    .requestFrame ∈ shell.effects actions ∨ (shell.run actions).view = shell.view := by
  induction actions using List.reverseRecOn with
  | nil => exact Or.inr rfl
  | append_singleton actions action ih =>
      rw [effects_append, effects_singleton, run_concat]
      have hlast : action ≠ .runtime .unmount := by
        rintro rfl
        exact hactions (List.mem_append_right _ List.mem_cons_self)
      rcases ih fun hmem => hactions (List.mem_append_left _ hmem) with hframe | hsame
      · exact Or.inl (List.mem_append_left _ hframe)
      · rcases step_paints (shell.run actions) hlast with hframe | hkept
        · exact Or.inl (List.mem_append_right _ hframe)
        · exact Or.inr (hkept.trans hsame)

/-- **Only Enter in the field of an open dialog is to go no further.** -/
theorem preventDefault_mem_step {shell : Shell} {action : Action} :
    .preventDefault ∈ (shell.step action).2 ↔
      action = .user (.pressInName .enter) ∧ shell.dialog.isShown = true := by
  constructor
  · intro h
    cases step_asks h with
    | keep hshown => exact ⟨rfl, hshown⟩
  · rintro ⟨rfl, hshown⟩
    simp only [step, stepUser, pressInName]
    split
    · next hclosed => rw [hclosed, Dialog.isShown] at hshown; cases hshown
    · exact List.mem_cons_self

/-- Only Enter in the name field is kept from going further. -/
theorem preventDefault_not_mem_effects (shell : Shell) {actions : List Action}
    (hactions : .user (.pressInName .enter) ∉ actions) :
    .preventDefault ∉ shell.effects actions := by
  induction actions generalizing shell with
  | nil => exact List.not_mem_nil
  | cons action rest ih =>
      intro hmem
      rcases List.mem_append.mp hmem with hfirst | hlater
      · obtain ⟨rfl, _⟩ := preventDefault_mem_step.mp hfirst
        exact hactions List.mem_cons_self
      · exact ih _ (fun hrest => hactions (List.mem_cons_of_mem _ hrest)) hlater

end WorksheetBar.Shell
