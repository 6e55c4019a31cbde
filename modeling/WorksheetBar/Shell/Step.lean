import WorksheetBar.Shell.Action
import WorksheetBar.Shell.Basic
import WorksheetBar.Worksheet

/-!
# One step of the shell

An action changes the shell and yields the effects the host has to carry out, in
order.  A step decides everything and does nothing: it is a function of the state
and the action.

* `step_user_config` / `step_config` — no action touches the configuration.
-/

namespace WorksheetBar.Shell

/-- Asks for a profile if the bar is mounted, its user is signed in and nothing
has been asked for yet. -/
def beginFetch (shell : Shell) : Shell × List Effect :=
  if shell.mounted && shell.signedIn && shell.session.isNotLoaded then
    let ticket : Ticket := ⟨shell.nextTicket⟩
    let asked := { shell with nextTicket := shell.nextTicket + 1, session := .loading ticket }
    (asked.log .debug .session ("fetching profile (ticket " ++ toString ticket.number ++ ")"),
      [.fetchProfile ticket])
  else (shell, [])

/-- Closes the dialog; a frame is due if it was open. -/
def closeDialog (shell : Shell) : Shell × List Effect :=
  match shell.dialog with
  | .closed => (shell, [])
  | .shown _ => ({ shell with dialog := .closed }, [.requestFrame])

/-- Closes the menu; a frame is due if it was open. -/
def closeMenu (shell : Shell) : Shell × List Effect :=
  match shell.menu with
  | .closed => (shell, [])
  | .shown _ => ({ shell with menu := .closed }, [.requestFrame])

/-- Closes an open dialog and sends the command for the name typed into it. -/
def confirmDialog (shell : Shell) : Shell × List Effect :=
  match shell.dialog with
  | .closed => (shell, [])
  | .shown input =>
    let command := Worksheet.newCommand (Worksheet.effectiveName input)
    let closed := { shell with dialog := .closed }
    (closed.log .info .dialog ("dispatching \x60" ++ command ++ "\x60"),
      [.dispatch command, .requestFrame])

/-- Opens the menu at an anchor, or closes it.  Nobody has one while signed out. -/
def toggleMenu (shell : Shell) (anchor : Option Anchor) : Shell × List Effect :=
  if !shell.signedIn then (shell, [])
  else
    match shell.menu with
    | .closed => ({ shell with menu := .shown anchor }, [.requestFrame])
    | .shown _ => ({ shell with menu := .closed }, [.requestFrame])

/-- Acts on a control, if it is visible. -/
def activate (shell : Shell) (control : Control) : Shell × List Effect :=
  if !control.isVisible shell.signedIn then
    (shell.log .debug .shell ("ignored hidden control " ++ control.name), [])
  else
    match control.link? shell.config.links with
    | some path => (shell, [.navigate path])
    | none =>
      match control with
      | .newWorksheet =>
        ({ shell with menu := .closed, dialog := .shown "" }, [.requestFrame])
      | _ => shell.toggleMenu none

/-- A key in the name field: Enter confirms, and the host must not act on it as
well; Escape closes. -/
def pressInName (shell : Shell) (key : FieldKey) : Shell × List Effect :=
  match shell.dialog with
  | .closed => (shell, [])
  | .shown _ =>
    match key with
    | .enter =>
      let (after, effects) := shell.confirmDialog
      (after, .preventDefault :: effects)
    | .escape => shell.closeDialog
    | .other => (shell, [])

/-- Changes what is typed into the dialog, if it is open. -/
def editName (shell : Shell) (value : String) : Shell × List Effect :=
  match shell.dialog with
  | .closed => (shell, [])
  | .shown _ => ({ shell with dialog := .shown value }, [.requestFrame])

/-- Leaves for the profile page. -/
def openProfile (shell : Shell) : Shell × List Effect :=
  if !shell.signedIn then (shell, [])
  else
    ({ shell with menu := .closed },
      [.navigate shell.config.links.accountProfile, .requestFrame])

/-- Asks the host to end the session.  The shell itself stays signed in until it
is told otherwise. -/
def requestSignOut (shell : Shell) : Shell × List Effect :=
  if !shell.signedIn then (shell, [])
  else ({ shell with menu := .closed }, [.signOut, .requestFrame])

/-- A step on something the user does. -/
def stepUser (shell : Shell) : UserAction → Shell × List Effect
  | .activate control => shell.activate control
  | .editName value => shell.editName value
  | .pressInName key => shell.pressInName key
  | .confirmDialog => shell.confirmDialog
  | .cancelDialog | .dismissDialog => shell.closeDialog
  | .toggleMenu anchor => shell.toggleMenu anchor
  | .closeMenu => shell.closeMenu
  | .openProfile => shell.openProfile
  | .signOut => shell.requestSignOut

/-- The shell appears. -/
def mount (shell : Shell) : Shell × List Effect :=
  if shell.mounted then (shell, [])
  else
    let (after, effects) := beginFetch { shell with mounted := true }
    (after, effects ++ [.requestFrame])

/-- The shell disappears, and its popups with it. -/
def unmount (shell : Shell) : Shell × List Effect :=
  if shell.mounted then ({ shell with mounted := false }.closePopups, []) else (shell, [])

/-- Forgets what is known about the user.  A request under way is abandoned. -/
def forget (shell : Shell) : Shell :=
  match shell.session with
  | .loading ticket => { shell with abandoned := some ticket }
  | .notLoaded | .loaded _ | .failed => { shell with session := .notLoaded }

/-- The user has signed in or out. -/
def setSignedIn (shell : Shell) (value : Bool) : Shell × List Effect :=
  if shell.signedIn = value then (shell, [])
  else if value then
    let (after, effects) := beginFetch { shell with signedIn := true }
    (after, effects ++ [.requestFrame])
  else
    ({ shell with signedIn := false }.forget.closePopups, [.requestFrame])

/-- Takes in what a request yielded. -/
def settleFetch (shell : Shell) : Except FetchError Profile → Shell × List Effect
  | .ok profile =>
    ({ shell.log .info .session ("profile loaded for " ++ profile.userName) with
        session := .loaded profile }, [.requestFrame])
  | .error error =>
    ({ shell.log .warn .session ("profile fetch failed: " ++ error.message) with
        session := .failed }, [.requestFrame])

/-- An answer has arrived.  It is dropped if the session does not wait for it, if
it was abandoned, or if the bar is gone; after an abandoned one a request that had
to wait for it may begin. -/
def fetched (shell : Shell) (ticket : Ticket) (result : Except FetchError Profile) :
    Shell × List Effect :=
  let number := toString ticket.number
  if shell.session.ticket? ≠ some ticket then
    (shell.log .debug .session ("discarded stale profile response " ++ number), [])
  else if shell.abandoned = some ticket then
    let dropped := { shell with abandoned := none, session := .notLoaded }
    let logged := dropped.log .debug .session
      ("discarded profile response " ++ number ++ " from a signed-out session")
    let (after, effects) := logged.beginFetch
    (after, if effects.isEmpty then [] else effects ++ [.requestFrame])
  else if !shell.mounted then
    ({ shell with session := .notLoaded }.log .debug .session
      ("discarded profile response " ++ number ++ " after unmount"), [])
  else shell.settleFetch result

/-- A step on something that happens around the bar. -/
def stepRuntime (shell : Shell) : RuntimeAction → Shell × List Effect
  | .mount => shell.mount
  | .unmount => shell.unmount
  | .setSignedIn value => shell.setSignedIn value
  | .fetched ticket result => shell.fetched ticket result

/-- A step. -/
def step (shell : Shell) : Action → Shell × List Effect
  | .user action => shell.stepUser action
  | .runtime action => shell.stepRuntime action

@[simp] theorem log_config (shell : Shell) (level : Journal.Level) (topic : Journal.Topic)
    (message : String) : (shell.log level topic message).config = shell.config := rfl

@[simp] theorem beginFetch_config (shell : Shell) :
    shell.beginFetch.1.config = shell.config := by
  unfold beginFetch
  split <;> rfl

@[simp] theorem forget_config (shell : Shell) : shell.forget.config = shell.config := by
  unfold forget
  split <;> rfl

theorem confirmDialog_config (shell : Shell) :
    shell.confirmDialog.1.config = shell.config := by
  unfold confirmDialog
  split <;> rfl

theorem closeDialog_config (shell : Shell) : shell.closeDialog.1.config = shell.config := by
  unfold closeDialog
  split <;> rfl

theorem toggleMenu_config (shell : Shell) (anchor : Option Anchor) :
    (shell.toggleMenu anchor).1.config = shell.config := by
  unfold toggleMenu
  split
  · rfl
  · split <;> rfl

theorem step_user_config (shell : Shell) (action : UserAction) :
    (shell.stepUser action).1.config = shell.config := by
  cases action with
  | activate control =>
      simp only [stepUser, activate]
      split
      · rfl
      · split
        · rfl
        · split
          · rfl
          · exact toggleMenu_config shell none
  | pressInName key =>
      simp only [stepUser, pressInName]
      split
      · rfl
      · split
        · exact confirmDialog_config shell
        · exact closeDialog_config shell
        · rfl
  | confirmDialog => exact confirmDialog_config shell
  | cancelDialog | dismissDialog => exact closeDialog_config shell
  | toggleMenu anchor => exact toggleMenu_config shell anchor
  | editName _ | closeMenu | openProfile | signOut =>
      simp only [stepUser, editName, closeMenu, openProfile, requestSignOut]
      split <;> rfl

/-- **No step changes the configuration.** -/
theorem step_config (shell : Shell) (action : Action) :
    (shell.step action).1.config = shell.config := by
  cases action with
  | user action => exact step_user_config shell action
  | runtime action =>
      cases action with
      | mount => simp only [step, stepRuntime, mount]; split <;> simp
      | unmount => simp only [step, stepRuntime, unmount]; split <;> rfl
      | setSignedIn value =>
          simp only [step, stepRuntime, setSignedIn]
          split
          · rfl
          · split <;> simp [closePopups]
      | fetched ticket result =>
          simp only [step, stepRuntime, fetched]
          split
          · rfl
          · split
            · simp
            · split
              · rfl
              · cases result <;> rfl

end WorksheetBar.Shell
