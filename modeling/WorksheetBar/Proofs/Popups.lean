import WorksheetBar.Proofs.ShellRun

/-!
# What a step does to the popups

For the dialog there are two kinds of action that count besides typing: those that open
it and those that close it.  For the account menu there are those that toggle it and those
that close it.  `step_dialog` says what becomes of the dialog, and which command a step
sends for it, and `step_menu` what becomes of the menu; nothing else ever touches them.

A popup belongs to a signed-in user: whatever happens, a shell whose user is signed out
has none.

* `step_dialog` — a step opens the dialog, closes it, or types into it, and it sends a
  command exactly if it confirms an open dialog;
* `step_menu` — a step toggles the menu, closes it, or leaves it alone;
* `run_unattended` — nothing is open while the user is signed out.
-/

namespace WorksheetBar

/-- The command that an effect sends. -/
def Effect.command? : Effect → Option String
  | dispatch command => some command
  | requestFrame | preventDefault | fetchProfile _ | navigate _ | signOut => none

/-- The commands that some effects send, in order. -/
def Effect.commands (effects : List Effect) : List String := effects.filterMap Effect.command?

namespace Effect

@[simp] theorem commands_nil : commands [] = [] := rfl

@[simp] theorem commands_cons (effect : Effect) (effects : List Effect) :
    commands (effect :: effects) = effect.command?.toList ++ commands effects := by
  rw [commands, commands, List.filterMap_cons]
  cases effect.command? <;> rfl

@[simp] theorem commands_append (first second : List Effect) :
    commands (first ++ second) = commands first ++ commands second := by
  simp [commands]

end Effect

namespace Action

/-- What an action types into the name field. -/
def typed? : Action → Option String
  | .user (.editName value) => some value
  | .user _ | .runtime _ => none

/-- Whether an action is a click on the control for a new worksheet. -/
def activatesNew : Action → Bool
  | .user (.activate .newWorksheet) => true
  | .user _ | .runtime _ => false

/-- Whether an action confirms what stands in the name field. -/
def confirms : Action → Bool
  | .user .confirmDialog | .user (.pressInName .enter) => true
  | .user _ | .runtime _ => false

/-- The anchor at which an action toggles the account menu. -/
def toggled? : Action → Option (Option Anchor)
  | .user (.toggleMenu anchor) => some anchor
  | .user (.activate .accountMenu) => some none
  | .user _ | .runtime _ => none

end Action

namespace Dialog

/-- The command that confirming the dialog sends. -/
def command? : Dialog → Option String
  | closed => none
  | shown input => some ("new " ++ Worksheet.effectiveName input)

/-- The dialog after something was typed, or not; a closed one takes nothing in. -/
def type (dialog : Dialog) (typed : Option String) : Dialog :=
  match dialog with
  | .closed => .closed
  | .shown input => .shown (typed.getD input)

/-- Where nothing is typed, the dialog stays as it is. -/
@[simp] theorem type_none (dialog : Dialog) : dialog.type none = dialog := by
  cases dialog <;> rfl

end Dialog

/-- The account menu after it was toggled, or not. -/
def AccountMenu.toggle (menu : AccountMenu) (toggled : Option (Option Anchor)) : AccountMenu :=
  match menu, toggled with
  | _, none => menu
  | .closed, some anchor => .shown anchor
  | .shown _, some _ => .closed

/-- Where nothing is toggled, so does the menu. -/
@[simp] theorem AccountMenu.toggle_none (menu : AccountMenu) : menu.toggle none = menu := by
  cases menu <;> rfl

/-- The two things that can be open over the bar. -/
inductive Popup where
  | dialog
  | menu
  deriving DecidableEq, Repr

namespace Shell

/-- Whether a popup is open. -/
def shows (shell : Shell) : Popup → Bool
  | .dialog => shell.dialog.isShown
  | .menu => shell.menu.isShown

/-- Whether an action opens the dialog. -/
def opens (shell : Shell) (action : Action) : Bool := action.activatesNew && shell.signedIn

/-- Whether an action closes the dialog if it is open: the user is done with it, the shell
disappears, or the user is signed out. -/
def closes (shell : Shell) : Action → Bool
  | .user .confirmDialog | .user .cancelDialog | .user .dismissDialog
  | .user (.pressInName .enter) | .user (.pressInName .escape) => true
  | .runtime .unmount => shell.mounted
  | .runtime (.setSignedIn value) => shell.signedIn && !value
  | .user _ | .runtime _ => false

/-- What becomes of the dialog when an action is taken. -/
def dialogAfter (shell : Shell) (action : Action) : Dialog :=
  if shell.opens action then .shown ""
  else if shell.closes action then .closed
  else shell.dialog.type action.typed?

/-- Whether an action closes the account menu if it is open: the user is done with it or opens
the dialog, the shell disappears, or the user is signed out. -/
def closesMenu (shell : Shell) : Action → Bool
  | .user .closeMenu => true
  | .user (.activate .newWorksheet) | .user .openProfile | .user .signOut => shell.signedIn
  | .runtime .unmount => shell.mounted
  | .runtime (.setSignedIn value) => shell.signedIn && !value
  | .user _ | .runtime _ => false

/-- What becomes of the account menu when an action is taken.  Only a signed-in user has
one. -/
def menuAfter (shell : Shell) (action : Action) : AccountMenu :=
  if shell.closesMenu action then .closed
  else if shell.signedIn then shell.menu.toggle action.toggled?
  else shell.menu

/-- Whether an action opens a popup. -/
def brings (shell : Shell) (action : Action) : Popup → Bool
  | .dialog => shell.opens action
  | .menu => shell.signedIn && action.toggled?.isSome && !shell.menu.isShown

/-- Whether an action closes a popup if it is open. -/
def removes (shell : Shell) (action : Action) : Popup → Bool
  | .dialog => shell.closes action
  | .menu => shell.closesMenu action ||
      shell.signedIn && action.toggled?.isSome && shell.menu.isShown

/-- The command that is sent when an action is taken, as a list. -/
def commandsOf (shell : Shell) (action : Action) : List String :=
  if action.confirms then shell.dialog.command?.toList else []

section

variable {shell : Shell} {action : Action}

theorem dialogAfter_eq_self (hnew : action.activatesNew = false)
    (hcloses : shell.closes action = false) (htyped : action.typed? = none) :
    shell.dialogAfter action = shell.dialog := by
  simp [dialogAfter, opens, hnew, hcloses, htyped]

/-- The dialog is closed after an action that closes it. -/
theorem dialogAfter_eq_closed (hnew : action.activatesNew = false)
    (hcloses : shell.closes action = true) : shell.dialogAfter action = .closed := by
  simp [dialogAfter, opens, hnew, hcloses]

/-- Nothing is typed into a closed dialog, and nothing about it is left to close. -/
theorem dialogAfter_of_closed (hnew : shell.opens action = false)
    (hclosed : shell.dialog = .closed) : shell.dialogAfter action = .closed := by
  simp [dialogAfter, hnew, hclosed, Dialog.type]

theorem menuAfter_eq_self (hcloses : shell.closesMenu action = false)
    (htoggled : action.toggled? = none) : shell.menuAfter action = shell.menu := by
  simp [menuAfter, hcloses, htoggled]

/-- The menu is closed after an action that closes it. -/
theorem menuAfter_eq_closed (hcloses : shell.closesMenu action = true) :
    shell.menuAfter action = .closed := by
  simp [menuAfter, hcloses]

/-- A menu that is closed while the user is signed out stays closed. -/
theorem menuAfter_of_signedOut (hsigned : shell.signedIn = false)
    (hclosed : shell.menu = .closed) : shell.menuAfter action = .closed := by
  simp [menuAfter, hsigned, hclosed]

end

/-- The guard leaves the popups alone and sends no command. -/
theorem beginFetch_popups (shell : Shell) :
    shell.beginFetch.1.dialog = shell.dialog ∧ shell.beginFetch.1.menu = shell.menu ∧
      Effect.commands shell.beginFetch.2 = [] := by
  unfold beginFetch
  split <;> exact ⟨rfl, rfl, rfl⟩

/-- An answer leaves the popups alone and sends nothing, whatever it comes to. -/
theorem fetched_popups (shell : Shell) (ticket : Ticket) (result : Except FetchError Profile) :
    (shell.fetched ticket result).1.dialog = shell.dialog ∧
      (shell.fetched ticket result).1.menu = shell.menu ∧
      Effect.commands (shell.fetched ticket result).2 = [] := by
  have hframed : ∀ effects : List Effect, Effect.commands effects = [] →
      Effect.commands (if effects.isEmpty then [] else effects ++ [.requestFrame]) = [] := by
    intro effects hnone
    split
    · rfl
    · rw [Effect.commands_append, hnone]
      rfl
  unfold fetched
  dsimp only
  split
  · exact ⟨rfl, rfl, rfl⟩
  · split
    · obtain ⟨hdialog, hmenu, hcommands⟩ := beginFetch_popups
        (log { shell with abandoned := none, session := .notLoaded } .debug .session
          ("discarded profile response " ++ toString ticket.number ++
            " from a signed-out session"))
      exact ⟨hdialog, hmenu, hframed _ hcommands⟩
    · split
      · exact ⟨rfl, rfl, rfl⟩
      · cases result <;> exact ⟨rfl, rfl, rfl⟩

theorem toggleMenu_dialog (shell : Shell) (anchor : Option Anchor) :
    (shell.toggleMenu anchor).1.dialog = shell.dialog ∧
      Effect.commands (shell.toggleMenu anchor).2 = [] := by
  unfold toggleMenu
  split
  · exact ⟨rfl, rfl⟩
  · split <;> exact ⟨rfl, rfl⟩

theorem closeDialog_dialog (shell : Shell) :
    shell.closeDialog.1.dialog = .closed ∧ Effect.commands shell.closeDialog.2 = [] := by
  unfold closeDialog
  split
  · next hclosed => exact ⟨hclosed, rfl⟩
  · exact ⟨rfl, rfl⟩

theorem confirmDialog_dialog (shell : Shell) :
    shell.confirmDialog.1.dialog = .closed ∧
      Effect.commands shell.confirmDialog.2 = shell.dialog.command?.toList := by
  unfold confirmDialog
  cases hdialog : shell.dialog with
  | closed => exact ⟨hdialog, rfl⟩
  | shown input => exact ⟨rfl, rfl⟩

/-- Of the controls, only the one for a new worksheet touches the dialog. -/
theorem activate_dialog (shell : Shell) (control : Control) :
    (shell.activate control).1.dialog = shell.dialogAfter (.user (.activate control)) ∧
      Effect.commands (shell.activate control).2 = [] := by
  unfold activate
  cases control with
  | newWorksheet =>
      cases hsigned : shell.signedIn with
      | true =>
          have hopens : shell.opens (.user (.activate .newWorksheet)) = true := hsigned
          rw [dialogAfter, if_pos hopens]
          exact ⟨rfl, rfl⟩
      | false =>
          have hopens : shell.opens (.user (.activate .newWorksheet)) = false := hsigned
          rw [dialogAfter, hopens]
          exact ⟨shell.dialog.type_none.symm, rfl⟩
  | accountMenu =>
      rw [dialogAfter_eq_self rfl rfl rfl]
      split
      · exact ⟨rfl, rfl⟩
      · exact toggleMenu_dialog shell none
  | dashboard | gallery | howTo | contact | signUp | login =>
      rw [dialogAfter_eq_self rfl rfl rfl]
      split <;> exact ⟨rfl, rfl⟩

/-- What the user does to the dialog, and the command that is sent for it. -/
theorem stepUser_dialog (shell : Shell) (action : UserAction) :
    (shell.stepUser action).1.dialog = shell.dialogAfter (.user action) ∧
      Effect.commands (shell.stepUser action).2 = shell.commandsOf (.user action) := by
  cases action with
  | activate control => exact activate_dialog shell control
  | editName value =>
      simp only [stepUser, editName]
      split
      · next hclosed => exact ⟨hclosed.trans (dialogAfter_of_closed rfl hclosed).symm, rfl⟩
      · next input hshown => simp [dialogAfter, opens, closes, Action.activatesNew,
          Action.typed?, hshown, Dialog.type, commandsOf, Action.confirms, Effect.command?]
  | pressInName key =>
      simp only [stepUser, pressInName]
      cases hdialog : shell.dialog with
      | closed =>
          refine ⟨hdialog.trans (dialogAfter_of_closed rfl hdialog).symm, ?_⟩
          rw [commandsOf, hdialog]
          exact (ite_self _).symm
      | shown input =>
          cases key with
          | enter =>
              obtain ⟨hconfirmed, hsent⟩ := confirmDialog_dialog shell
              exact ⟨hconfirmed.trans (dialogAfter_eq_closed rfl rfl).symm, hsent⟩
          | escape =>
              obtain ⟨hclosed, hquiet⟩ := closeDialog_dialog shell
              exact ⟨hclosed.trans (dialogAfter_eq_closed rfl rfl).symm, hquiet⟩
          | other => exact ⟨(dialogAfter_eq_self rfl rfl rfl).symm, rfl⟩
  | confirmDialog =>
      obtain ⟨hconfirmed, hsent⟩ := confirmDialog_dialog shell
      exact ⟨hconfirmed.trans (dialogAfter_eq_closed rfl rfl).symm, hsent⟩
  | cancelDialog | dismissDialog =>
      obtain ⟨hclosed, hquiet⟩ := closeDialog_dialog shell
      exact ⟨hclosed.trans (dialogAfter_eq_closed rfl rfl).symm, hquiet⟩
  | toggleMenu anchor =>
      obtain ⟨hdialog, hquiet⟩ := toggleMenu_dialog shell anchor
      exact ⟨hdialog.trans (dialogAfter_eq_self rfl rfl rfl).symm, hquiet⟩
  | closeMenu | openProfile | signOut =>
      rw [dialogAfter_eq_self rfl rfl rfl]
      simp only [stepUser, closeMenu, openProfile, requestSignOut]
      split <;> exact ⟨rfl, rfl⟩

/-- **What becomes of the dialog** in a step, and the command that is sent for it. -/
theorem step_dialog (shell : Shell) (action : Action) :
    (shell.step action).1.dialog = shell.dialogAfter action ∧
      Effect.commands (shell.step action).2 = shell.commandsOf action := by
  cases action with
  | user action => exact stepUser_dialog shell action
  | runtime action =>
      cases action with
      | mount =>
          obtain ⟨hdialog, _, hquiet⟩ := beginFetch_popups { shell with mounted := true }
          rw [dialogAfter_eq_self rfl rfl rfl]
          simp only [step, stepRuntime, mount]
          split
          · exact ⟨rfl, rfl⟩
          · refine ⟨hdialog, ?_⟩
            rw [Effect.commands_append, hquiet]
            rfl
      | unmount =>
          have hcloses : shell.closes (.runtime .unmount) = shell.mounted := rfl
          simp only [step, stepRuntime, unmount]
          cases hmounted : shell.mounted with
          | true => exact ⟨(dialogAfter_eq_closed rfl (hcloses.trans hmounted)).symm, rfl⟩
          | false => exact ⟨(dialogAfter_eq_self rfl (hcloses.trans hmounted) rfl).symm, rfl⟩
      | setSignedIn value =>
          have hcloses : shell.closes (.runtime (.setSignedIn value)) =
            (shell.signedIn && !value) := rfl
          simp only [step, stepRuntime, setSignedIn]
          split
          · next hsame =>
              rw [hsame, Bool.and_not_self] at hcloses
              exact ⟨(dialogAfter_eq_self rfl hcloses rfl).symm, rfl⟩
          · next hother =>
              split
              · next hvalue =>
                  obtain ⟨hdialog, _, hquiet⟩ := beginFetch_popups { shell with signedIn := true }
                  rw [hvalue, Bool.not_true, Bool.and_false] at hcloses
                  rw [hvalue, dialogAfter_eq_self rfl hcloses rfl, Effect.commands_append, hquiet]
                  exact ⟨hdialog, rfl⟩
              · next hvalue =>
                  have hsigned : (shell.signedIn && !value) = true := by simp_all
                  exact ⟨(dialogAfter_eq_closed rfl (hcloses.trans hsigned)).symm, rfl⟩
      | fetched ticket result =>
          obtain ⟨hdialog, _, hquiet⟩ := fetched_popups shell ticket result
          exact ⟨hdialog.trans (dialogAfter_eq_self rfl rfl rfl).symm, hquiet⟩

theorem closeDialog_menu (shell : Shell) : shell.closeDialog.1.menu = shell.menu := by
  unfold closeDialog
  split <;> rfl

theorem confirmDialog_menu (shell : Shell) : shell.confirmDialog.1.menu = shell.menu := by
  unfold confirmDialog
  split <;> rfl

theorem toggleMenu_menu (shell : Shell) (anchor : Option Anchor) :
    (shell.toggleMenu anchor).1.menu = shell.menuAfter (.user (.toggleMenu anchor)) := by
  have hcloses : shell.closesMenu (.user (.toggleMenu anchor)) = false := rfl
  rw [menuAfter, hcloses]
  unfold toggleMenu
  cases hsigned : shell.signedIn with
  | false => rfl
  | true => cases hmenu : shell.menu <;> rfl

/-- Of the controls, those for the account and for a new worksheet touch the menu. -/
theorem activate_menu (shell : Shell) (control : Control) :
    (shell.activate control).1.menu = shell.menuAfter (.user (.activate control)) := by
  unfold activate
  cases control with
  | newWorksheet =>
      have hcloses : shell.closesMenu (.user (.activate .newWorksheet)) = shell.signedIn := rfl
      cases hsigned : shell.signedIn with
      | true => exact (menuAfter_eq_closed (hcloses.trans hsigned)).symm
      | false => exact (menuAfter_eq_self (hcloses.trans hsigned) rfl).symm
  | accountMenu =>
      cases hsigned : shell.signedIn with
      | true => exact toggleMenu_menu shell none
      | false => simp [menuAfter, closesMenu, hsigned, log]
  | dashboard | gallery | howTo | contact | signUp | login =>
      rw [menuAfter_eq_self rfl rfl]
      split <;> rfl

/-- What the user does to the menu. -/
theorem stepUser_menu (shell : Shell) (action : UserAction) :
    (shell.stepUser action).1.menu = shell.menuAfter (.user action) := by
  cases action with
  | activate control => exact activate_menu shell control
  | toggleMenu anchor => exact toggleMenu_menu shell anchor
  | editName value =>
      rw [menuAfter_eq_self rfl rfl]
      simp only [stepUser, editName]
      split <;> rfl
  | pressInName key =>
      rw [menuAfter_eq_self rfl rfl]
      simp only [stepUser, pressInName]
      split
      · rfl
      · cases key with
        | enter => exact confirmDialog_menu shell
        | escape => exact closeDialog_menu shell
        | other => rfl
  | confirmDialog => exact (confirmDialog_menu shell).trans (menuAfter_eq_self rfl rfl).symm
  | cancelDialog | dismissDialog =>
      exact (closeDialog_menu shell).trans (menuAfter_eq_self rfl rfl).symm
  | closeMenu =>
      rw [menuAfter_eq_closed rfl]
      simp only [stepUser, closeMenu]
      split
      · assumption
      · rfl
  | openProfile | signOut =>
      cases hsigned : shell.signedIn <;>
        simp [stepUser, openProfile, requestSignOut, menuAfter, closesMenu, hsigned]

/-- **What becomes of the account menu** in a step. -/
theorem step_menu (shell : Shell) (action : Action) :
    (shell.step action).1.menu = shell.menuAfter action := by
  cases action with
  | user action => exact stepUser_menu shell action
  | runtime action =>
      cases action with
      | mount =>
          obtain ⟨_, hmenu, _⟩ := beginFetch_popups { shell with mounted := true }
          rw [menuAfter_eq_self rfl rfl]
          simp only [step, stepRuntime, mount]
          split
          · rfl
          · exact hmenu
      | unmount =>
          have hcloses : shell.closesMenu (.runtime .unmount) = shell.mounted := rfl
          simp only [step, stepRuntime, unmount]
          cases hmounted : shell.mounted with
          | true => exact (menuAfter_eq_closed (hcloses.trans hmounted)).symm
          | false => exact (menuAfter_eq_self (hcloses.trans hmounted) rfl).symm
      | setSignedIn value =>
          have hcloses : shell.closesMenu (.runtime (.setSignedIn value)) =
            (shell.signedIn && !value) := rfl
          obtain ⟨_, hmenu, _⟩ := beginFetch_popups { shell with signedIn := true }
          simp only [step, stepRuntime, setSignedIn]
          cases hsigned : shell.signedIn <;> cases value <;> rw [hsigned] at hcloses
          · exact (menuAfter_eq_self hcloses rfl).symm
          · exact hmenu.trans (menuAfter_eq_self hcloses rfl).symm
          · exact (menuAfter_eq_closed hcloses).symm
          · exact (menuAfter_eq_self hcloses rfl).symm
      | fetched ticket result =>
          obtain ⟨_, hmenu, _⟩ := fetched_popups shell ticket result
          exact hmenu.trans (menuAfter_eq_self rfl rfl).symm

/-- The dialog is open after an action that opens it, and after one that does not close it if it was
open. -/
theorem isShown_dialogAfter (shell : Shell) (action : Action) :
    (shell.dialogAfter action).isShown =
      (shell.opens action || !shell.closes action && shell.dialog.isShown) := by
  unfold dialogAfter
  cases shell.opens action <;> cases shell.closes action <;> cases shell.dialog <;> rfl

/-- What closes the menu does not toggle it as well. -/
theorem toggled?_of_closesMenu {shell : Shell} {action : Action}
    (h : shell.closesMenu action = true) : action.toggled? = none := by
  unfold closesMenu at h
  split at h <;> first | rfl | cases h

/-- The menu is open after an action that brings it, and after one that does not remove it if it was
open. -/
theorem isShown_menuAfter (shell : Shell) (action : Action) :
    (shell.menuAfter action).isShown =
      (shell.brings action .menu || !shell.removes action .menu && shell.menu.isShown) := by
  unfold menuAfter brings removes
  cases hcloses : shell.closesMenu action with
  | true => simp [toggled?_of_closesMenu hcloses, AccountMenu.isShown]
  | false =>
      cases shell.signedIn with
      | false => simp
      | true =>
          cases action.toggled? <;> cases shell.menu <;>
            simp [AccountMenu.toggle, AccountMenu.isShown]

/-- **A popup is open after a step** if the step opens it, or if it was open and the step does
not close it. -/
theorem shows_step (shell : Shell) (action : Action) (popup : Popup) :
    (shell.step action).1.shows popup =
      (shell.brings action popup || !shell.removes action popup && shell.shows popup) := by
  cases popup with
  | dialog =>
      simp only [shows, brings, removes, (step_dialog shell action).1, isShown_dialogAfter]
  | menu => simp only [shows, step_menu, isShown_menuAfter]

/-- No step both opens a popup and closes it. -/
theorem removes_eq_false_of_brings {shell : Shell} {action : Action} {popup : Popup}
    (h : shell.brings action popup = true) : shell.removes action popup = false := by
  cases popup with
  | dialog =>
      have hnew : action.activatesNew = true := by
        simp only [brings, opens, Bool.and_eq_true] at h
        exact h.1
      unfold Action.activatesNew at hnew
      split at hnew
      · rfl
      · cases hnew
      · cases hnew
  | menu =>
      simp only [brings, Bool.and_eq_true, Bool.not_eq_true'] at h
      obtain ⟨⟨hsigned, htoggled⟩, hclosed⟩ := h
      have hcloses : shell.closesMenu action = false := by
        by_contra hcloses
        rw [toggled?_of_closesMenu (by simpa using hcloses)] at htoggled
        cases htoggled
      simp [removes, hcloses, hclosed]

/-- What closed popups leave behind: no text and no anchor. -/
theorem closed_of_not_shows {shell : Shell} (h : ∀ popup, shell.shows popup = false) :
    shell.dialog = .closed ∧ shell.menu = .closed := by
  have hdialog : shell.dialog.isShown = false := h .dialog
  have hmenu : shell.menu.isShown = false := h .menu
  constructor
  · cases hcase : shell.dialog with
    | closed => rfl
    | shown input => simp [hcase, Dialog.isShown] at hdialog
  · cases hcase : shell.menu with
    | closed => rfl
    | shown anchor => simp [hcase, AccountMenu.isShown] at hmenu

/-- Nothing is open unless the user is signed in. -/
def Unattended (shell : Shell) : Prop :=
  shell.signedIn = false → shell.dialog = .closed ∧ shell.menu = .closed

/-- An open dialog belongs to a signed-in user. -/
theorem Unattended.signedIn_of_dialog {shell : Shell} (h : shell.Unattended)
    (hopen : shell.dialog ≠ .closed) : shell.signedIn = true := by
  by_contra hout
  exact hopen (h (by simpa using hout)).1

/-- **A step leaves nothing open for a user who is signed out.** -/
theorem step_unattended {shell : Shell} (h : shell.Unattended) (action : Action) :
    (shell.step action).1.Unattended := by
  intro hout
  have hsigned : action.signedIn?.getD shell.signedIn = false :=
    (step_turn shell action).signedIn_eq.symm.trans hout
  rw [(step_dialog shell action).1, step_menu]
  cases hbefore : shell.signedIn with
  | false =>
      obtain ⟨hdialog, hmenu⟩ := h hbefore
      have hopens : shell.opens action = false := by rw [opens, hbefore, Bool.and_false]
      exact ⟨dialogAfter_of_closed hopens hdialog, menuAfter_of_signedOut hbefore hmenu⟩
  | true =>
      -- the step has signed the user out
      match action, hsigned with
      | .runtime (.setSignedIn false), _ =>
          have hcloses : (shell.signedIn && !false) = true := by rw [hbefore]; rfl
          exact ⟨dialogAfter_eq_closed rfl hcloses, menuAfter_eq_closed hcloses⟩
      | .user _, hsigned | .runtime .mount, hsigned | .runtime .unmount, hsigned
      | .runtime (.fetched _ _), hsigned | .runtime (.setSignedIn true), hsigned =>
          simp [Action.signedIn?, hbefore] at hsigned

/-- **Nothing is open while the user is signed out**, whatever has happened. -/
theorem run_unattended (config : Config) (signedIn : Bool) (actions : List Action) :
    ((fresh config signedIn).run actions).Unattended := by
  induction actions using List.reverseRecOn with
  | nil => exact fun _ => ⟨rfl, rfl⟩
  | append_singleton actions action ih =>
      rw [run_concat]
      exact step_unattended ih action

end Shell

end WorksheetBar
