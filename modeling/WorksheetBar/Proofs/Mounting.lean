import WorksheetBar.Proofs.ConfirmedNames

/-!
# What a mount finds open

Disappearing closes both popups, and appearing does not touch them: it relies on their
having been closed.  But a shell that is not mounted still takes in what its user does, and
a signed-in user can open a popup in it.  Such a popup stands open when the shell appears,
with whatever has been typed into it.

* `shows_iff` — when a popup is open, told from the history alone;
* `unmounted_of_shows` — a popup that is open while the shell is not mounted was opened
  after the shell had disappeared;
* `mount_keeps_popups` — what stands open after a mount is what was opened before it while
  the shell was not mounted, and nothing else.
-/

namespace WorksheetBar.Shell

/-- Step `k` of the run mounts the shell, which was not mounted. -/
def MountsAt (shell : Shell) (actions : List Action) (k : Nat) : Prop :=
  actions[k]? = some (.runtime .mount) ∧ (shell.run (actions.take k)).mounted = false

/-- Step `k` of the run opens a popup. -/
def BringsAt (shell : Shell) (actions : List Action) (popup : Popup) (k : Nat) : Prop :=
  ∃ action, actions[k]? = some action ∧
    (shell.run (actions.take k)).brings action popup = true

/-- Step `k` of the run closes a popup if it is open. -/
def RemovesAt (shell : Shell) (actions : List Action) (popup : Popup) (k : Nat) : Prop :=
  ∃ action, actions[k]? = some action ∧
    (shell.run (actions.take k)).removes action popup = true

variable {shell : Shell} {actions : List Action} {action : Action} {popup : Popup} {o k : Nat}

/-- A mount leaves the popups as they are. -/
theorem step_mount_popups (shell : Shell) :
    (shell.step (.runtime .mount)).1.dialog = shell.dialog ∧
      (shell.step (.runtime .mount)).1.menu = shell.menu := by
  rw [(step_dialog shell _).1, step_menu]
  exact ⟨dialogAfter_eq_self rfl rfl rfl, menuAfter_eq_self rfl rfl⟩

/-- A shell does not disappear with a popup open. -/
theorem mounted_of_shows (hmounted : shell.mounted = true)
    (hshows : (shell.step action).1.shows popup = true) :
    (shell.step action).1.mounted = true := by
  have hafter : (shell.step action).1.mounted = action.mounted?.getD shell.mounted :=
    (step_turn shell action).mounted_eq
  rw [hafter]
  match action with
  | .runtime .unmount =>
      have hbrings : shell.brings (.runtime .unmount) popup = false := by
        cases popup <;> simp [brings, opens, Action.activatesNew, Action.toggled?]
      have hremoves : shell.removes (.runtime .unmount) popup = true := by
        cases popup <;> simp [removes, closes, closesMenu, hmounted]
      rw [shows_step, hbrings, hremoves] at hshows
      cases hshows
  | .runtime .mount => rfl
  | .user _ | .runtime (.setSignedIn _) | .runtime (.fetched _ _) => exact hmounted

/-- A popup that is open in the end, in a shell that is not mounted then, was opened and has
been open in a shell that was not mounted. -/
theorem unmounted_of_shows (hunmounted : (shell.run (actions.take k)).mounted = false)
    (hsince : ∀ j, o < j → j ≤ k → (shell.run (actions.take j)).shows popup = true) :
    ∀ j, o ≤ j → j ≤ k → (shell.run (actions.take j)).mounted = false := by
  intro i hoi hik
  by_contra hmounted
  have hend : (shell.run (actions.take k)).mounted = true := by
    refine run_of_le (P := fun shell => shell.mounted = true) hik ?_ (by simpa using hmounted)
    intro j action hij hjk hget hbefore
    have hshows := hsince (j + 1) (by omega) hjk
    rw [run_take_succ hget] at hshows ⊢
    exact mounted_of_shows hbefore hshows
  rw [hunmounted] at hend
  cases hend

/-- A popup that a step opened stays open until another closes it. -/
theorem shows_since (hbrings : shell.BringsAt actions popup o)
    (hnone : ∀ j, o < j → j < k → ¬ shell.RemovesAt actions popup j) :
    ∀ j, o < j → j ≤ k → (shell.run (actions.take j)).shows popup = true := by
  obtain ⟨action, hget, hbrings⟩ := hbrings
  intro j hoj hjk
  refine run_of_le (P := fun shell => shell.shows popup = true) hoj ?_ ?_
  · intro i action' hoi hij hget' hbefore
    have hremoves : (shell.run (actions.take i)).removes action' popup = false := by
      by_contra hremoves
      exact hnone i hoi (Nat.lt_of_lt_of_le hij hjk) ⟨action', hget', by simpa using hremoves⟩
    rw [run_take_succ hget', shows_step, hremoves, hbefore]
    simp
  · rw [run_take_succ hget, shows_step, hbrings]
    rfl

section

variable {config : Config} {signedIn : Bool}

/-- At the start no popup is open. -/
theorem fresh_shows (config : Config) (signedIn : Bool) (popup : Popup) :
    (fresh config signedIn).shows popup = false := by
  cases popup <;> rfl

/-- **An open popup was opened by one step and has been open since.** -/
theorem exists_bringsAt
    (h : ((fresh config signedIn).run (actions.take k)).shows popup = true) :
    ∃ o < k, (fresh config signedIn).BringsAt actions popup o ∧
      ∀ j, o < j → j ≤ k → ((fresh config signedIn).run (actions.take j)).shows popup = true := by
  have hstart : ¬ (fresh config signedIn).shows popup = true := by
    rw [fresh_shows]
    exact Bool.false_ne_true
  obtain ⟨o, hok, action, hget, hnot, hsince⟩ :=
    exists_begins (P := fun shell => shell.shows popup = true) hstart h
  have hopened := hsince (o + 1) (Nat.lt_succ_self o) hok
  rw [run_take_succ hget, shows_step, Bool.eq_false_iff.mpr hnot, Bool.and_false,
    Bool.or_false] at hopened
  exact ⟨o, hok, ⟨action, hget, hopened⟩, hsince⟩

/-- **A popup is open exactly if some step opened it and none has closed it since.** -/
theorem shows_iff :
    ((fresh config signedIn).run (actions.take k)).shows popup = true ↔
      ∃ o < k, (fresh config signedIn).BringsAt actions popup o ∧
        ∀ j, o < j → j < k → ¬ (fresh config signedIn).RemovesAt actions popup j := by
  constructor
  · intro h
    obtain ⟨o, hok, hopened, hsince⟩ := exists_bringsAt h
    refine ⟨o, hok, hopened, ?_⟩
    rintro j hoj hjk ⟨action, hget, hremoves⟩
    have hopen := hsince (j + 1) (Nat.lt_succ_of_lt hoj) hjk
    rw [run_take_succ hget, shows_step, hremoves, Bool.not_true, Bool.false_and,
      Bool.or_false] at hopen
    rw [removes_eq_false_of_brings hopen] at hremoves
    cases hremoves
  · rintro ⟨o, hok, hbrings, hnone⟩
    exact shows_since hbrings hnone k hok (Nat.le_refl k)

/-- **What stands open after a mount was opened while the shell was not mounted.**  The mount
itself opens and closes nothing.  A popup is open after it exactly if a step opened it, no
step has closed it since, and the shell was not mounted all that time.  So if nothing was
opened while the shell was not mounted, both popups are closed when it appears, and nothing
is left of what was typed or of an anchor. -/
theorem mount_keeps_popups (config : Config) (signedIn : Bool) (actions : List Action) (k : Nat)
    (hmounts : (fresh config signedIn).MountsAt actions k) :
    let shell := fresh config signedIn
    let before := shell.run (actions.take k)
    let after := shell.run (actions.take (k + 1))
    after.dialog = before.dialog ∧ after.menu = before.menu ∧
    (∀ popup, after.shows popup = true ↔
      ∃ o < k, shell.BringsAt actions popup o ∧
        (∀ j, o < j → j < k → ¬ shell.RemovesAt actions popup j) ∧
        ∀ j, o ≤ j → j ≤ k → (shell.run (actions.take j)).mounted = false) ∧
    ((∀ popup, ∀ o < k, shell.BringsAt actions popup o →
        (shell.run (actions.take o)).mounted = true) →
      after.dialog = .closed ∧ after.dialog.input = "" ∧
      after.menu = .closed ∧ after.menu.anchor? = none) := by
  intro shell before after
  obtain ⟨hget, hunmounted⟩ := hmounts
  obtain ⟨hdialog, hmenu⟩ := step_mount_popups before
  rw [← run_take_succ hget] at hdialog hmenu
  have hkept : ∀ popup, after.shows popup = before.shows popup := by
    intro popup
    cases popup with
    | dialog => exact congrArg Dialog.isShown hdialog
    | menu => exact congrArg AccountMenu.isShown hmenu
  have hopened : ∀ popup, after.shows popup = true ↔
      ∃ o < k, shell.BringsAt actions popup o ∧
        (∀ j, o < j → j < k → ¬ shell.RemovesAt actions popup j) ∧
        ∀ j, o ≤ j → j ≤ k → (shell.run (actions.take j)).mounted = false := by
    intro popup
    rw [hkept popup, shows_iff]
    constructor
    · rintro ⟨o, hok, hbrings, hnone⟩
      refine ⟨o, hok, hbrings, hnone, ?_⟩
      exact unmounted_of_shows hunmounted (shows_since hbrings hnone)
    · rintro ⟨o, hok, hbrings, hnone, _⟩
      exact ⟨o, hok, hbrings, hnone⟩
  refine ⟨hdialog, hmenu, hopened, ?_⟩
  intro hmounted
  have hnone : ∀ popup, after.shows popup = false := by
    intro popup
    by_contra hshows
    obtain ⟨o, hok, hbrings, _, hgone⟩ := (hopened popup).mp (by simpa using hshows)
    have happeared := hmounted popup o hok hbrings
    rw [hgone o (Nat.le_refl o) (Nat.le_of_lt hok)] at happeared
    cases happeared
  obtain ⟨hclosed, hshut⟩ := closed_of_not_shows hnone
  rw [hclosed, hshut]
  exact ⟨rfl, rfl, rfl, rfl⟩

/-- The menu was open when the shell disappeared and is closed when it appears again.  The
dialog was opened in between, and stands open with what was typed into it. -/
theorem mount_keeps_popups_opened_between :
    let shell := fresh {} true
    let actions : List Action :=
      [.runtime .mount, .user (.toggleMenu (some ⟨2, 3⟩)), .runtime .unmount,
        .user (.activate .newWorksheet), .user (.editName "wip"), .runtime .mount]
    shell.MountsAt actions 5 ∧
    (shell.run (actions.take 6)).dialog = .shown "wip" ∧
    (shell.run (actions.take 6)).menu = .closed ∧
    ∃ o < 5, shell.BringsAt actions .dialog o ∧
      (∀ j, o < j → j < 5 → ¬ shell.RemovesAt actions .dialog j) ∧
      ∀ j, o ≤ j → j ≤ 5 → (shell.run (actions.take j)).mounted = false := by
  intro shell actions
  have hmounts : shell.MountsAt actions 5 := ⟨rfl, rfl⟩
  obtain ⟨hdialog, hmenu, hopened, _⟩ := mount_keeps_popups {} true actions 5 hmounts
  exact ⟨hmounts, hdialog, hmenu, (hopened .dialog).mp rfl⟩

/-- **Appearing does not reset the popups**: a dialog that was opened in a shell that was never
mounted stands open when it is. -/
theorem mount_resets_nothing :
    ¬ ∀ (config : Config) (signedIn : Bool) (actions : List Action) (k : Nat),
      (fresh config signedIn).MountsAt actions k →
        let after := (fresh config signedIn).run (actions.take (k + 1))
        after.dialog = .closed ∧ after.dialog.input = "" ∧
        after.menu = .closed ∧ after.menu.anchor? = none := by
  intro hreset
  have hmounts : (fresh {} true).MountsAt [.user (.activate .newWorksheet), .runtime .mount] 1 :=
    ⟨rfl, rfl⟩
  have hclosed : (Dialog.shown "" : Dialog) = .closed := (hreset {} true _ 1 hmounts).1
  cases hclosed

end

end WorksheetBar.Shell
