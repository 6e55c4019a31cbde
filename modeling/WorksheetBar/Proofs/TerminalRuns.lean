import WorksheetBar.Proofs.OnePopup

/-!
# Runs at a terminal

In a run at a terminal the host may also be called directly for what the user does.  Then both
popups can be open at once, but two things stay as they are, whatever is done in whatever order:
nothing is open unless the user is signed in, and the cursor does not go beyond the longest bar,
that of a signed-in user.  So while the user is signed in, to put the cursor back into range is
to leave it where it is.

* `selected_of_meaning` — a key moves the cursor onto an item, or not to the right;
* `Turn.sound` — what a turn keeps;
* `Reachable.sound` — and so a whole run;
* `refresh_cursor` — before a signed-in user's key the cursor is left where it is.
-/

namespace WorksheetBar

/-- A shell whose popups belong to a signed-in user stays so. -/
theorem Shell.Unattended.run {shell : Shell} (h : shell.Unattended) (actions : List Action) :
    (shell.run actions).Unattended := by
  induction actions using List.reverseRecOn with
  | nil => exact h
  | append_singleton actions action ih =>
      rw [run_concat]
      exact step_unattended ih action

/-- How many items the bar of a signed-in user has.  No bar has more. -/
def Control.most : Nat := (Control.visible true).length

namespace Shell

theorem length_items (shell : Shell) :
    shell.view.items.length = (Control.visible shell.signedIn).length := by
  rw [← shell.view_controls, List.length_map]

theorem length_items_of_signedIn {shell : Shell} (h : shell.signedIn = true) :
    shell.view.items.length = Control.most := by
  rw [length_items, h, Control.most]

theorem length_items_le (shell : Shell) : shell.view.items.length ≤ Control.most := by
  rw [length_items]
  cases shell.signedIn <;> decide

end Shell

namespace Terminal

/-! ## What comes of a key -/

/-- What comes of a key that is something the user does. -/
theorem press_of_meaning {press : Press} {terminal : Terminal} {cursor : Cursor}
    {action : UserAction}
    (h : press.meaning terminal.refresh.view terminal.refresh.cursor = .go cursor (some action)) :
    Terminal.press press terminal = (act action { terminal.refresh with cursor }, false) := by
  simp [Terminal.press, h]

/-- Choosing an item leaves the cursor on an item, or where it was. -/
theorem choose_selected {items : List View.Item} {cursor next : Cursor} {index : Nat}
    {action : Option UserAction} (h : choose items cursor index = .go next action) :
    next.selected < items.length ∨ next.selected ≤ cursor.selected := by
  unfold choose at h
  split at h
  · next hindex =>
      cases h
      exact Or.inl hindex
  · cases h
    exact Or.inr (Nat.le_refl _)

/-- Going to the right does not leave the bar. -/
theorem right_selected (cursor : Cursor) (count : Nat) :
    (cursor.right count).selected < count ∨
      (cursor.right count).selected ≤ cursor.selected := by
  unfold Cursor.right
  split
  · next hroom => exact Or.inl hroom
  · exact Or.inr (Nat.le_refl _)

/-- No key on the bar moves the cursor off it. -/
theorem onBar_selected {items : List View.Item} {cursor next : Cursor} {key : Key}
    {action : Option UserAction} (h : key.onBar items cursor = .go next action) :
    next.selected < items.length ∨ next.selected ≤ cursor.selected := by
  unfold Key.onBar at h
  split at h
  case h_1 => cases h
  case h_2 | h_3 =>
    cases h
    exact Or.inr (Nat.sub_le _ _)
  case h_4 | h_5 =>
    cases h
    exact right_selected cursor items.length
  case h_9 => exact choose_selected h
  case h_10 =>
    split at h
    · exact choose_selected h
    · cases h
      exact Or.inr (Nat.le_refl _)
  -- all other keys leave the cursor alone
  case h_6 | h_7 | h_8 | h_11 =>
    cases h
    exact Or.inr (Nat.le_refl _)

/-- **A key moves the cursor onto an item, or not to the right.** -/
theorem selected_of_meaning {press : Press} {view : View} {cursor next : Cursor}
    {action : Option UserAction} (h : press.meaning view cursor = .go next action) :
    next.selected < view.items.length ∨ next.selected ≤ cursor.selected := by
  rw [meaning_eq] at h
  split at h
  · cases h
  · cases hfront : view.front with
    | bar =>
        rw [hfront] at h
        exact onBar_selected h
    | dialog box =>
        rw [hfront] at h
        cases h
        exact Or.inr (Nat.le_refl _)
    | menu box =>
        rw [hfront] at h
        simp only [Key.atFront, Key.inMenu] at h
        split at h <;> cases h <;> exact Or.inr (Nat.le_refl _)

end Terminal

namespace Sitting

open Host Terminal

/-! ## Runs -/

/-- One turn of a run: a move at a terminal, or the host is called for what the user does. -/
inductive Turn : Sitting → Sitting → Prop
  | move {sitting next : Sitting} (hmove : Move sitting next) : Turn sitting next
  | handle (terminal : Terminal) (action : UserAction) :
      Turn (idle terminal)
        (idle { terminal with host := (Host.handle action terminal.host).1 })

/-- Any number of turns. -/
abbrev Turns : Sitting → Sitting → Prop := Relation.ReflTransGen Turn

/-- Every run of moves is one of turns. -/
theorem Moves.turns {sitting later : Sitting} (h : Moves sitting later) :
    Turns sitting later :=
  Relation.ReflTransGen.mono (fun _ _ => .move) _ _ h

/-- What a run at a terminal can come to.  It begins with the cursor on the first item. -/
def Reachable (sitting : Sitting) : Prop :=
  ∃ host, Host.Starts host ∧ Turns (idle ⟨host, {}⟩) sitting

/-- What a move makes the shell hear. -/
theorem Move.exists_run {sitting next : Sitting} (h : Move sitting next) :
    ∃ heard, next.scene.host.shell = sitting.scene.host.shell.run heard := by
  cases h with
  | carriedOut terminal backend operation =>
      obtain ⟨answers, _, htells⟩ := carryOut_tells backend operation terminal.host
      exact ⟨_, htells.shell⟩
  | call terminal operation => exact ⟨_, (enter_hears terminal.host operation).shell⟩
  | work _ hwork => exact ⟨_, hwork.hears.shell⟩
  | progress _ _ hprogress => exact ⟨[], hprogress.backstage.shell⟩
  | draw => exact ⟨[], rfl⟩
  | key terminal press =>
      show ∃ heard, (terminal.follow _).host.shell = terminal.host.shell.run heard
      cases press.meaning terminal.view terminal.cursor with
      | leave => exact ⟨[], rfl⟩
      | go next action =>
          cases action with
          | none => exact ⟨[], rfl⟩
          | some action => exact ⟨_, act_shell action _⟩

/-- A turn makes the shell hear some actions. -/
theorem Turn.exists_run {sitting next : Sitting} (h : Turn sitting next) :
    ∃ heard, next.scene.host.shell = sitting.scene.host.shell.run heard := by
  cases h with
  | move hmove => exact hmove.exists_run
  | handle terminal action => exact ⟨_, (apply_eq (.user action) terminal.host).2⟩

/-- The cursor of a turn moves onto an item, or not to the right. -/
theorem Turn.selected {sitting next : Sitting} (h : Turn sitting next) :
    next.cursor.selected < sitting.scene.host.shell.view.items.length ∨
      next.cursor.selected ≤ sitting.cursor.selected := by
  cases h with
  | handle => exact Or.inr (Nat.le_refl _)
  | move hmove =>
      cases hmove with
      | carriedOut | call | work | progress => exact Or.inr (Nat.le_refl _)
      | draw terminal => exact Or.inr (Nat.min_le_left _ _)
      | key terminal press =>
          show (terminal.follow _).cursor.selected < _ ∨ (terminal.follow _).cursor.selected ≤ _
          cases hmeaning : press.meaning terminal.view terminal.cursor with
          | leave => exact Or.inr (Nat.le_refl _)
          | go next action =>
              have hselected := selected_of_meaning hmeaning
              cases action <;> exact hselected

/-- What every run keeps: nothing is open unless the user is signed in, and the cursor stays
within the longest bar. -/
structure Sound (sitting : Sitting) : Prop where
  unattended : sitting.scene.host.shell.Unattended
  selected_lt : sitting.cursor.selected < Control.most

/-- **What a turn keeps.** -/
theorem Turn.sound {sitting next : Sitting} (hturn : Turn sitting next) (h : sitting.Sound) :
    next.Sound := by
  obtain ⟨heard, hshell⟩ := hturn.exists_run
  refine ⟨?_, ?_⟩
  · rw [hshell]
    exact h.unattended.run heard
  · have hitems := sitting.scene.host.shell.length_items_le
    have hbefore := h.selected_lt
    rcases hturn.selected with honItem | hnotRight <;> omega

/-- **What a whole run keeps.** -/
theorem Reachable.sound {sitting : Sitting} (h : sitting.Reachable) : sitting.Sound := by
  obtain ⟨host, hstarts, hturns⟩ := h
  induction hturns with
  | refl =>
      cases hstarts with
      | fresh => exact ⟨fun _ => ⟨rfl, rfl⟩, show 0 < Control.most by decide⟩
  | tail _ hturn ih => exact hturn.sound ih

/-- While the user is signed in, the cursor is in range. -/
theorem Sound.clamp_eq {sitting : Sitting} (h : sitting.Sound) {shell : Shell}
    (hsigned : shell.signedIn = true) :
    sitting.cursor.clamp shell.view.items.length = sitting.cursor := by
  apply Cursor.clamp_of_lt
  rw [Shell.length_items_of_signedIn hsigned]
  exact h.selected_lt

end Sitting

end WorksheetBar
