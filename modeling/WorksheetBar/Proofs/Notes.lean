import WorksheetBar.Proofs.JournalHistory
import WorksheetBar.Proofs.ShellRun

/-!
# What a step writes

A step may write entries into the journal of a shell.  What it writes does not hang on
what stands there already, and it is never more than two entries: the answer to an
abandoned request is noted as dropped, and then the request that had to wait for it.

So all that was ever written in a run is known from its actions, and the journal is made
by appending that to an empty one.

* `step_journal`, `length_notes_le` — a step appends what it writes, two entries at most;
* `run_journal` — a run appends all that its steps write.
-/

namespace WorksheetBar

/-- Appending overwrites the number an entry comes with. -/
theorem Journal.appendAll_numberFrom (journal : Journal) (first : Nat) (entries : List Entry) :
    journal.appendAll (numberFrom first entries) = journal.appendAll entries := by
  induction entries generalizing journal first with
  | nil => rfl
  | cons entry rest ih => exact ih (journal.append entry) (first + 1)

namespace Shell

/-- A function of the shell appends some entries to its journal, so many at most, and
always the same ones, whatever the journal is. -/
def Writes (bound : Nat) (shell : Shell) (f : Shell → Shell × List Effect) : Prop :=
  ∃ entries : List Journal.Entry, entries.length ≤ bound ∧
    ∀ journal, (f { shell with journal }).1.journal = journal.appendAll entries

section

variable {bound : Nat} {shell : Shell} {f : Shell → Shell × List Effect}

theorem Writes.mono {more : Nat} (h : Writes bound shell f) (hle : bound ≤ more) :
    Writes more shell f := by
  obtain ⟨entries, hlength, happended⟩ := h
  exact ⟨entries, Nat.le_trans hlength hle, happended⟩

/-- A function that leaves every journal as it is appends none. -/
theorem writes_nothing (h : ∀ journal, (f { shell with journal }).1.journal = journal) :
    Writes bound shell f :=
  ⟨[], Nat.zero_le _, h⟩

/-- One that logs a single entry appends one. -/
theorem writes_entry {level : Journal.Level} {topic : Journal.Topic} {message : String}
    (h : ∀ journal, (f { shell with journal }).1.journal = journal.log level topic message) :
    Writes (bound + 1) shell f :=
  ⟨[{ level, topic, message }], Nat.le_add_left 1 bound, h⟩

end

/-! ## The parts of a step -/

theorem closeDialog_journal (shell : Shell) : shell.closeDialog.1.journal = shell.journal := by
  unfold closeDialog
  split <;> rfl

theorem toggleMenu_journal (shell : Shell) (anchor : Option Anchor) :
    (shell.toggleMenu anchor).1.journal = shell.journal := by
  unfold toggleMenu
  split
  · rfl
  · split <;> rfl

/-- One entry at most is written of a request. -/
theorem beginFetch_writes (shell : Shell) : Writes 1 shell beginFetch := by
  by_cases hguard : (shell.mounted && shell.signedIn && shell.session.isNotLoaded) = true
  · apply writes_entry
    intro journal
    simp only [beginFetch, hguard, if_true]
    rfl
  · apply writes_nothing
    intro journal
    rw [beginFetch, if_neg hguard]

/-- One at most is written of a command. -/
theorem confirmDialog_writes (shell : Shell) : Writes 1 shell confirmDialog := by
  cases hdialog : shell.dialog with
  | closed => exact writes_nothing fun journal => by simp only [confirmDialog, hdialog]
  | shown input =>
      apply writes_entry
      intro journal
      simp only [confirmDialog, hdialog]
      rfl

/-- One at most is written of a click on a control. -/
theorem activate_writes (shell : Shell) (control : Control) :
    Writes 1 shell (activate · control) := by
  by_cases hvisible : control.isVisible shell.signedIn = true
  · apply writes_nothing
    intro journal
    simp only [activate, hvisible, Bool.not_true, Bool.false_eq_true, if_false]
    split
    · rfl
    · split
      · rfl
      · exact toggleMenu_journal _ none
  · apply writes_entry
    intro journal
    simp only [activate, hvisible, Bool.not_false, if_true]
    rfl

/-- One at most is written of a key in the name field. -/
theorem pressInName_writes (shell : Shell) (key : FieldKey) :
    Writes 1 shell (pressInName · key) := by
  obtain ⟨entries, hlength, hconfirm⟩ := confirmDialog_writes shell
  cases hdialog : shell.dialog with
  | closed => exact writes_nothing fun journal => by simp only [pressInName, hdialog]
  | shown input =>
      cases key with
      | enter =>
          refine ⟨entries, hlength, fun journal => ?_⟩
          simp only [pressInName, hdialog]
          rw [← hdialog]
          exact hconfirm journal
      | escape =>
          apply writes_nothing
          intro journal
          simp only [pressInName, hdialog]
          exact closeDialog_journal _
      | other => exact writes_nothing fun journal => by simp only [pressInName, hdialog]

/-- One at most is written of whatever the user does. -/
theorem stepUser_writes (shell : Shell) (action : UserAction) :
    Writes 1 shell (stepUser · action) := by
  cases action with
  | activate control => exact activate_writes shell control
  | pressInName key => exact pressInName_writes shell key
  | confirmDialog => exact confirmDialog_writes shell
  | cancelDialog | dismissDialog => exact writes_nothing fun journal => closeDialog_journal _
  | toggleMenu anchor => exact writes_nothing fun journal => toggleMenu_journal _ anchor
  | editName _ | closeMenu | openProfile | signOut =>
      apply writes_nothing
      intro journal
      simp only [stepUser, editName, closeMenu, openProfile, requestSignOut]
      split <;> rfl

/-- One at most is written of the outcome of a request. -/
theorem settleFetch_writes (shell : Shell) (result : Except FetchError Profile) :
    Writes 1 shell (settleFetch · result) := by
  cases result <;> exact writes_entry fun journal => rfl

/-- Only the answer to an abandoned request may be followed by another entry. -/
theorem fetched_writes (shell : Shell) (ticket : Ticket) (result : Except FetchError Profile) :
    Writes 2 shell (fetched · ticket result) := by
  by_cases hstale : shell.session.ticket? ≠ some ticket
  · apply writes_entry
    intro journal
    simp only [fetched]
    rw [if_pos hstale]
    rfl
  · by_cases habandoned : shell.abandoned = some ticket
    · let message := "discarded profile response " ++ toString ticket.number ++
        " from a signed-out session"
      obtain ⟨entries, hlength, hbegins⟩ := beginFetch_writes
        { shell with abandoned := none, session := .notLoaded }
      refine ⟨⟨0, .debug, .session, message⟩ :: entries, Nat.succ_le_succ hlength, ?_⟩
      intro journal
      simp only [fetched]
      rw [if_neg hstale, if_pos habandoned]
      exact hbegins (journal.log .debug .session message)
    · by_cases hmounted : shell.mounted = true
      · obtain ⟨entries, hlength, hsettles⟩ := settleFetch_writes shell result
        refine ⟨entries, Nat.le_trans hlength (Nat.le_succ 1), ?_⟩
        intro journal
        simp only [fetched]
        rw [if_neg hstale, if_neg habandoned, if_neg (by simp [hmounted])]
        exact hsettles journal
      · apply writes_entry
        intro journal
        simp only [fetched]
        rw [if_neg hstale, if_neg habandoned, if_pos (by simp [hmounted])]
        rfl

/-- **A step appends two entries at most**, whatever the journal is. -/
theorem step_writes (shell : Shell) (action : Action) : Writes 2 shell (step · action) := by
  cases action with
  | user action => exact (stepUser_writes shell action).mono (Nat.le_succ 1)
  | runtime action =>
      cases action with
      | mount =>
          obtain ⟨entries, hlength, hbegins⟩ := beginFetch_writes { shell with mounted := true }
          by_cases hmounted : shell.mounted = true
          · exact writes_nothing fun journal => by
              simp only [step, stepRuntime, mount, hmounted, if_true]
          · refine ⟨entries, Nat.le_trans hlength (Nat.le_succ 1), fun journal => ?_⟩
            simp only [step, stepRuntime, mount]
            rw [if_neg hmounted]
            exact hbegins journal
      | unmount =>
          apply writes_nothing
          intro journal
          simp only [step, stepRuntime, unmount]
          split <;> rfl
      | setSignedIn value =>
          obtain ⟨entries, hlength, hbegins⟩ := beginFetch_writes { shell with signedIn := true }
          by_cases hsignsIn : shell.signedIn ≠ value ∧ value = true
          · refine ⟨entries, Nat.le_trans hlength (Nat.le_succ 1), fun journal => ?_⟩
            simp only [step, stepRuntime, setSignedIn]
            rw [if_neg hsignsIn.1, if_pos hsignsIn.2]
            exact hbegins journal
          · apply writes_nothing
            intro journal
            simp only [step, stepRuntime, setSignedIn]
            split
            · rfl
            · next hchanges =>
                rw [if_neg fun hvalue => hsignsIn ⟨hchanges, hvalue⟩]
                unfold forget closePopups
                split <;> rfl
      | fetched ticket result => exact fetched_writes shell ticket result

/-! ## Steps and runs -/

/-- What a step writes: all that it puts into an empty journal. -/
def notes (shell : Shell) (action : Action) : List Journal.Entry :=
  ({ shell with journal := {} }.step action).1.journal.entries

/-- All that some actions make the shell write, in order. -/
def noted (shell : Shell) : List Action → List Journal.Entry
  | [] => []
  | action :: rest => shell.notes action ++ noted (shell.step action).1 rest

/-- **A step appends its notes, and there are at most two.** -/
theorem notes_spec (shell : Shell) (action : Action) :
    (shell.notes action).length ≤ 2 ∧
      (shell.step action).1.journal = shell.journal.appendAll (shell.notes action) := by
  obtain ⟨entries, hlength, happends⟩ := step_writes shell action
  -- an empty journal has room for all of it, so it shows what was written
  have hholds : ((({} : Journal)).appendAll entries).Holds entries :=
    (Journal.holds_empty 200).appendAll entries
  have hnotes : shell.notes action = Journal.numberFrom 1 entries := by
    have hroom : entries.length - 200 = 0 := by omega
    rw [notes, happends, hholds.entries, Journal.capacity_appendAll]
    simp only [hroom, List.drop_zero]
  rw [hnotes, Journal.length_numberFrom, Journal.appendAll_numberFrom]
  exact ⟨hlength, happends shell.journal⟩

/-- **A step appends what it writes.** -/
theorem step_journal (shell : Shell) (action : Action) :
    (shell.step action).1.journal = shell.journal.appendAll (shell.notes action) :=
  (notes_spec shell action).2

theorem length_notes_le (shell : Shell) (action : Action) : (shell.notes action).length ≤ 2 :=
  (notes_spec shell action).1

@[simp] theorem noted_nil (shell : Shell) : shell.noted [] = [] := rfl

@[simp] theorem noted_singleton (shell : Shell) (action : Action) :
    shell.noted [action] = shell.notes action :=
  List.append_nil _

theorem noted_append (shell : Shell) (first second : List Action) :
    shell.noted (first ++ second) = shell.noted first ++ (shell.run first).noted second := by
  induction first generalizing shell with
  | nil => rfl
  | cons action rest ih =>
      have hrest := ih (shell.step action).1
      simp only [List.cons_append, noted, hrest, List.append_assoc]
      rfl

/-- **A run appends all that its steps write.** -/
theorem run_journal (shell : Shell) (actions : List Action) :
    (shell.run actions).journal = shell.journal.appendAll (shell.noted actions) := by
  induction actions using List.reverseRecOn with
  | nil => rfl
  | append_singleton actions action ih =>
      rw [run_concat, step_journal, ih, noted_append, noted_singleton, Journal.appendAll_append]

end Shell

end WorksheetBar
