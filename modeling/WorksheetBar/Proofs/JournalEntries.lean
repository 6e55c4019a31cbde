import WorksheetBar.Shell.Step

/-!
# What a shell writes into its journal

The one entry of interest here is the one about a **stale** answer: it is written when
an answer comes that the session does not wait for, and on no other occasion.  Texts
from outside (names, profiles, reasons of a failure) never make another entry look like
it, because every entry begins with words of its own.

* `step_unstale` — a step that takes in no unawaited answer writes nothing stale.
-/

namespace WorksheetBar

/-- A message about an answer that nobody waited for. -/
def Journal.Stale (message : String) : Prop :=
  ∃ number : String, message = "discarded stale profile response " ++ number

/-- A message is not about a stale answer if its first words are others. -/
theorem Journal.not_stale_of_start {start rest : String} (hlength : 11 ≤ start.toList.length)
    (hstart : start.toList.take 11 ≠ "discarded s".toList) : ¬ Stale (start ++ rest) := by
  rintro ⟨number, heq⟩
  apply hstart
  have htake := congrArg (fun message : String => message.toList.take 11) heq
  simp only [String.toList_append] at htake
  rw [List.take_append_of_le_length hlength, List.take_append_of_le_length (by decide)] at htake
  rw [htake]
  decide

/-- An entry of the journal after a new one was put in is an old one or the new one. -/
theorem Journal.message_of_mem_log {journal : Journal} {level : Journal.Level}
    {topic : Journal.Topic} {message : String} {entry : Journal.Entry}
    (h : entry ∈ (journal.log level topic message).entries) :
    entry ∈ journal.entries ∨ entry.message = message := by
  unfold log append at h
  dsimp only at h
  split at h
  · exact Or.inl h
  · rcases List.mem_append.mp h with hold | hnew
    · exact Or.inl (List.mem_of_mem_drop hold)
    · rw [List.mem_singleton.mp hnew]
      exact Or.inr rfl

namespace Shell

/-- The journal of a shell says nothing about stale answers. -/
def Unstale (shell : Shell) : Prop :=
  ∀ entry ∈ shell.journal.entries, ¬ Journal.Stale entry.message

/-- An entry that is not stale leaves the journal without stale ones. -/
theorem Unstale.log {shell : Shell} (h : shell.Unstale) {level : Journal.Level}
    {topic : Journal.Topic} {message : String} (hmessage : ¬ Journal.Stale message) :
    (shell.log level topic message).Unstale := by
  intro entry hentry
  rcases Journal.message_of_mem_log hentry with hold | hnew
  · exact h entry hold
  · rw [hnew]
    exact hmessage

/-- What is noted of a request is not stale. -/
theorem Unstale.beginFetch {shell : Shell} (h : shell.Unstale) : shell.beginFetch.1.Unstale := by
  unfold Shell.beginFetch
  split
  · have hasked : Unstale { shell with
        nextTicket := shell.nextTicket + 1, session := .loading ⟨shell.nextTicket⟩ } := h
    dsimp only
    rw [String.append_assoc]
    exact hasked.log (Journal.not_stale_of_start (by decide) (by decide))
  · exact h

/-- What the user does is never noted as a stale answer. -/
theorem Unstale.stepUser {shell : Shell} (h : shell.Unstale) (action : UserAction) :
    (shell.stepUser action).1.Unstale := by
  have hclose : shell.closeDialog.1.Unstale := by
    unfold closeDialog
    split <;> exact h
  have hconfirm : shell.confirmDialog.1.Unstale := by
    unfold confirmDialog
    split
    · exact h
    · have hclosed : Unstale { shell with dialog := .closed } := h
      dsimp only
      rw [String.append_assoc]
      exact hclosed.log (Journal.not_stale_of_start (by decide) (by decide))
  have htoggle : ∀ anchor, (shell.toggleMenu anchor).1.Unstale := by
    intro anchor
    unfold toggleMenu
    split
    · exact h
    · split <;> exact h
  cases action with
  | activate control =>
      simp only [Shell.stepUser, activate]
      split
      · exact h.log (Journal.not_stale_of_start (by decide) (by decide))
      · split
        · exact h
        · split
          · exact h
          · exact htoggle none
  | pressInName key =>
      simp only [Shell.stepUser, pressInName]
      split
      · exact h
      · cases key with
        | enter => exact hconfirm
        | escape => exact hclose
        | other => exact h
  | confirmDialog => exact hconfirm
  | cancelDialog | dismissDialog => exact hclose
  | toggleMenu anchor => exact htoggle anchor
  | editName _ | closeMenu | openProfile | signOut =>
      simp only [Shell.stepUser, editName, closeMenu, openProfile, requestSignOut]
      split <;> exact h

/-- An answer that the session waits for is never noted as a stale one. -/
theorem Unstale.fetched {shell : Shell} (h : shell.Unstale) {ticket : Ticket}
    (hsession : shell.session = .loading ticket) (result : Except FetchError Profile) :
    (shell.fetched ticket result).1.Unstale := by
  have hdropped : Unstale { shell with abandoned := none, session := .notLoaded } := h
  have hmissed : Unstale { shell with session := .notLoaded } := h
  unfold Shell.fetched
  dsimp only
  rw [if_neg (by simp [hsession])]
  split
  · apply Unstale.beginFetch
    rw [String.append_assoc]
    exact hdropped.log (Journal.not_stale_of_start (by decide) (by decide))
  · split
    · rw [String.append_assoc]
      exact hmissed.log (Journal.not_stale_of_start (by decide) (by decide))
    · cases result with
      | ok profile => exact h.log (Journal.not_stale_of_start (by decide) (by decide))
      | error error => exact h.log (Journal.not_stale_of_start (by decide) (by decide))

/-- **A step that takes in no unawaited answer writes nothing stale.** -/
theorem step_unstale {shell : Shell} (h : shell.Unstale) {action : Action}
    (hawaited : ∀ ticket result, action = .runtime (.fetched ticket result) →
      shell.session = .loading ticket) :
    (shell.step action).1.Unstale := by
  cases action with
  | user action => exact h.stepUser action
  | runtime action =>
      cases action with
      | mount =>
          simp only [step, stepRuntime, mount]
          split
          · exact h
          · have hmounted : Unstale { shell with mounted := true } := h
            exact hmounted.beginFetch
      | unmount =>
          simp only [step, stepRuntime, unmount]
          split <;> exact h
      | setSignedIn value =>
          simp only [step, stepRuntime, setSignedIn]
          split
          · exact h
          · split
            · have hsigned : Unstale { shell with signedIn := true } := h
              exact hsigned.beginFetch
            · unfold forget closePopups
              split <;> exact h
      | fetched ticket result => exact h.fetched (hawaited ticket result rfl) result

end Shell

end WorksheetBar
