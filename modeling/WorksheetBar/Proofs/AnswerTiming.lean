import WorksheetBar.Proofs.Notes
import WorksheetBar.Proofs.SignedOut

/-!
# The moment an answer is taken in

An answer waits in the inbox of the host until that is emptied, and the user goes on in
the meantime.  It makes no difference how long it waits.  What the user does looks at the
popups and at whether there is a user at all, and changes the popups only; an answer looks
at the request and changes that only.  So the two pass each other.

* `stepUser_passes` — what the user does passes every change to the request;
* `fetched_passes` — an answer passes every change to the popups;
* `step_swap` — so an answer and what the user does can be taken in either order;
* `answer_at_any_moment` — and an answer can be taken in at any moment.
-/

namespace WorksheetBar.Shell

/-- The shell with the request of another one, and mounted if that is. -/
def withRequestOf (shell other : Shell) : Shell :=
  { shell with
    mounted := other.mounted
    nextTicket := other.nextTicket
    abandoned := other.abandoned
    session := other.session }

/-- The shell with the popups of another one. -/
def withPopupsOf (shell other : Shell) : Shell :=
  { shell with dialog := other.dialog, menu := other.menu }

/-- A function of the shell passes a change: it asks the same of the host before the change
and after it, and comes to the same shell but for the change. -/
def Passes (change : Shell → Shell) (f : Shell → Shell × List Effect) : Prop :=
  ∀ shell, f (change shell) = (change (f shell).1, (f shell).2)

/-! ## What the user does and the request -/

section

variable (other : Shell)

theorem closeDialog_passes : Passes (withRequestOf · other) closeDialog := by
  intro shell
  unfold closeDialog withRequestOf
  dsimp only
  split <;> rfl

theorem confirmDialog_passes : Passes (withRequestOf · other) confirmDialog := by
  intro shell
  unfold confirmDialog withRequestOf
  dsimp only
  split <;> rfl

theorem toggleMenu_passes (anchor : Option Anchor) :
    Passes (withRequestOf · other) (toggleMenu · anchor) := by
  intro shell
  unfold toggleMenu withRequestOf
  dsimp only
  split
  · rfl
  · split <;> rfl

theorem activate_passes (control : Control) :
    Passes (withRequestOf · other) (activate · control) := by
  intro shell
  have htoggle := toggleMenu_passes other none shell
  unfold activate
  dsimp only [withRequestOf] at htoggle ⊢
  split
  · rfl
  · split
    · rfl
    · split
      · rfl
      · exact htoggle

theorem pressInName_passes (key : FieldKey) :
    Passes (withRequestOf · other) (pressInName · key) := by
  intro shell
  have hconfirm := confirmDialog_passes other shell
  have hclose := closeDialog_passes other shell
  unfold pressInName
  dsimp only [withRequestOf] at hconfirm hclose ⊢
  split
  · rfl
  · cases key with
    | enter => rw [hconfirm]
    | escape => exact hclose
    | other => rfl

/-- **What the user does passes every change to the request.** -/
theorem stepUser_passes (action : UserAction) :
    Passes (withRequestOf · other) (stepUser · action) := by
  cases action with
  | activate control => exact activate_passes other control
  | pressInName key => exact pressInName_passes other key
  | confirmDialog => exact confirmDialog_passes other
  | cancelDialog | dismissDialog => exact closeDialog_passes other
  | toggleMenu anchor => exact toggleMenu_passes other anchor
  | editName _ | closeMenu =>
      intro shell
      simp only [stepUser, editName, closeMenu, withRequestOf]
      split <;> rfl
  | openProfile | signOut =>
      intro shell
      cases hsigned : shell.signedIn <;>
        simp [stepUser, openProfile, requestSignOut, withRequestOf, hsigned]

/-! ## Answers and the popups -/

theorem beginFetch_passes : Passes (withPopupsOf · other) beginFetch := by
  intro shell
  unfold beginFetch withPopupsOf
  dsimp only
  split <;> rfl

/-- **An answer passes every change to the popups.** -/
theorem fetched_passes (ticket : Ticket) (result : Except FetchError Profile) :
    Passes (withPopupsOf · other) (fetched · ticket result) := by
  intro shell
  let dropped := log { shell with abandoned := none, session := .notLoaded } .debug .session
    ("discarded profile response " ++ toString ticket.number ++ " from a signed-out session")
  have hbegins := beginFetch_passes other dropped
  unfold fetched
  dsimp only [withPopupsOf, dropped, log] at hbegins ⊢
  split
  · rfl
  · split
    · rw [hbegins]
    · split
      · rfl
      · cases result <;> rfl

end

/-! ## One step past the other -/

/-- What comes of an action: what it asks of the host, and what it writes. -/
structure Response where
  effects : List Effect
  notes : List Journal.Entry

/-- What comes of an action in a shell. -/
def response (shell : Shell) (action : Action) : Response :=
  ⟨(shell.step action).2, shell.notes action⟩

/-- What comes of each of some actions, in order. -/
def responses (shell : Shell) : List Action → List Response
  | [] => []
  | action :: rest => shell.response action :: responses (shell.step action).1 rest

/-- What comes of an action does not hang on the journal. -/
theorem response_alike {shell other : Shell} (h : Alike shell other) (action : Action) :
    shell.response action = other.response action := by
  have hnotes : shell.notes action = other.notes action := by
    rw [h.eq_journaled]
    rfl
  rw [response, response, (step_alike h action).2, hnotes]

/-- What comes of several actions does not either. -/
theorem responses_alike {shell other : Shell} (h : Alike shell other) (actions : List Action) :
    shell.responses actions = other.responses actions := by
  induction actions generalizing shell other with
  | nil => rfl
  | cons action rest ih =>
      rw [responses, responses, response_alike h, ih (step_alike h action).1]

/-- What comes of an action is the same after a change that its step passes, if the change
leaves the journal alone. -/
theorem response_of_passes (change : Shell → Shell) (action : Action)
    (hpasses : Passes change (step · action))
    (hjournal : ∀ shell, (change shell).journal = shell.journal)
    (hblind : ∀ shell journal, change { shell with journal } = { change shell with journal })
    (shell : Shell) : (change shell).response action = shell.response action := by
  have hstep : ∀ shell, (change shell).step action =
      (change (shell.step action).1, (shell.step action).2) := hpasses
  have hnotes : (change shell).notes action = shell.notes action := by
    rw [notes, notes, ← hblind, hstep, hjournal]
  rw [response, response, hstep, hnotes]

section

variable (shell : Shell) (user : UserAction) (ticket : Ticket)
  (result : Except FetchError Profile)

/-- What the user does changes the popups and the journal only. -/
theorem stepUser_alike :
    let acted := (shell.stepUser user).1
    Alike acted (shell.withPopupsOf acted) := by
  intro acted
  have hconfig : acted.config = shell.config := step_config shell (.user user)
  have herrand : acted.errand = shell.errand := (stepUser_errand shell user).1
  simp only [errand, Errand.mk.injEq] at herrand
  obtain ⟨hmounted, hsigned, hsession, habandoned, hnext⟩ := herrand
  rw [Alike, unjournaled, unjournaled, withPopupsOf, hconfig, hmounted, hsigned, hsession,
    habandoned, hnext]

/-- An answer changes the request and the journal only. -/
theorem fetched_alike :
    let answered := (shell.fetched ticket result).1
    Alike answered (shell.withRequestOf answered) := by
  intro answered
  let action : Action := .runtime (.fetched ticket result)
  have hconfig : answered.config = shell.config := step_config shell action
  have hsigned : answered.signedIn = shell.signedIn := (step_turn shell action).signedIn_eq
  obtain ⟨hdialog, hmenu, _⟩ := fetched_popups shell ticket result
  rw [Alike, unjournaled, unjournaled, withRequestOf, hconfig, hsigned, hdialog, hmenu]

/-- **An answer and what the user does can be taken in either order**, and the same comes of
both of them. -/
theorem step_swap :
    let acted := (shell.stepUser user).1
    let answered := (shell.fetched ticket result).1
    Alike (acted.fetched ticket result).1 (answered.stepUser user).1 ∧
      acted.response (.runtime (.fetched ticket result)) =
        shell.response (.runtime (.fetched ticket result)) ∧
      answered.response (.user user) = shell.response (.user user) := by
  intro acted answered
  have hacted : Alike acted (shell.withPopupsOf acted) := stepUser_alike shell user
  have hanswered : Alike answered (shell.withRequestOf answered) :=
    fetched_alike shell ticket result
  have hanswers : (shell.withPopupsOf acted).fetched ticket result =
      (answered.withPopupsOf acted, (shell.fetched ticket result).2) :=
    fetched_passes acted ticket result shell
  have hacts : (shell.withRequestOf answered).stepUser user =
      (acted.withRequestOf answered, (shell.stepUser user).2) :=
    stepUser_passes answered user shell
  refine ⟨?_, ?_, ?_⟩
  · have hlater : Alike (acted.fetched ticket result).1 (answered.withPopupsOf acted) := by
      have hstep := (step_alike hacted (.runtime (.fetched ticket result))).1
      rwa [step, stepRuntime, step, stepRuntime, hanswers] at hstep
    have hsooner : Alike (answered.stepUser user).1 (acted.withRequestOf answered) := by
      have hstep := (step_alike hanswered (.user user)).1
      rwa [step, step, hacts] at hstep
    have hconfig : answered.config = acted.config :=
      (congrArg config hanswered).trans (congrArg config hacted).symm
    have hsigned : answered.signedIn = acted.signedIn :=
      (congrArg signedIn hanswered).trans (congrArg signedIn hacted).symm
    have hsame : Alike (answered.withPopupsOf acted) (acted.withRequestOf answered) := by
      rw [Alike, unjournaled, unjournaled, withPopupsOf, withRequestOf, hconfig, hsigned]
    exact (hlater.trans hsame).trans hsooner.symm
  · rw [response_alike hacted]
    exact response_of_passes (withPopupsOf · acted) (.runtime (.fetched ticket result))
      (fetched_passes acted ticket result) (fun _ => rfl) (fun _ _ => rfl) shell
  · rw [response_alike hanswered]
    exact response_of_passes (withRequestOf · answered) (.user user)
      (stepUser_passes answered user) (fun _ => rfl) (fun _ _ => rfl) shell

end

/-! ## At any moment -/

section

variable (ticket : Ticket) (result : Except FetchError Profile)

/-- What comes of the actions of the user is the same after an answer. -/
theorem responses_fetched (shell : Shell) (users : List UserAction) :
    (shell.fetched ticket result).1.responses (users.map Action.user) =
      shell.responses (users.map Action.user) := by
  induction users generalizing shell with
  | nil => rfl
  | cons user rest ih =>
      obtain ⟨halike, _, hresponse⟩ := step_swap shell user ticket result
      have hrest := (responses_alike halike (rest.map Action.user)).symm.trans
        (ih (shell.stepUser user).1)
      rw [List.map_cons, responses, responses, hresponse]
      exact congrArg (_ :: ·) hrest

/-- An answer taken in later is as good as one that is taken in first. -/
theorem run_late_answer (shell : Shell) (users : List UserAction) (place : Nat) :
    let answer : Action := .runtime (.fetched ticket result)
    let actions := users.map Action.user
    let late := actions.take place ++ answer :: actions.drop place
    Alike (shell.run late) (shell.run (answer :: actions)) ∧
      shell.responses late =
        (shell.responses actions).take place ++
          shell.response answer :: (shell.responses actions).drop place := by
  induction place generalizing shell users with
  | zero =>
      refine ⟨rfl, ?_⟩
      simp only [List.take_zero, List.drop_zero, List.nil_append, responses]
      exact congrArg (_ :: ·) (responses_fetched ticket result shell users)
  | succ place ih =>
      cases users with
      | nil => exact ⟨rfl, rfl⟩
      | cons user rest =>
          obtain ⟨hlate, hresponses⟩ := ih (shell.stepUser user).1 rest
          obtain ⟨halike, hresponse, _⟩ := step_swap shell user ticket result
          have hrest := run_alike halike (rest.map Action.user)
          refine ⟨hlate.trans hrest, ?_⟩
          rw [hresponse] at hresponses
          exact congrArg (shell.response (.user user) :: ·) hresponses

/-- All that is written along some actions is what comes of each of them. -/
theorem noted_eq_flatMap (shell : Shell) (actions : List Action) :
    shell.noted actions = (shell.responses actions).flatMap Response.notes := by
  induction actions generalizing shell with
  | nil => rfl
  | cons action rest ih =>
      rw [noted, ih, responses, List.flatMap_cons]
      rfl

/-- Wherever an answer is taken in, the same entries are written, if in another order. -/
theorem noted_late_answer (shell : Shell) (users : List UserAction) (place : Nat) :
    let answer : Action := .runtime (.fetched ticket result)
    let actions := users.map Action.user
    (shell.noted (actions.take place ++ answer :: actions.drop place)).Perm
      (shell.notes answer ++ shell.noted actions) := by
  intro answer actions
  let all := shell.responses actions
  have hmiddle : (all.take place ++ shell.response answer :: all.drop place).Perm
      (shell.response answer :: all) := by
    have hall := List.take_append_drop place all
    exact List.perm_middle.trans (.of_eq (congrArg (_ :: ·) hall))
  rw [noted_eq_flatMap, noted_eq_flatMap, (run_late_answer ticket result shell users place).2]
  exact hmiddle.flatMap_right _

/-- **An answer can be taken in at any moment.**  Put an answer, whatever its ticket and its
result, among some actions of the user, here or there.  The shell comes to the same but for
its journal, and it shows the same.  Each action of the user comes to what it comes to without
the answer, and the answer to what it comes to before all of them: it asks the same of the
host and writes the same.  The journals differ in the order of what was written. -/
theorem answer_at_any_moment (shell : Shell) (users : List UserAction) (here there : Nat) :
    let answer : Action := .runtime (.fetched ticket result)
    let actions := users.map Action.user
    let sooner := actions.take here ++ answer :: actions.drop here
    let later := actions.take there ++ answer :: actions.drop there
    (shell.run sooner).unjournaled = (shell.run later).unjournaled ∧
    (shell.run sooner).view = (shell.run later).view ∧
    shell.responses sooner =
      (shell.responses actions).take here ++
        shell.response answer :: (shell.responses actions).drop here ∧
    shell.responses later =
      (shell.responses actions).take there ++
        shell.response answer :: (shell.responses actions).drop there ∧
    ∃ written written' : List Journal.Entry, written.Perm written' ∧
      (shell.run sooner).journal = written.foldl Journal.append shell.journal ∧
      (shell.run later).journal = written'.foldl Journal.append shell.journal := by
  intro answer actions sooner later
  obtain ⟨hsooner, hresponses⟩ := run_late_answer ticket result shell users here
  obtain ⟨hlater, hresponses'⟩ := run_late_answer ticket result shell users there
  have halike : Alike (shell.run sooner) (shell.run later) := hsooner.trans hlater.symm
  have hperm : (shell.noted sooner).Perm (shell.noted later) :=
    (noted_late_answer ticket result shell users here).trans
      (noted_late_answer ticket result shell users there).symm
  exact ⟨halike, view_alike halike, hresponses, hresponses', _, _, hperm,
    run_journal shell sooner, run_journal shell later⟩

end

end WorksheetBar.Shell
