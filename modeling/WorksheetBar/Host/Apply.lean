import WorksheetBar.Host.Basic
import WorksheetBar.Shell.Step

/-!
# Carrying out effects

An action goes to the shell, the journal is reported, and then the effects are
carried out in their order.  Ending the session makes the host look at the provider
again and tell the shell what it finds, in the middle of the effects.

* `merge_empty` / `empty_merge` — the empty outcome adds nothing.
-/

namespace WorksheetBar.Host

@[simp] theorem merge_empty (outcome : Outcome) : outcome.merge {} = outcome := by
  simp [Outcome.merge]

/-- An outcome that says nothing does not change one behind it. -/
@[simp] theorem empty_merge (outcome : Outcome) : Outcome.merge {} outcome = outcome := by
  simp [Outcome.merge]

/-- A step of a host: the host after it, and what it says about the event. -/
abbrev Step := Host → Host × Outcome

/-- One step after another, with both outcomes together. -/
def Step.then (first second : Step) : Step := fun host =>
  let (host, outcome) := first host
  let (host, more) := second host
  (host, outcome.merge more)

/-- Goes to a destination. -/
def navigate (path : String) : Step := fun host =>
  let host := host.report (.navigating path)
  let host := if host.isTerminal then host.report (.navigationRequested path) else host
  (host.note (.navigated path), {})

/-- Carries out an effect.  What follows the end of a session is up to `resync`. -/
def perform (resync : Step) : Effect → Step
  | .requestFrame => fun host => (host, { redraw := true })
  | .preventDefault => fun host => (host, { preventDefault := true })
  | .fetchProfile ticket => fun host =>
    (host.spawn (.fetch ticket host.shell.config.service.userPath), {})
  | .dispatch command => fun host =>
    ((host.report (.dispatching command)).spawn
      (.dispatch command host.shell.config.service.commandPath), {})
  | .navigate path => navigate path
  | .signOut => fun host =>
    let host := host.report .signingOut
    let dropped := host.isTerminal && host.provider.signedIn
    let host := { host with provider := host.provider.signOut }
    let host := if dropped then host.report .tokenDropped else host
    resync (host.note .signedOut)

/-- Carries out effects in their order. -/
def performAll (resync : Step) (effects : List Effect) : Step := fun host =>
  effects.foldl
    (fun (host, outcome) effect =>
      let (host, more) := perform resync effect host
      (host, outcome.merge more))
    (host, {})

/-- Passes an action to the shell and carries out what it asks for. -/
def applyWith (resync : Step) (action : Action) : Step := fun host =>
  let (shell, effects) := host.shell.step action
  performAll resync effects { host with shell := shell }.relay

/-- Tells the shell what the provider says.  This never ends a session, so nothing
has to follow from it. -/
def syncSignedIn : Step := fun host =>
  applyWith (fun host => (host, {})) (.runtime (.setSignedIn host.provider.signedIn)) host

/-- Passes an action to the shell and carries out what it asks for. -/
def apply (action : Action) : Step := applyWith syncSignedIn action

/-- The bar appears. -/
def mount : Step := apply (.runtime .mount)

/-- The bar disappears. -/
def unmount : Step := apply (.runtime .unmount)

/-- Passes on what the user does. -/
def handle (action : UserAction) : Step := apply (.user action)

end WorksheetBar.Host
