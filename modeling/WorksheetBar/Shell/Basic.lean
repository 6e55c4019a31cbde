import WorksheetBar.Config
import WorksheetBar.Journal
import WorksheetBar.Popup
import WorksheetBar.Session

/-!
# The shell

The whole state of the bar.
-/

namespace WorksheetBar

/-- The state of the bar: whether its user is signed in, whether it is mounted,
the number of the next ticket, what is known about the user, the two popups and
the journal.

A request that is still under way when the user signs out is abandoned: the
session goes on waiting for its answer, so that no second request overlaps it,
but the answer will not be used. -/
structure Shell where
  config : Config := {}
  signedIn : Bool
  mounted : Bool := false
  nextTicket : Nat := 1
  abandoned : Option Ticket := none
  session : Session := .notLoaded
  dialog : Dialog := .closed
  menu : AccountMenu := .closed
  journal : Journal := {}
  deriving Repr

namespace Shell

/-- A shell that nothing has happened to. -/
def fresh (config : Config) (signedIn : Bool) : Shell := { config, signedIn }

/-- Puts an entry into the journal. -/
def log (shell : Shell) (level : Journal.Level) (topic : Journal.Topic) (message : String) :
    Shell :=
  { shell with journal := shell.journal.log level topic message }

/-- Closes both popups. -/
def closePopups (shell : Shell) : Shell :=
  { shell with dialog := .closed, menu := .closed }

end Shell

end WorksheetBar
