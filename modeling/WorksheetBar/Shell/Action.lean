import WorksheetBar.Control
import WorksheetBar.Popup
import WorksheetBar.Session

/-!
# Actions and effects

What can happen to the bar, and what the bar asks of its host in return.
-/

namespace WorksheetBar

/-- A key pressed in the name field, as far as the dialog cares. -/
inductive FieldKey where
  | enter
  | escape
  | other
  deriving DecidableEq, Repr

/-- What the user does. -/
inductive UserAction where
  | activate (control : Control)
  | editName (value : String)
  | pressInName (key : FieldKey)
  | confirmDialog
  | cancelDialog
  | dismissDialog
  | toggleMenu (anchor : Option Anchor)
  | closeMenu
  | openProfile
  | signOut
  deriving DecidableEq, Repr

/-- What happens around the bar. -/
inductive RuntimeAction where
  | mount
  | unmount
  | setSignedIn (value : Bool)
  | fetched (ticket : Ticket) (result : Except FetchError Profile)

/-- Anything that can happen to the bar. -/
inductive Action where
  | user (action : UserAction)
  | runtime (action : RuntimeAction)

/-- What the host is asked to do. -/
inductive Effect where
  | requestFrame
  | preventDefault
  | fetchProfile (ticket : Ticket)
  | dispatch (command : String)
  | navigate (path : String)
  | signOut
  deriving DecidableEq, Repr

end WorksheetBar
