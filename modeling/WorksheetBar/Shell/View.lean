import WorksheetBar.Control
import WorksheetBar.Shell.Basic
import WorksheetBar.Worksheet

/-!
# What the bar shows

The picture of a shell: the items of the bar from left to right, and the popups
that are open.  Looking changes nothing.

* `view_controls` — the items are the visible controls, in their order.
-/

namespace WorksheetBar

namespace View

/-- An item of the bar, with the destination of a link. -/
structure Item where
  control : Control
  label : String
  link : Option String
  deriving DecidableEq, Repr

/-- The dialog as it is shown. -/
structure DialogBox where
  title : String := "New Worksheet"
  input : String
  placeholder : String := Worksheet.defaultName
  deriving DecidableEq, Repr

/-- The account menu as it is shown. -/
structure MenuBox where
  anchor : Option Anchor
  userName : Option String
  entries : List AccountMenu.Entry := AccountMenu.entries
  deriving DecidableEq, Repr

end View

/-- The picture of a shell. -/
structure View where
  theme : Theme
  items : List View.Item
  dialog : Option View.DialogBox
  menu : Option View.MenuBox
  deriving DecidableEq, Repr

namespace Shell

/-- The text of an item: the account item shows the name of the user once that is
known. -/
def itemLabel (shell : Shell) (control : Control) : String :=
  match control, shell.session with
  | .accountMenu, .loaded profile => profile.userName
  | _, _ => control.label

/-- The item of a control. -/
def item (shell : Shell) (control : Control) : View.Item :=
  ⟨control, shell.itemLabel control, control.link? shell.config.links⟩

/-- What the shell shows. -/
def view (shell : Shell) : View where
  theme := shell.config.theme
  items := (Control.visible shell.signedIn).map shell.item
  dialog :=
    match shell.dialog with
    | .closed => none
    | .shown input => some { input }
  menu :=
    match shell.menu with
    | .closed => none
    | .shown anchor =>
      if shell.signedIn then some { anchor, userName := shell.session.userName? } else none

/-- **The items are those of the visible controls, in their order.** -/
@[simp] theorem view_controls (shell : Shell) :
    shell.view.items.map View.Item.control = Control.visible shell.signedIn := by
  simp [view, item, Function.comp_def]

end Shell

end WorksheetBar
