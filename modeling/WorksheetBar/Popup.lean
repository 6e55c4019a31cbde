/-!
# The popups

Two things can open over the bar: the dialog that asks for the name of a new
worksheet, and the account menu.  A closed popup remembers nothing, so opening one
always starts afresh.

Each of them could as well be kept in two fields: a flag that says whether it is open,
and what is in it, which are `isShown` and `input`, or `isShown` and `anchor?`, here.
Then opening a popup sets both fields, typing looks at the flag first, and closing puts
both back to what they were at first, so there is never anything in a popup that is not
open.  The types have exactly the pairs of fields of which that is true.

* `Dialog.exists_fields_iff` / `AccountMenu.exists_fields_iff` — what the two fields of
  a popup can be;
* `Dialog.eq_of_fields` / `AccountMenu.eq_of_fields` — and that they are all there is.
-/

namespace WorksheetBar

/-- The cell of the screen at which the account menu drops down. -/
structure Anchor where
  column : UInt16
  row : UInt16
  deriving DecidableEq, Repr

/-- The dialog for a new worksheet, with what has been typed into it. -/
inductive Dialog where
  | closed
  | shown (input : String)
  deriving DecidableEq, Repr

namespace Dialog

/-- What has been typed; nothing while the dialog is closed. -/
def input : Dialog → String
  | closed => ""
  | shown input => input

/-- Whether the dialog is on the screen. -/
def isShown : Dialog → Bool
  | closed => false
  | shown _ => true

/-- A dialog is a flag and a text, where nothing is typed unless the flag is set. -/
theorem exists_fields_iff {isOpen : Bool} {text : String} :
    (∃ dialog : Dialog, dialog.isShown = isOpen ∧ dialog.input = text) ↔
      (isOpen = false → text = "") := by
  constructor
  · rintro ⟨_ | _, rfl, rfl⟩ opened
    · rfl
    · cases opened
  · intro empty
    cases isOpen with
    | false => exact ⟨.closed, rfl, (empty rfl).symm⟩
    | true => exact ⟨.shown text, rfl, rfl⟩

/-- There is nothing to a dialog but its two fields. -/
theorem eq_of_fields {a b : Dialog} (flags : a.isShown = b.isShown) (texts : a.input = b.input) :
    a = b := by
  cases a with
  | closed =>
      cases b with
      | closed => rfl
      | shown _ => cases flags
  | shown _ =>
      cases b with
      | closed => cases flags
      | shown _ => exact congrArg shown texts

end Dialog

/-- The account menu, with the anchor the host gave it. -/
inductive AccountMenu where
  | closed
  | shown (anchor : Option Anchor)
  deriving DecidableEq, Repr

namespace AccountMenu

/-- The anchor of a menu that has one. -/
def anchor? : AccountMenu → Option Anchor
  | closed => none
  | shown anchor => anchor

/-- Whether the menu is on the screen. -/
def isShown : AccountMenu → Bool
  | closed => false
  | shown _ => true

/-- A menu is a flag and an anchor, where there is no anchor unless the flag is set. -/
theorem exists_fields_iff {isOpen : Bool} {anchor : Option Anchor} :
    (∃ menu : AccountMenu, menu.isShown = isOpen ∧ menu.anchor? = anchor) ↔
      (isOpen = false → anchor = none) := by
  constructor
  · rintro ⟨_ | _, rfl, rfl⟩ opened
    · rfl
    · cases opened
  · intro empty
    cases isOpen with
    | false => exact ⟨.closed, rfl, (empty rfl).symm⟩
    | true => exact ⟨.shown anchor, rfl, rfl⟩

/-- There is nothing to a menu but its two fields. -/
theorem eq_of_fields {a b : AccountMenu} (flags : a.isShown = b.isShown)
    (anchors : a.anchor? = b.anchor?) : a = b := by
  cases a with
  | closed =>
      cases b with
      | closed => rfl
      | shown _ => cases flags
  | shown _ =>
      cases b with
      | closed => cases flags
      | shown _ => exact congrArg shown anchors

/-- What the menu offers, from top to bottom. -/
inductive Entry where
  | profile
  | signOut
  deriving DecidableEq, Repr

/-- Every entry, from top to bottom. -/
def entries : List Entry := [.profile, .signOut]

/-- The text of an entry. -/
def Entry.label : Entry → String
  | profile => "My Account"
  | signOut => "Sign Out"

end AccountMenu

end WorksheetBar
