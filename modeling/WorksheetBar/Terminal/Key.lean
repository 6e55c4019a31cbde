import WorksheetBar.Shell.Action
import WorksheetBar.Terminal.Bar
import WorksheetBar.Terminal.Cursor

/-!
# What keys mean

A key goes to the dialog if that is open, else to the account menu if that is open, and
else to the bar.  Control and the letter c ends the program everywhere.

* `meaning_of_dialog` — an open dialog takes every other key as something the user does
  in it.
-/

namespace WorksheetBar.Terminal

/-- The keys that mean something somewhere, and all others. -/
inductive Key where
  | enter
  | escape
  | backspace
  | left
  | right
  | char (c : Char)
  | other
  deriving DecidableEq, Repr

/-- A key that is pressed, and whether control is held. -/
structure Press where
  key : Key
  control : Bool := false
  deriving DecidableEq, Repr

/-- What a key means: the end of the program, or a place of the cursor and perhaps
something that the user does. -/
inductive Meaning where
  | leave
  | go (cursor : Cursor) (action : Option UserAction)
  deriving DecidableEq, Repr

namespace Key

/-- What a key does in the dialog. -/
def inDialog (input : String) : Key → UserAction
  | enter => .pressInName .enter
  | escape => .pressInName .escape
  | backspace => .editName (String.ofList input.toList.dropLast)
  | char c => .editName (input.push c)
  | left | right | other => .pressInName .other

/-- What a key means in the account menu. -/
def inMenu (cursor : Cursor) : Key → Meaning
  | char 'p' => .go cursor (some .openProfile)
  | char 's' => .go cursor (some .signOut)
  | escape | char 'a' => .go cursor (some .closeMenu)
  | char 'q' => .leave
  | _ => .go cursor none

end Key

/-- What the user does with the item at a place: the account item opens its menu under
itself. -/
def itemAction (items : List View.Item) (index : Nat) : Option UserAction :=
  items[index]?.map fun item =>
    if item.control = .accountMenu then
      .toggleMenu (Bar.anchor? (items.map View.Item.label) index)
    else .activate item.control

/-- Selects the item at a place and does what it does, if there is one. -/
def choose (items : List View.Item) (cursor : Cursor) (index : Nat) : Meaning :=
  if index < items.length then .go ⟨index⟩ (itemAction items index) else .go cursor none

/-- What a key means on the bar. -/
def Key.onBar (items : List View.Item) (cursor : Cursor) : Key → Meaning
  | .char 'q' => .leave
  | .left | .char 'h' => .go cursor.left none
  | .right | .char 'l' => .go (cursor.right items.length) none
  | .enter | .char ' ' => .go cursor (itemAction items cursor.selected)
  | .char 'n' => .go cursor (some (.activate .newWorksheet))
  | .char 'a' =>
    choose items cursor (items.findIdx fun item => item.control == .accountMenu)
  | .char c =>
    if '1' ≤ c ∧ c ≤ '9' then choose items cursor (c.toNat - '1'.toNat) else .go cursor none
  | _ => .go cursor none

/-- What a key means to the bar that is shown. -/
def Press.meaning (press : Press) (view : View) (cursor : Cursor) : Meaning :=
  if press.control && press.key == .char 'c' then .leave
  else
    match view.dialog, view.menu with
    | some box, _ => .go cursor (some (press.key.inDialog box.input))
    | none, some _ => press.key.inMenu cursor
    | none, none => press.key.onBar view.items cursor

theorem meaning_of_dialog {press : Press} {view : View} {box : View.DialogBox}
    (cursor : Cursor) (opened : view.dialog = some box)
    (other : (press.control && press.key == .char 'c') = false) :
    press.meaning view cursor = .go cursor (some (press.key.inDialog box.input)) := by
  simp [Press.meaning, opened, other]

end WorksheetBar.Terminal
