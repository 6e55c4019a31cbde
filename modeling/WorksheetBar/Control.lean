import WorksheetBar.Config

/-!
# The controls of the action bar

A control is one item of the bar.  Which controls are shown depends on nothing
but whether the user is signed in; a control either leads to a fixed link or
drives the bar itself.

* `mem_visible` — the controls that are shown are exactly those that `isVisible`
  allows;
* `visible_sorted` — they are shown in the order of their declaration.
-/

namespace WorksheetBar

/-- Controls the action bar can show.  Declaration order is display order. -/
inductive Control where
  | dashboard
  | newWorksheet
  | gallery
  | howTo
  | contact
  | signUp
  | login
  | accountMenu
  deriving DecidableEq, Repr

namespace Control

/-- Every control, in display order. -/
def all : List Control :=
  [dashboard, newWorksheet, gallery, howTo, contact, signUp, login, accountMenu]

/-- The place of a control in display order. -/
def rank : Control → Nat
  | dashboard => 0
  | newWorksheet => 1
  | gallery => 2
  | howTo => 3
  | contact => 4
  | signUp => 5
  | login => 6
  | accountMenu => 7

/-- The one-word name used in the journal. -/
def name : Control → String
  | dashboard => "Dashboard"
  | newWorksheet => "NewWorksheet"
  | gallery => "Gallery"
  | howTo => "HowTo"
  | contact => "Contact"
  | signUp => "SignUp"
  | login => "Login"
  | accountMenu => "AccountMenu"

/-- The text shown on the bar. -/
def label : Control → String
  | dashboard => "My Dashboard"
  | newWorksheet => "New Worksheet"
  | gallery => "Gallery"
  | howTo => "How-To"
  | contact => "Contact"
  | signUp => "Sign Up"
  | login => "Login"
  | accountMenu => "Account"

/-- Where a link control leads; `none` for the two controls that drive the bar
instead of navigating. -/
def link? (links : Links) : Control → Option String
  | dashboard => some links.dashboard
  | gallery => some links.gallery
  | howTo => some links.howTo
  | contact => some links.contact
  | signUp => some links.signUp
  | login => some links.login
  | newWorksheet | accountMenu => none

/-! ## What is shown

The two users of the bar see different controls.  Whether one of them sees a control is
looked up in a list of those, in no particular order; the bar itself is filled from an
ordered set of them. -/

/-- The controls for a user who is signed in, or for one who is not. -/
def offered (signedIn : Bool) : List Control :=
  if signedIn then [dashboard, newWorksheet, gallery, howTo, contact, accountMenu]
  else [signUp, login, gallery, howTo, contact]

/-- Whether a control is shown to a user who is signed in, or to one who is not. -/
def isVisible (signedIn : Bool) (control : Control) : Bool := (offered signedIn).contains control

/-- The control for a new worksheet is shown to a user who is signed in. -/
@[simp] theorem isVisible_newWorksheet (signedIn : Bool) :
    newWorksheet.isVisible signedIn = signedIn := by
  cases signedIn <;> rfl

/-- The control for the account menu is shown to a user who is signed in. -/
@[simp] theorem isVisible_accountMenu (signedIn : Bool) :
    accountMenu.isVisible signedIn = signedIn := by
  cases signedIn <;> rfl

/-- Puts a control into a set in display order.  What is there already is not put in again. -/
def insert (control : Control) : List Control → List Control
  | [] => [control]
  | other :: rest =>
    if control.rank < other.rank then control :: other :: rest
    else if control = other then other :: rest
    else other :: insert control rest

/-- The set of some controls, in display order. -/
def inOrder (controls : List Control) : List Control :=
  controls.foldr insert []

/-- The controls that are shown, in display order. -/
def visible (signedIn : Bool) : List Control := inOrder (offered signedIn)

/-- There are no other controls. -/
theorem mem_all (control : Control) : control ∈ all := by
  cases control <;> decide

/-- Controls have the same place only if they are the same. -/
theorem rank_injective {a b : Control} (h : a.rank = b.rank) : a = b := by
  cases a <;> cases b <;> first | rfl | cases h

/-- A set that a control is put into has that control and those it had. -/
theorem mem_insert {control added : Control} {set : List Control} :
    control ∈ insert added set ↔ control = added ∨ control ∈ set := by
  induction set with
  | nil => simp [insert]
  | cons other rest ih =>
      unfold insert
      split
      · simp
      · split
        · next same => simp [same]
        · simp [ih, or_left_comm]

/-- **A set in order has the controls that were put in**, whatever their order was. -/
theorem mem_inOrder {control : Control} {controls : List Control} :
    control ∈ inOrder controls ↔ control ∈ controls := by
  induction controls with
  | nil => rfl
  | cons first rest ih => simp [inOrder, mem_insert, ← ih]

/-- **The controls that are shown are those that are visible.** -/
@[simp] theorem mem_visible {signedIn : Bool} {control : Control} :
    control ∈ visible signedIn ↔ control.isVisible signedIn = true := by
  rw [visible, mem_inOrder, isVisible, List.contains_iff_mem]

/-- Putting a control into a set in order leaves it in order. -/
theorem insert_sorted {added : Control} {set : List Control}
    (sorted : set.Pairwise fun a b => a.rank < b.rank) :
    (insert added set).Pairwise fun a b => a.rank < b.rank := by
  induction set with
  | nil => exact List.pairwise_singleton _ _
  | cons other rest ih =>
      obtain ⟨first, others⟩ := List.pairwise_cons.mp sorted
      unfold insert
      split
      · next before =>
          refine List.pairwise_cons.mpr ⟨fun control mem => ?_, sorted⟩
          rcases List.mem_cons.mp mem with rfl | mem
          · exact before
          · exact Nat.lt_trans before (first control mem)
      · next behind =>
          split
          · exact sorted
          · next apart =>
              refine List.pairwise_cons.mpr ⟨fun control mem => ?_, ih others⟩
              rcases mem_insert.mp mem with same | mem
              · have ranks : added.rank ≠ other.rank := fun equal => apart (rank_injective equal)
                rw [same]
                omega
              · exact first control mem

/-- **The controls that are shown are in display order**, each of them once. -/
theorem visible_sorted (signedIn : Bool) :
    (visible signedIn).Pairwise (fun a b => a.rank < b.rank) := by
  unfold visible inOrder
  induction offered signedIn with
  | nil => exact List.Pairwise.nil
  | cons first rest ih => exact insert_sorted ih

end Control

end WorksheetBar
