import WorksheetBar.Proofs.Popups
import WorksheetBar.Shell.View

/-!
# What a click does is what the bar shows

The picture of the bar and the step of the shell decide on their own which controls there are
and where a link leads: the picture from the list of the visible controls, the step from a check
of the one that was clicked.  They agree.  An item with a destination is a link and leads there;
an item without one is a button for a popup; and a control that is not on the bar does nothing
but leave a note in the journal.

* `mem_items_iff` — an item of the bar is the item of a visible control;
* `step_link`, `step_newWorksheet`, `step_accountMenu`, `step_hidden` — what a click comes to;
* `clicks_do_what_is_shown` — the same, told from the picture.
-/

namespace WorksheetBar

/-- The controls without a destination are those for the popups. -/
theorem Control.link?_eq_none_iff {links : Links} {control : Control} :
    control.link? links = none ↔ control = .newWorksheet ∨ control = .accountMenu := by
  cases control <;> simp [link?]

/-- Only a signed-in user is shown the controls for the popups. -/
theorem Control.signedIn_of_link?_eq_none {links : Links} {control : Control} {signedIn : Bool}
    (hvisible : control.isVisible signedIn = true) (hlink : control.link? links = none) :
    signedIn = true := by
  rcases link?_eq_none_iff.mp hlink with rfl | rfl <;> simpa using hvisible

/-- A menu is flipped: it is closed, or it opens at an anchor with a name above it. -/
def View.flipped (menu : Option View.MenuBox) (anchor : Option Anchor)
    (userName : Option String) : Option View.MenuBox :=
  match menu with
  | some _ => none
  | none => some { anchor, userName }

namespace Shell

variable {shell : Shell} {control : Control}

/-! ## The items -/

/-- An item of the bar is the item of a control that is shown. -/
theorem mem_items_iff {item : View.Item} :
    item ∈ shell.view.items ↔
      item.control.isVisible shell.signedIn = true ∧ item = shell.item item.control := by
  constructor
  · intro hmem
    obtain ⟨control, hvisible, rfl⟩ := List.mem_map.mp hmem
    exact ⟨Control.mem_visible.mp hvisible, rfl⟩
  · rintro ⟨hvisible, heq⟩
    exact List.mem_map.mpr ⟨item.control, Control.mem_visible.mpr hvisible, heq.symm⟩

/-- A control that is not on the bar is hidden. -/
theorem isVisible_eq_false (h : ∀ item ∈ shell.view.items, item.control ≠ control) :
    control.isVisible shell.signedIn = false := by
  by_contra hvisible
  have hvisible : control.isVisible shell.signedIn = true := by simpa using hvisible
  have hmem : shell.item control ∈ shell.view.items := mem_items_iff.mpr ⟨hvisible, rfl⟩
  exact h _ hmem rfl

/-- The items stand in the order of their controls. -/
theorem items_sorted (shell : Shell) :
    shell.view.items.Pairwise fun item next => item.control.rank < next.control.rank :=
  List.pairwise_map.mpr (Control.visible_sorted shell.signedIn)

/-! ## Clicks -/

/-- A link leads to its destination, and nothing changes. -/
theorem step_link {path : String} (hvisible : control.isVisible shell.signedIn = true)
    (hlink : control.link? shell.config.links = some path) :
    shell.step (.user (.activate control)) = (shell, [.navigate path]) := by
  simp [step, stepUser, activate, hvisible, hlink]

/-- The dialog opens, and takes the place of the menu. -/
theorem step_newWorksheet (hsigned : shell.signedIn = true) :
    shell.step (.user (.activate .newWorksheet)) =
      ({ shell with menu := .closed, dialog := .shown "" }, [.requestFrame]) := by
  simp [step, stepUser, activate, Control.link?, hsigned]

/-- Only a signed-in user can toggle the menu, and that calls for a frame. -/
theorem toggleMenu_eq (hsigned : shell.signedIn = true) (anchor : Option Anchor) :
    shell.toggleMenu anchor =
      ({ shell with menu := shell.menu.toggle (some anchor) }, [.requestFrame]) := by
  unfold toggleMenu
  rw [hsigned, if_neg (by decide)]
  cases hmenu : shell.menu <;> rfl

/-- The menu opens, without an anchor, or it closes. -/
theorem step_accountMenu (hsigned : shell.signedIn = true) :
    shell.step (.user (.activate .accountMenu)) =
      ({ shell with menu := shell.menu.toggle (some none) }, [.requestFrame]) := by
  rw [← toggleMenu_eq hsigned]
  simp [step, stepUser, activate, Control.link?, hsigned]

/-- A hidden control is noted in the journal. -/
theorem step_hidden (hhidden : control.isVisible shell.signedIn = false) :
    shell.step (.user (.activate control)) =
      (shell.log .debug .shell ("ignored hidden control " ++ control.name), []) := by
  simp [step, stepUser, activate, hhidden]

/-! ## The next picture -/

/-- The picture with the dialog open and empty, and no menu. -/
theorem view_opened (shell : Shell) :
    { shell with menu := .closed, dialog := .shown "" }.view =
      { shell.view with dialog := some { input := "" }, menu := none } :=
  rfl

/-- The picture with the menu flipped at an anchor. -/
theorem view_toggled (hsigned : shell.signedIn = true) (anchor : Option Anchor) :
    { shell with menu := shell.menu.toggle (some anchor) }.view =
      { shell.view with
        menu := View.flipped shell.view.menu anchor shell.session.userName? } := by
  cases hmenu : shell.menu with
  | closed =>
      have hbox : shell.view.menu = none := by simp [view, hmenu]
      have hopened : { shell with menu := .shown anchor }.view =
          { shell.view with
            menu := if shell.signedIn then some { anchor, userName := shell.session.userName? }
              else none } := rfl
      rw [hbox, AccountMenu.toggle, hopened, hsigned]
      rfl
  | shown other =>
      have hbox : shell.view.menu =
          some { anchor := other, userName := shell.session.userName? } := by
        simp [view, hmenu, hsigned]
      rw [hbox]
      rfl

/-- **What the bar shows is what a click does**, whatever has become of the shell.  The items
stand in the order of the controls.  A click on an item with a destination goes there and changes
nothing.  A click on an item without one calls for a frame and changes nothing but the popups: the
next picture is the same but that the dialog is open and empty and the menu closed, or that the
menu is flipped.  A click on a control that is not on the bar asks for nothing and changes nothing
but the journal, by one entry. -/
theorem clicks_do_what_is_shown (shell : Shell) :
    (shell.view.items.Pairwise fun item next => item.control.rank < next.control.rank) ∧
    (∀ item ∈ shell.view.items, ∀ path, item.link = some path →
      shell.step (.user (.activate item.control)) = (shell, [.navigate path])) ∧
    (∀ item ∈ shell.view.items, item.link = none →
      ∃ after, shell.step (.user (.activate item.control)) = (after, [.requestFrame]) ∧
        after = { shell with dialog := after.dialog, menu := after.menu } ∧
        (item.control = .newWorksheet ∧
            after.view = { shell.view with dialog := some { input := "" }, menu := none } ∨
          item.control = .accountMenu ∧ after.dialog = shell.dialog ∧
            after.view = { shell.view with
              menu := View.flipped shell.view.menu none shell.session.userName? })) ∧
    (∀ control, (∀ item ∈ shell.view.items, item.control ≠ control) →
      let entry : Journal.Entry :=
        { level := .debug, topic := .shell, message := "ignored hidden control " ++ control.name }
      shell.step (.user (.activate control)) =
        ({ shell with journal := shell.journal.append entry }, [])) := by
  refine ⟨items_sorted shell, ?_, ?_, fun control h => step_hidden (isVisible_eq_false h)⟩
  · intro item hmem path hlink
    obtain ⟨hvisible, hitem⟩ := mem_items_iff.mp hmem
    rw [hitem] at hlink
    exact step_link hvisible hlink
  · intro item hmem hlink
    obtain ⟨hvisible, hitem⟩ := mem_items_iff.mp hmem
    rw [hitem] at hlink
    have hsigned : shell.signedIn = true := Control.signedIn_of_link?_eq_none hvisible hlink
    rcases Control.link?_eq_none_iff.mp hlink with hnew | hmenu
    · rw [hnew]
      exact ⟨_, step_newWorksheet hsigned, rfl, Or.inl ⟨rfl, view_opened shell⟩⟩
    · rw [hmenu]
      exact ⟨_, step_accountMenu hsigned, rfl, Or.inr ⟨rfl, rfl, view_toggled hsigned none⟩⟩

/-- A menu is open on the bar of a signed-in user: a link is followed past it, the dialog takes
its place, its own control closes it, and a control for guests is not there. -/
theorem clicks_do_what_is_shown_with_menu :
    let shell := (fresh {} true).run [.runtime .mount, .user (.toggleMenu (some ⟨70, 3⟩))]
    shell.item .gallery ∈ shell.view.items ∧
    shell.step (.user (.activate .gallery)) = (shell, [.navigate "/worksheets?name=home"]) ∧
    shell.item .accountMenu ∈ shell.view.items ∧ (shell.item .accountMenu).link = none ∧
    shell.view.menu.isSome = true ∧
    (shell.step (.user (.activate .accountMenu))).1.view = { shell.view with menu := none } ∧
    (∀ item ∈ shell.view.items, item.control ≠ .login) ∧
    (shell.step (.user (.activate .login))).2 = [] := by
  intro shell
  obtain ⟨_, hlinks, hpopups, hhidden⟩ := clicks_do_what_is_shown shell
  have hgallery : shell.item .gallery ∈ shell.view.items := by decide +kernel
  have haccount : shell.item .accountMenu ∈ shell.view.items := by decide +kernel
  have hlogin : ∀ item ∈ shell.view.items, item.control ≠ .login := by decide +kernel
  have hopen : shell.view.menu.isSome = true := by decide +kernel
  obtain ⟨after, hstep, _, hnew | ⟨_, _, hview⟩⟩ := hpopups _ haccount rfl
  · exact absurd hnew.1 (by decide)
  · obtain ⟨box, hbox⟩ := Option.isSome_iff_exists.mp hopen
    rw [hbox, View.flipped] at hview
    refine ⟨hgallery, hlinks _ hgallery _ rfl, haccount, rfl, hopen, ?_, hlogin, ?_⟩
    · rw [show Control.accountMenu = (shell.item .accountMenu).control from rfl, hstep]
      exact hview
    · rw [hhidden .login hlogin]

end Shell

end WorksheetBar
