import Mathlib.Data.UInt
import WorksheetBar.Terminal.Picture

/-!
# Where the account menu goes

The place of a menu is reckoned in words: the column and the row at which it would stand, and
the last ones at which it still lies on the screen, of which the lesser is taken.  Words wrap
around, so a sum that leaves their range would put the menu anywhere.  The same reckoning in
words that do not wrap, but fail, tells when that happens: `dropDown?` takes the same sums and
differences, and where none of them fails it comes to the same place.

Columns and rows are reckoned alike.  What is said about the one is said of stretches of cells,
and holds of the other.

* `Stretch.IsPutAt` — a stretch stands at a place, or as little before it as lets it lie inside;
* `alongside?_eq_some_iff` — when the reckoning along one of the axes stays in range;
* `dropDown?_some_iff`, `dropDown?_none_iff` — and when all of it does;
* `menu_stays_on_screen` — a menu lies on the screen, and as close to its anchor as that allows.
-/

namespace WorksheetBar.Terminal

/-! ## Stretches of cells -/

/-- Cells side by side, in a row or in a column of the screen. -/
structure Stretch where
  start : Nat
  length : Nat

namespace Stretch

/-- The cell after the last one. -/
def stop (stretch : Stretch) : Nat := stretch.start + stretch.length

/-- No cell of a stretch lies outside of the other one. -/
def IsInside (stretch outer : Stretch) : Prop :=
  outer.start ≤ stretch.start ∧ stretch.stop ≤ outer.stop

/-- A stretch lies inside another one, with so many cells of that before it, or fewer if it
cannot have as many.  It has as many as it can: none of its length has more of them. -/
structure IsPutAt (stretch outer : Stretch) (offset : Nat) : Prop where
  inside : stretch.IsInside outer
  start_le : stretch.start ≤ outer.start + offset
  nearest : ∀ start, IsInside ⟨start, stretch.length⟩ outer → start ≤ outer.start + offset →
    start ≤ stretch.start

variable {stretch outer : Stretch} {offset : Nat}

/-- Where there is room for it, a stretch has as many cells before it as it is to have. -/
theorem IsPutAt.start_eq (h : stretch.IsPutAt outer offset)
    (hroom : offset + stretch.length ≤ outer.length) : stretch.start = outer.start + offset := by
  have hinside : IsInside ⟨outer.start + offset, stretch.length⟩ outer := by
    simp only [IsInside, stop]
    omega
  exact Nat.le_antisymm h.start_le (h.nearest _ hinside (Nat.le_refl _))

/-- The greatest place that is not beyond the one that is wanted, and from which a stretch does
not reach beyond the end. -/
theorem isPutAt_min {length : Nat} (outer : Stretch) (offset : Nat)
    (hlength : length ≤ outer.length) :
    IsPutAt ⟨outer.start + min offset (outer.length - length), length⟩ outer offset where
  inside := by simp only [IsInside, stop]; omega
  start_le := by simp only; omega
  nearest := by
    intro start hinside hstart
    simp only [IsInside, stop] at hinside hstart ⊢
    omega

end Stretch

/-! ## Words that do not wrap -/

/-- The sum of two words, if it is a word. -/
def add? (a b : UInt16) : Option UInt16 :=
  if a.toNat + b.toNat < UInt16.size then some (a + b) else none

/-- The difference of two words, if it is not negative. -/
def sub? (a b : UInt16) : Option UInt16 := if b ≤ a then some (a - b) else none

/-- A sum is reckoned if it is a word. -/
theorem add?_eq_some_iff {a b c : UInt16} :
    add? a b = some c ↔ a.toNat + b.toNat < UInt16.size ∧ a + b = c := by
  rw [add?, Option.ite_none_right_eq_some, Option.some.injEq]

/-- A difference is reckoned if it is not negative. -/
theorem sub?_eq_some_iff {a b c : UInt16} : sub? a b = some c ↔ b ≤ a ∧ a - b = c := by
  rw [sub?, Option.ite_none_right_eq_some, Option.some.injEq]

/-! ## One axis -/

/-- Where a menu of a given length starts along one of the axes of the screen. -/
def alongside (start length offset size : UInt16) : UInt16 :=
  min (start + offset) (start + length - size)

/-- Where a menu starts along an axis, unless a sum or a difference leaves the range of words. -/
def alongside? (start length offset size : UInt16) : Option UInt16 := do
  let stop ← add? start length
  let last ← sub? stop size
  let wanted ← add? start offset
  return min wanted last

section

variable {start length offset size place : UInt16}

/-- The difference never leaves the range of words, as a menu is cut to the screen. -/
theorem size_le_stop (hsize : size ≤ length)
    (hstop : start.toNat + length.toNat < UInt16.size) : size ≤ start + length := by
  rw [UInt16.le_iff_toNat_le] at hsize ⊢
  rw [toNat_add_of_lt hstop]
  omega

/-- **The reckoning along an axis** of a menu that is not longer than the screen stays in range
if the screen ends at a word and the place that is wanted is a word. -/
theorem alongside?_eq_some_iff (hsize : size ≤ length) :
    alongside? start length offset size = some place ↔
      start.toNat + length.toNat < UInt16.size ∧ start.toNat + offset.toNat < UInt16.size ∧
        alongside start length offset size = place := by
  simp only [alongside?, Option.bind_eq_bind, Option.bind_eq_some_iff, add?_eq_some_iff,
    sub?_eq_some_iff, Option.pure_def, Option.some.injEq, alongside]
  constructor
  · rintro ⟨_, ⟨hstop, rfl⟩, _, ⟨_, rfl⟩, _, ⟨hwanted, rfl⟩, hplace⟩
    exact ⟨hstop, hwanted, hplace⟩
  · rintro ⟨hstop, hwanted, hplace⟩
    exact ⟨_, ⟨hstop, rfl⟩, _, ⟨size_le_stop hsize hstop, rfl⟩, _, ⟨hwanted, rfl⟩, hplace⟩

/-- In range, a menu starts at the place that is wanted, or at the last one there is for it. -/
theorem isPutAt_alongside (hsize : size ≤ length)
    (hstop : start.toNat + length.toNat < UInt16.size)
    (hwanted : start.toNat + offset.toNat < UInt16.size) :
    Stretch.IsPutAt ⟨(alongside start length offset size).toNat, size.toNat⟩
      ⟨start.toNat, length.toNat⟩ offset.toNat := by
  have hle : size.toNat ≤ length.toNat := UInt16.le_iff_toNat_le.mp hsize
  have hlast : size ≤ start + length := size_le_stop hsize hstop
  have hplace : (alongside start length offset size).toNat =
      start.toNat + min offset.toNat (length.toNat - size.toNat) := by
    rw [alongside, UInt16.toNat_min, UInt16.toNat_sub_of_le _ _ hlast, toNat_add_of_lt hstop,
      toNat_add_of_lt hwanted]
    omega
  rw [hplace]
  exact Stretch.isPutAt_min ⟨start.toNat, length.toNat⟩ _ hle

end

/-! ## The area of a menu -/

namespace Area

/-- The columns of an area. -/
def columns (area : Area) : Stretch := ⟨area.x.toNat, area.width.toNat⟩

/-- The rows of an area. -/
def rows (area : Area) : Stretch := ⟨area.y.toNat, area.height.toNat⟩

/-- No cell of an area lies outside of the other one. -/
def IsInside (area outer : Area) : Prop :=
  area.columns.IsInside outer.columns ∧ area.rows.IsInside outer.rows

/-- The area of a menu, unless a sum or a difference leaves the range of words. -/
def dropDown? (anchor : Option Anchor) (screen : Area) (width height : UInt16) : Option Area := do
  let width := min width screen.width
  let height := min height screen.height
  let anchor ← match anchor with
    | some anchor => some anchor
    | none => (add? width 1).map fun taken => ⟨satSub screen.width taken, 3⟩
  let x ← alongside? screen.x screen.width anchor.column width
  let y ← alongside? screen.y screen.height anchor.row height
  return { x, y, width, height }

/-- Where a menu is to be: at its anchor, or where it leaves the last column free. -/
def wanted (anchor : Option Anchor) (screen : Area) (width : UInt16) : Anchor :=
  anchor.getD ⟨satSub screen.width (min width screen.width + 1), 3⟩

variable {anchor : Option Anchor} {place : Anchor} {screen area : Area} {width height : UInt16}

/-- **The reckoning stays in range** of a menu with an anchor if the screen ends at words and
the anchor is at words on it. -/
theorem dropDown?_some_iff :
    dropDown? (some place) screen width height = some area ↔
      screen.right < UInt16.size ∧ screen.bottom < UInt16.size ∧
        screen.x.toNat + place.column.toNat < UInt16.size ∧
        screen.y.toNat + place.row.toNat < UInt16.size ∧
        dropDown (some place) screen width height = area := by
  simp only [dropDown?, Option.bind_eq_bind, Option.bind_some, Option.bind_eq_some_iff,
    alongside?_eq_some_iff Std.min_le_right, Option.pure_def, Option.some.injEq]
  constructor
  · rintro ⟨x, ⟨hright, hcolumn, rfl⟩, y, ⟨hbottom, hrow, rfl⟩, rfl⟩
    exact ⟨hright, hbottom, hcolumn, hrow, rfl⟩
  · rintro ⟨hright, hbottom, hcolumn, hrow, rfl⟩
    exact ⟨_, ⟨hright, hcolumn, rfl⟩, _, ⟨hbottom, hrow, rfl⟩, rfl⟩

/-- Without an anchor there is one more sum: the columns of the menu and the one left free. -/
theorem dropDown?_none :
    dropDown? none screen width height =
      (add? (min width screen.width) 1).bind fun taken =>
        dropDown? (some ⟨satSub screen.width taken, 3⟩) screen width height :=
  Option.bind_map

/-- **The reckoning stays in range** of a menu without an anchor if the screen ends at words, the
fourth row of it is at a word, and so is the column behind the menu. -/
theorem dropDown?_none_iff :
    dropDown? none screen width height = some area ↔
      (min width screen.width).toNat + 1 < UInt16.size ∧
        screen.right < UInt16.size ∧ screen.bottom < UInt16.size ∧
        screen.y.toNat + 3 < UInt16.size ∧ dropDown none screen width height = area := by
  rw [dropDown?_none, Option.bind_eq_some_iff]
  simp only [add?_eq_some_iff, dropDown?_some_iff]
  constructor
  · rintro ⟨_, ⟨htaken, rfl⟩, hright, hbottom, _, hrow, rfl⟩
    exact ⟨htaken, hright, hbottom, hrow, rfl⟩
  · rintro ⟨htaken, hright, hbottom, hrow, rfl⟩
    refine ⟨_, ⟨htaken, rfl⟩, hright, hbottom, ?_, hrow, rfl⟩
    rw [toNat_satSub]
    simp only [right] at hright
    omega

end Area

/-! ## Menus in range -/

/-- What has to be known of a screen, of an anchor and of the width of a menu for its place to be
reckoned: the screen ends at words, the menu is not as wide as the widest screen, and the anchor,
or the fourth row of the screen if there is none, is at words. -/
structure Reckonable (anchor : Option Anchor) (screen : Area) (width : UInt16) : Prop where
  right : screen.right < UInt16.size
  bottom : screen.bottom < UInt16.size
  width : width.toNat < UInt16.size - 1
  anchored : ∀ place ∈ anchor, screen.x.toNat + place.column.toNat < UInt16.size ∧
    screen.y.toNat + place.row.toNat < UInt16.size
  unanchored : anchor = none → screen.y.toNat + 3 < UInt16.size

namespace Reckonable

variable {anchor : Option Anchor} {screen : Area} {width : UInt16}

/-- The column behind the menu is at a word, wherever the menu is. -/
theorem taken_lt (h : Reckonable anchor screen width) :
    (min width screen.width).toNat + 1 < UInt16.size := by
  have hwidth := h.width
  rw [UInt16.toNat_min]
  omega

/-- **No step of the reckoning leaves the range of words.** -/
theorem dropDown?_eq (h : Reckonable anchor screen width) (height : UInt16) :
    Area.dropDown? anchor screen width height =
      some (Area.dropDown anchor screen width height) := by
  cases anchor with
  | some place =>
      obtain ⟨hcolumn, hrow⟩ := h.anchored place rfl
      exact Area.dropDown?_some_iff.mpr ⟨h.right, h.bottom, hcolumn, hrow, rfl⟩
  | none =>
      exact Area.dropDown?_none_iff.mpr ⟨h.taken_lt, h.right, h.bottom, h.unanchored rfl, rfl⟩

/-- A menu without an anchor is to begin at a column of the screen. -/
theorem wanted_lt (h : Reckonable anchor screen width) :
    screen.x.toNat + (Area.wanted anchor screen width).column.toNat < UInt16.size ∧
      screen.y.toNat + (Area.wanted anchor screen width).row.toNat < UInt16.size := by
  cases anchor with
  | some place => exact h.anchored place rfl
  | none =>
      refine ⟨?_, h.unanchored rfl⟩
      have hright := h.right
      simp only [Area.wanted, Option.getD_none, toNat_satSub, Area.right] at hright ⊢
      omega

/-- **The columns of a menu** begin where they are to begin, or as little before it as lets them
lie on the screen. -/
theorem columns (h : Reckonable anchor screen width) (height : UInt16) :
    (Area.dropDown anchor screen width height).columns.IsPutAt screen.columns
      (Area.wanted anchor screen width).column.toNat :=
  isPutAt_alongside Std.min_le_right h.right h.wanted_lt.1

/-- The rows of a menu begin where they are to begin, or as little before it as lets them lie on the
screen. -/
theorem rows (h : Reckonable anchor screen width) (height : UInt16) :
    (Area.dropDown anchor screen width height).rows.IsPutAt screen.rows
      (Area.wanted anchor screen width).row.toNat :=
  isPutAt_alongside Std.min_le_right h.bottom h.wanted_lt.2

/-- A menu without an anchor leaves the last column free of a screen that is wider than it. -/
theorem right_of_none (h : Reckonable none screen width) (height : UInt16)
    (hwidth : width < screen.width) :
    (Area.dropDown none screen width height).right + 1 = screen.right := by
  have hlt : width.toNat < screen.width.toNat := UInt16.lt_iff_toNat_lt.mp hwidth
  have hcut : (min width screen.width).toNat = width.toNat := by
    rw [UInt16.toNat_min]
    omega
  have hcolumn : (Area.wanted none screen width).column.toNat =
      screen.width.toNat - (width.toNat + 1) := by
    rw [Area.wanted, Option.getD_none, toNat_satSub, toNat_add_of_lt h.taken_lt, hcut]
    rfl
  have hstart := (h.columns height).start_eq
  simp only [Area.columns, Area.width_dropDown, hcut, hcolumn] at hstart
  simp only [Area.right, Area.width_dropDown, hcut]
  omega

end Reckonable

/-! ## The menu of the bar -/

/-- Any anchor will do on the screen of a terminal, which begins at the first cell there is. -/
theorem reckonable_area (anchor : Option Anchor) (screen : Screen) :
    Reckonable anchor screen.area 24 := by
  have hword (word : UInt16) : UInt16.toNat 0 + word.toNat < UInt16.size := by
    rw [UInt16.toNat_zero, Nat.zero_add]
    exact word.toNat_lt
  exact
    { right := hword _
      bottom := hword _
      width := by decide
      anchored := fun place _ => ⟨hword _, hword _⟩
      unanchored := fun _ => hword 3 }

/-- The account menu is drawn where a menu of 24 columns and 4 rows goes. -/
theorem drawMenu_eq {shell : Shell} {box : View.MenuBox} (hmenu : shell.view.menu = some box)
    (palette : Palette) (screen : Screen) :
    let area := Area.dropDown box.anchor screen.area 24 4
    drawMenu palette box screen =
      Panel.drawCut ⟨box.userName.getD "Account", palette.border⟩ palette area
        (menuLines palette box) (screen.clear area) := by
  have hentries : box.entries = AccountMenu.entries := by
    simp only [Shell.view] at hmenu
    split at hmenu
    · cases hmenu
    · split at hmenu
      · cases hmenu
        rfl
      · cases hmenu
  have hheight : UInt16.ofNat (box.entries.length + 2) = 4 := by
    rw [hentries]
    rfl
  rw [drawMenu, hheight]

/-- **The account menu is on the screen.**  On a screen that ends at words, with an anchor that is
at words on it or without one, no step of the reckoning leaves their range.  The menu lies on the
screen and has the size that is asked for, cut to the screen.  Its columns begin at the anchor and
so do its rows, where they have room there; where they have not, they begin as little before it as
possible.  Without an anchor the last column of a wider screen is left free.

The screen of a terminal meets this for the account menu, of 24 columns and 4 rows, whatever its
anchor is: also one at the greatest column, where the bar has too long a text in it. -/
theorem menu_stays_on_screen :
    (∀ (anchor : Option Anchor) (screen : Area) (width height : UInt16),
      Reckonable anchor screen width →
      let area := Area.dropDown anchor screen width height
      Area.dropDown? anchor screen width height = some area ∧
      area.IsInside screen ∧
      area.width = min width screen.width ∧ area.height = min height screen.height ∧
      (∀ place ∈ anchor,
        area.columns.IsPutAt screen.columns place.column.toNat ∧
        area.rows.IsPutAt screen.rows place.row.toNat ∧
        (place.column.toNat + area.width.toNat ≤ screen.width.toNat →
          area.x.toNat = screen.x.toNat + place.column.toNat) ∧
        (place.row.toNat + area.height.toNat ≤ screen.height.toNat →
          area.y.toNat = screen.y.toNat + place.row.toNat)) ∧
      (anchor = none → width < screen.width → area.right + 1 = screen.right)) ∧
    (∀ (anchor : Option Anchor) (screen : Screen), Reckonable anchor screen.area 24) ∧
    ∀ (shell : Shell) (box : View.MenuBox) (palette : Palette) (screen : Screen),
      shell.view.menu = some box →
      let area := Area.dropDown box.anchor screen.area 24 4
      drawMenu palette box screen =
        Panel.drawCut ⟨box.userName.getD "Account", palette.border⟩ palette area
          (menuLines palette box) (screen.clear area) := by
  refine ⟨fun anchor screen width height h => ?_, reckonable_area,
    fun shell box palette screen hmenu => drawMenu_eq hmenu palette screen⟩
  refine ⟨h.dropDown?_eq height, ⟨(h.columns height).inside, (h.rows height).inside⟩, rfl, rfl,
    ?_, ?_⟩
  · rintro place rfl
    exact ⟨h.columns height, h.rows height, (h.columns height).start_eq, (h.rows height).start_eq⟩
  · rintro rfl hwidth
    exact h.right_of_none height hwidth

/-- A menu in the corner of a screen that ends near the last words and has three rows, and one
without an anchor. -/
theorem menu_stays_on_screen_corner :
    let corner : Area := ⟨65000, 65000, 500, 3⟩
    let area : Area := ⟨65476, 65000, 24, 3⟩
    let screen := (Screen.blank 40 10).area
    Reckonable (some ⟨490, 2⟩) corner 24 ∧
    Area.dropDown? (some ⟨490, 2⟩) corner 24 4 = some area ∧ area.IsInside corner ∧
    area.columns.IsPutAt corner.columns 490 ∧ area.rows.IsPutAt corner.rows 2 ∧
    Reckonable none screen 24 ∧ (24 : UInt16) < screen.width ∧
    Area.dropDown? none screen 24 4 = some ⟨15, 3, 24, 4⟩ ∧
    (Area.dropDown none screen 24 4).right + 1 = screen.right := by
  intro corner area screen
  obtain ⟨hplaced, hscreen, _⟩ := menu_stays_on_screen
  have hcorner : Reckonable (some ⟨490, 2⟩) corner 24 :=
    { right := by decide
      bottom := by decide
      width := by decide
      anchored := by rintro place ⟨⟩; decide
      unanchored := by rintro ⟨⟩ }
  have harea : Area.dropDown (some ⟨490, 2⟩) corner 24 4 = area := by decide
  have hfree : Area.dropDown none screen 24 4 = ⟨15, 3, 24, 4⟩ := by decide
  have hwidth : (24 : UInt16) < screen.width := by decide
  have hnone := hscreen none (Screen.blank 40 10)
  obtain ⟨hreckoned, hinside, _, _, hanchor, _⟩ := hplaced _ _ _ 4 hcorner
  obtain ⟨hcolumns, hrows, _⟩ := hanchor ⟨490, 2⟩ rfl
  obtain ⟨hreckoned', _, _, _, _, hright⟩ := hplaced _ _ _ 4 hnone
  rw [harea] at hreckoned hinside hcolumns hrows
  refine ⟨hcorner, hreckoned, hinside, hcolumns, hrows, hnone, hwidth, ?_, hright rfl hwidth⟩
  rw [hreckoned', hfree]

end WorksheetBar.Terminal
