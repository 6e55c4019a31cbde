import WorksheetBar.Popup

/-!
# Areas of a screen

A rectangle of cells, and the two places where a popup goes: in the middle, for the
dialog, and under an anchor, for the account menu.  Coordinates are 16-bit words, as
terminals count them.

* `toNat_satAdd` — a saturating sum is the sum, capped;
* `width_dropDown` / `height_dropDown` — a menu has the size it asks for, cut to the
  screen.
-/

namespace WorksheetBar.Terminal

/-- The sum of two words, or the greatest word if that is less. -/
def satAdd (a b : UInt16) : UInt16 :=
  if a.toNat + b.toNat < UInt16.size then a + b else .ofNat (UInt16.size - 1)

/-- The difference of two words, or zero if that would be negative. -/
def satSub (a b : UInt16) : UInt16 := if b ≤ a then a - b else 0

theorem toNat_add_of_lt {a b : UInt16} (h : a.toNat + b.toNat < UInt16.size) :
    (a + b).toNat = a.toNat + b.toNat := by
  rw [UInt16.toNat_add]
  exact Nat.mod_eq_of_lt h

/-- **A saturating sum is the sum, capped.** -/
theorem toNat_satAdd (a b : UInt16) :
    (satAdd a b).toNat = min (a.toNat + b.toNat) (UInt16.size - 1) := by
  unfold satAdd
  split
  · rename_i fits
    simp only [UInt16.toNat_add, UInt16.size] at fits ⊢
    omega
  · rename_i overflows
    simp only [UInt16.size] at overflows ⊢
    simp only [Nat.reduceSub, UInt16.toNat_ofNat']
    omega

theorem toNat_satSub (a b : UInt16) : (satSub a b).toNat = a.toNat - b.toNat := by
  unfold satSub
  split
  · rename_i fits
    exact UInt16.toNat_sub_of_le _ _ fits
  · rename_i negative
    have : a.toNat < b.toNat := by simpa [UInt16.le_iff_toNat_le] using negative
    simp only [UInt16.toNat_zero]
    omega

/-- A rectangle of cells. -/
structure Area where
  x : UInt16
  y : UInt16
  width : UInt16
  height : UInt16
  deriving DecidableEq, Repr

namespace Area

/-- Whether there is no cell in an area. -/
def isEmpty (area : Area) : Bool := area.width == 0 || area.height == 0

/-- The column after the last one. -/
def right (area : Area) : Nat := area.x.toNat + area.width.toNat

/-- The row after the last one. -/
def bottom (area : Area) : Nat := area.y.toNat + area.height.toNat

/-- The area without a margin of one cell; nothing is left of an area that has no
room for one. -/
def inner (area : Area) : Area :=
  if area.width < 2 ∨ area.height < 2 then ⟨0, 0, 0, 0⟩
  else ⟨area.x + 1, area.y + 1, area.width - 2, area.height - 2⟩

/-- A share of a length in two-hundredths, to the nearest cell, a half upwards. -/
def share (length : UInt16) (twoHundredths : Nat) : Nat :=
  (length.toNat * twoHundredths + 100) / 200

/-- The area in the middle that takes the given percentages of both lengths. -/
def centered (percentX percentY : Nat) (area : Area) : Area :=
  let left := share area.width (100 - percentX)
  let top := share area.height (100 - percentY)
  { x := area.x + .ofNat left
    y := area.y + .ofNat top
    width := .ofNat (share area.width (100 + percentX) - left)
    height := .ofNat (share area.height (100 + percentY) - top) }

/-- The area of a menu at its anchor, moved to the left and up as far as it has to be
to stay on the screen.  Without an anchor it goes to the right end of the bar. -/
def dropDown (anchor : Option Anchor) (screen : Area) (width height : UInt16) : Area :=
  let width := min width screen.width
  let height := min height screen.height
  let anchor := anchor.getD ⟨satSub screen.width (width + 1), 3⟩
  { x := min (screen.x + anchor.column) (screen.x + screen.width - width)
    y := min (screen.y + anchor.row) (screen.y + screen.height - height)
    width, height }

/-- A menu is as wide as it asks for, or as the screen. -/
@[simp] theorem width_dropDown (anchor : Option Anchor) (screen : Area)
    (width height : UInt16) :
    (dropDown anchor screen width height).width = min width screen.width := rfl

/-- A menu is as high as it asks for, or as the screen. -/
@[simp] theorem height_dropDown (anchor : Option Anchor) (screen : Area)
    (width height : UInt16) :
    (dropDown anchor screen width height).height = min height screen.height := rfl

end Area

end WorksheetBar.Terminal
