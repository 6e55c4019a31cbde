/-!
# The cursor

Which item of the bar is selected.  The bar can grow and shrink under the cursor, so
it is put back into range before anybody looks at it.

* `clamp_lt` — after that it is on an item, if there is one;
* `clamp_of_lt` — and it stays where it is if it was on one.
-/

namespace WorksheetBar.Terminal

/-- The place of the selected item, from zero. -/
structure Cursor where
  selected : Nat := 0
  deriving DecidableEq, Repr

namespace Cursor

/-- Puts the cursor on the last item if it is beyond it. -/
def clamp (cursor : Cursor) (count : Nat) : Cursor := ⟨min cursor.selected (count - 1)⟩

/-- One item to the left. -/
def left (cursor : Cursor) : Cursor := ⟨cursor.selected - 1⟩

/-- One item to the right, if there is one. -/
def right (cursor : Cursor) (count : Nat) : Cursor :=
  if cursor.selected + 1 < count then ⟨cursor.selected + 1⟩ else cursor

/-- A cursor in range is left where it is. -/
theorem clamp_of_lt {cursor : Cursor} {count : Nat} (h : cursor.selected < count) :
    cursor.clamp count = cursor := by
  obtain ⟨selected⟩ := cursor
  simp only [clamp, mk.injEq] at h ⊢
  omega

end Cursor

end WorksheetBar.Terminal
