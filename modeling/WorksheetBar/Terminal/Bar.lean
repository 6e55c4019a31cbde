import WorksheetBar.Shell.View
import WorksheetBar.Terminal.Area
import WorksheetBar.Terminal.Palette
import WorksheetBar.Terminal.Span

/-!
# The bar on the screen

The items of the bar side by side, with a stroke between them, and the columns at which
they start.  Columns are reckoned in characters, and stop at the greatest word.

* `length_columns` — every item has a column;
* `isSome_anchor?_iff` — and so an anchor.
-/

namespace WorksheetBar.Terminal.Bar

/-- What stands between two items. -/
def separator : String := "│"

/-- How many cells a text is reckoned to take: one for each character. -/
def reckonedWidth (text : String) : UInt16 :=
  if text.length < UInt16.size then .ofNat text.length else .ofNat (UInt16.size - 1)

/-- The columns of some items, the first of which starts at a given column. -/
def columnsFrom (column : UInt16) : List String → List UInt16
  | [] => []
  | label :: rest =>
    column :: columnsFrom
      (satAdd (satAdd column (satAdd (reckonedWidth label) 2)) (reckonedWidth separator)) rest

/-- The columns at which the items start: a margin and a border are before the first,
and every label has a space on both sides. -/
def columns (labels : List String) : List UInt16 := columnsFrom 2 labels

/-- The cell below the left edge of an item: a margin, a border and a row of text are
above it. -/
def anchor? (labels : List String) (index : Nat) : Option Anchor :=
  (columns labels)[index]?.map fun column => ⟨column, 3⟩

/-- The style of an item: links and controls that act differ in colour, and the selected
item has a colour behind it. -/
def itemStyle (palette : Palette) (item : View.Item) (isSelected : Bool) : Style :=
  { fg := some (if item.link.isSome then palette.accent else palette.success)
    bg := if isSelected then some palette.selected else none
    bold := isSelected }

/-- An item on the bar. -/
def itemSpan (palette : Palette) (item : View.Item) (isSelected : Bool) : Span :=
  ⟨" " ++ item.label ++ " ", itemStyle palette item isSelected⟩

/-- The items of the bar side by side. -/
def line (palette : Palette) (items : List View.Item) (selected : Nat) : List Span :=
  items.zipIdx.flatMap fun (item, index) =>
    (if 0 < index then [.colored palette.muted separator] else [])
      ++ [itemSpan palette item (index == selected)]

@[simp] theorem length_columnsFrom (column : UInt16) (labels : List String) :
    (columnsFrom column labels).length = labels.length := by
  induction labels generalizing column with
  | nil => rfl
  | cons label rest ih => simp [columnsFrom, ih]

@[simp] theorem length_columns (labels : List String) :
    (columns labels).length = labels.length := by
  simp [columns]

/-- Every item has an anchor, and nothing else has. -/
theorem isSome_anchor?_iff (labels : List String) (index : Nat) :
    (anchor? labels index).isSome = true ↔ index < labels.length := by
  simp [anchor?]

end WorksheetBar.Terminal.Bar
