import WorksheetBar.Terminal.Area
import WorksheetBar.Terminal.Wrap

/-!
# Screens

A grid of cells, and the ways to draw on it.  Whatever lies outside of the grid is not
drawn.

* `get?_modify` — changing a cell changes that cell and no other;
* `size_modify` — and never the size of a screen.
-/

namespace WorksheetBar.Terminal

/-- A grid of cells, row by row. -/
structure Screen where
  width : Nat
  height : Nat
  cells : Array Cell
  deriving Repr

namespace Screen

/-- An empty screen. -/
def blank (width height : Nat) : Screen := ⟨width, height, .replicate (width * height) {}⟩

/-- The whole of a screen. -/
def area (screen : Screen) : Area := ⟨0, 0, .ofNat screen.width, .ofNat screen.height⟩

/-- The cell in a column and a row. -/
def get? (screen : Screen) (x y : Nat) : Option Cell :=
  if x < screen.width then screen.cells[y * screen.width + x]? else none

/-- Changes the cell in a column and a row. -/
def modify (x y : Nat) (change : Cell → Cell) (screen : Screen) : Screen :=
  if x < screen.width then
    { screen with cells := screen.cells.modify (y * screen.width + x) change }
  else screen

/-- Puts a symbol into a cell. -/
def put (x y : Nat) (symbol : String) (style : Style) : Screen → Screen :=
  modify x y fun cell => { cell with symbol }.paint style

/-- Adds a symbol to what stands in a cell. -/
def join (x y : Nat) (symbol : String) (style : Style) : Screen → Screen :=
  modify x y fun cell => { cell with symbol := cell.symbol ++ symbol }.paint style

/-- Changes every cell of an area. -/
def modifyArea (area : Area) (change : Nat → Nat → Cell → Cell) (screen : Screen) : Screen :=
  (List.range area.height.toNat).foldl
    (fun screen row =>
      (List.range area.width.toNat).foldl
        (fun screen column =>
          let x := area.x.toNat + column
          let y := area.y.toNat + row
          screen.modify x y (change x y))
        screen)
    screen

/-- Lays a style over an area. -/
def paint (area : Area) (style : Style) : Screen → Screen :=
  modifyArea area fun _ _ cell => cell.paint style

/-- Empties an area. -/
def clear (area : Area) : Screen → Screen := modifyArea area fun _ _ _ => {}

/-- Draws glyphs from a cell to the right.  A glyph without a width is left out. -/
def drawGlyphs (x y : Nat) : List Glyph → Screen → Screen
  | [], screen => screen
  | glyph :: rest, screen =>
    let drawn := if glyph.width = 0 then screen else screen.put x y glyph.symbol glyph.style
    drawGlyphs (x + glyph.width) y rest drawn

/-- Draws lines below one another, as far as there is room. -/
def drawLines (area : Area) (lines : List (List Glyph)) (screen : Screen) : Screen :=
  ((lines.take area.height.toNat).zipIdx).foldl
    (fun screen (line, row) => screen.drawGlyphs area.x.toNat (area.y.toNat + row) line)
    screen

/-- What stands in a cell of a border. -/
def borderSymbol (area : Area) (x y : Nat) : Option String :=
  let left := x = area.x.toNat
  let top := y = area.y.toNat
  let right := x + 1 = area.right
  let bottom := y + 1 = area.bottom
  if left ∧ top then some "┌"
  else if left ∧ bottom then some "└"
  else if right ∧ top then some "┐"
  else if right ∧ bottom then some "┘"
  else if top ∨ bottom then some "─"
  else if left ∨ right then some "│"
  else none

/-- Draws a title from a cell to the right, up to a column.  A glyph without a width is
added to the one before it. -/
def drawTitle (start stop y x : Nat) (isFirst : Bool) : List Glyph → Screen → Screen
  | [], screen => screen
  | glyph :: rest, screen =>
    if stop < x + glyph.width then screen
    else
      let drawn :=
        if isFirst then screen.put x y glyph.symbol glyph.style
        else if x = start then screen.join x y glyph.symbol glyph.style
        else if glyph.width = 0 then screen.join (x - 1) y glyph.symbol glyph.style
        else screen.put x y glyph.symbol glyph.style
      drawTitle start stop y (x + glyph.width) false rest drawn

/-- Draws a frame with a title, unless there is no room for it. -/
def drawFrame (area : Area) (title : String) (border panel : Color) (screen : Screen) :
    Screen :=
  if area.isEmpty then screen else
  let glyphs := (Span.glyphs ⟨title, {}⟩).filter (·.cluster != ['\r', '\n'])
  let start := area.x.toNat + 1
  let framed := screen.modifyArea area fun x y cell =>
    let cell := cell.paint { bg := some panel }
    match borderSymbol area x y with
    | some symbol => { cell with symbol }.paint (.ofColor border)
    | none => cell
  framed.drawTitle start (area.right - 1) area.y.toNat start true glyphs

/-- The cells of a row, as they are seen: a cell after a wide one is covered by it. -/
def rowFrom (covered : Bool) : List Cell → List Cell
  | [] => []
  | cell :: rest =>
    (if covered then {} else cell)
      :: rowFrom (1 < Text.width cell.symbol.toList) rest

/-- The rows of a screen, as they are seen. -/
def rows (screen : Screen) : List (List Cell) :=
  (List.range screen.height).map fun y =>
    rowFrom false
      (screen.cells.extract (y * screen.width) ((y + 1) * screen.width)).toList

/-- Changing a cell does not change the width of a screen. -/
@[simp] theorem width_modify (x y : Nat) (change : Cell → Cell) (screen : Screen) :
    (screen.modify x y change).width = screen.width := by
  unfold modify
  split <;> rfl

/-- Two cells of a grid are the same if they have the same place in it. -/
theorem place_inj {width x y x' y' : Nat} (h : x < width) (h' : x' < width)
    (same : y * width + x = y' * width + x') : x = x' ∧ y = y' := by
  have column := congrArg (· % width) same
  simp only [Nat.mul_add_mod_self_right, Nat.mod_eq_of_lt h, Nat.mod_eq_of_lt h'] at column
  subst column
  exact ⟨rfl, Nat.eq_of_mul_eq_mul_right (by omega) (Nat.add_right_cancel same)⟩

/-- **Changing a cell changes that cell and no other.** -/
theorem get?_modify (x y : Nat) (change : Cell → Cell) (screen : Screen) (x' y' : Nat) :
    (screen.modify x y change).get? x' y' =
      if x' = x ∧ y' = y then (screen.get? x y).map change else screen.get? x' y' := by
  by_cases inside : x < screen.width
  · by_cases inside' : x' < screen.width
    · by_cases same : x' = x ∧ y' = y
      · obtain ⟨rfl, rfl⟩ := same
        simp [get?, modify, inside, Array.getElem?_modify]
      · have apart : y * screen.width + x ≠ y' * screen.width + x' := fun equal =>
          same ((place_inj inside inside' equal).imp Eq.symm Eq.symm)
        simp [get?, modify, inside, inside', same, Array.getElem?_modify, apart]
    · have apart : ¬(x' = x ∧ y' = y) := fun same => inside' (same.1 ▸ inside)
      simp [get?, modify, inside, inside', apart]
  · by_cases same : x' = x ∧ y' = y
    · obtain ⟨rfl, rfl⟩ := same
      simp [get?, modify, inside]
    · simp [get?, modify, inside, same]

/-- Changing a cell does not change the number of cells. -/
@[simp] theorem size_modify (x y : Nat) (change : Cell → Cell) (screen : Screen) :
    (screen.modify x y change).cells.size = screen.cells.size := by
  unfold modify
  split <;> simp

end Screen

end WorksheetBar.Terminal
