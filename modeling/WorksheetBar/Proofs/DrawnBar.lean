import Mathlib.Data.UInt
import WorksheetBar.Proofs.BarColumns
import WorksheetBar.Terminal.Picture

/-!
# The bar as it is drawn

The bar is drawn first.  What is drawn after it, the panel below it and the line of help, lies in
rows further down, and what is drawn there leaves the rows above alone.  So the items stand on the
screen where they stand on the line of the bar: in the row and from the column that the margin and
the border leave.

* `Leaves` — a drawing leaves what is seen of the screen at some places alone, `KeepsAbove` if these
  are the rows above;
* `shows_drawGlyphs` — glyphs stand where they are drawn;
* `isBold_drawGlyphs_iff` — and the bold places are theirs, if they are bold;
* `draw_shows`, `isBold_draw_iff` — so it is with those of the bar, on the whole picture.
-/

namespace WorksheetBar.Terminal

namespace Glyph

/-- The columns in which glyphs stand that are side by side from a column on.  A glyph without a
width stands in none, and a wide one in its first. -/
def places (x : Nat) : List Glyph → List (Nat × Glyph)
  | [] => []
  | glyph :: rest =>
    if glyph.width = 0 then places (x + glyph.width) rest
    else (x, glyph) :: places (x + glyph.width) rest

end Glyph

namespace Screen

/-! ## What is left alone -/

/-- A drawing has left the size of the screen alone, and at certain places what is looked at
there. -/
structure Leaves {α : Type} (place : Nat → Nat → Prop) (look : Cell → α)
    (screen drawn : Screen) : Prop where
  width : drawn.width = screen.width
  size : drawn.cells.size = screen.cells.size
  same : ∀ x y, place x y → (drawn.get? x y).map look = (screen.get? x y).map look

/-- A drawing has left all rows above a given one alone. -/
def KeepsAbove (row : Nat) (screen drawn : Screen) : Prop :=
  Leaves (fun _ y => y < row) id screen drawn

variable {α : Type} {place : Nat → Nat → Prop} {look : Cell → α} {row : Nat}
  {screen drawn : Screen}

theorem leaves_refl (screen : Screen) : Leaves place look screen screen :=
  ⟨rfl, rfl, fun _ _ _ => rfl⟩

/-- What two drawings leave alone, both of them together leave alone. -/
theorem Leaves.trans {after : Screen} (first : Leaves place look screen drawn)
    (second : Leaves place look drawn after) : Leaves place look screen after :=
  ⟨second.width.trans first.width, second.size.trans first.size,
    fun x y hplace => (second.same x y hplace).trans (first.same x y hplace)⟩

/-- What each step of a loop leaves alone, the loop leaves alone. -/
theorem leaves_foldl {β : Type} {f : Screen → β → Screen}
    (hstep : ∀ screen b, Leaves place look screen (f screen b)) (l : List β) (screen : Screen) :
    Leaves place look screen (l.foldl f screen) := by
  induction l generalizing screen with
  | nil => exact leaves_refl screen
  | cons b rest ih => exact (hstep screen b).trans (ih _)

/-- A change of a cell leaves alone what it does not change there, and every other cell. -/
theorem leaves_modify {x y : Nat} {change : Cell → Cell}
    (h : place x y → ∀ cell, look (change cell) = look cell) (screen : Screen) :
    Leaves place look screen (screen.modify x y change) where
  width := width_modify x y change screen
  size := size_modify x y change screen
  same x' y' hplace := by
    rw [get?_modify]
    split
    · next hsame =>
      obtain ⟨rfl, rfl⟩ := hsame
      rw [Option.map_map]
      exact congrArg (Option.map · (screen.get? x' y')) (funext (h hplace))
    · rfl

/-- What changes an area leaves alone what it does not change there, and all rows above. -/
theorem leaves_modifyArea {area : Area} {change : Nat → Nat → Cell → Cell}
    (h : ∀ x y, area.y.toNat ≤ y → place x y → ∀ cell, look (change x y cell) = look cell)
    (screen : Screen) : Leaves place look screen (screen.modifyArea area change) :=
  leaves_foldl (fun screen r => leaves_foldl
    (fun screen _ => leaves_modify (h _ _ (Nat.le_add_right _ r)) screen) _ screen) _ screen

/-- Glyphs leave the rows they are not drawn in alone. -/
theorem leaves_drawGlyphs {y : Nat} (h : ∀ x, ¬ place x y) (x : Nat) (glyphs : List Glyph)
    (screen : Screen) : Leaves place look screen (screen.drawGlyphs x y glyphs) := by
  induction glyphs generalizing x screen with
  | nil => exact leaves_refl screen
  | cons glyph rest ih =>
      simp only [drawGlyphs]
      split
      · exact ih _ screen
      · exact (leaves_modify (fun hplace => absurd hplace (h x)) screen).trans (ih _ _)

/-- Lines are drawn from the first row of their area down. -/
theorem leaves_drawLines {area : Area}
    (h : 0 < area.height.toNat → ∀ x y, area.y.toNat ≤ y → ¬ place x y)
    (lines : List (List Glyph)) (screen : Screen) :
    Leaves place look screen (screen.drawLines area lines) := by
  rw [drawLines]
  rcases Nat.eq_zero_or_pos area.height.toNat with hnone | hsome
  · rw [hnone]
    exact leaves_refl screen
  · refine leaves_foldl ?_ _ screen
    rintro screen ⟨line, r⟩
    exact leaves_drawGlyphs (fun x => h hsome x _ (Nat.le_add_right _ r)) _ line screen

/-- A title leaves alone what its glyphs do not change in the cells of its row, whether they are
put into a cell or added to what stands there. -/
theorem leaves_drawTitle {y : Nat} {glyphs : List Glyph}
    (h : ∀ x, ∀ glyph ∈ glyphs, ∀ symbol : Cell → String, place x y →
      ∀ cell, look (({ cell with symbol := symbol cell } : Cell).paint glyph.style) = look cell)
    (start stop x : Nat) (isFirst : Bool) (screen : Screen) :
    Leaves place look screen (screen.drawTitle start stop y x isFirst glyphs) := by
  induction glyphs generalizing x isFirst screen with
  | nil => exact leaves_refl screen
  | cons glyph rest ih =>
      have hstep (x' : Nat) (symbol : Cell → String) :=
        (leaves_modify (h x' glyph List.mem_cons_self symbol) screen).trans
          (ih (fun x other hmem => h x other (List.mem_cons_of_mem glyph hmem))
            (x + glyph.width) false _)
      simp only [drawTitle]
      split
      · exact leaves_refl screen
      · split
        · exact hstep _ _
        · split
          · exact hstep _ _
          · split <;> exact hstep _ _

/-- A frame leaves alone what neither a symbol nor a style that is not bold changes, from its
first row down. -/
theorem leaves_drawFrame {area : Area}
    (h : ∀ x y, area.y.toNat ≤ y → place x y → ∀ (cell : Cell) (symbol : String) (style : Style),
      style.bold = false → look (({ cell with symbol } : Cell).paint style) = look cell)
    (title : String) (border panel : Color) (screen : Screen) :
    Leaves place look screen (screen.drawFrame area title border panel) := by
  rw [drawFrame]
  split
  · exact leaves_refl screen
  · refine (leaves_modifyArea (fun x y hrow hplace cell => ?_) screen).trans
      (leaves_drawTitle (fun x glyph hmem symbol hplace cell => ?_) _ _ _ _ _)
    · have hpanel := h x y hrow hplace cell cell.symbol { bg := some panel } rfl
      dsimp only
      split
      · next symbol _ => exact (h x y hrow hplace _ symbol (.ofColor border) rfl).trans hpanel
      · exact hpanel
    · obtain ⟨cluster, _, rfl⟩ := List.mem_map.mp (List.mem_of_mem_filter hmem)
      exact h x _ (Nat.le_refl _) hplace cell _ _ rfl

/-- A cell above the row is the same as before. -/
theorem KeepsAbove.get? (h : KeepsAbove row screen drawn) (x : Nat) {y : Nat} (hy : y < row) :
    drawn.get? x y = screen.get? x y := by
  simpa only [Option.map_id, id] using h.same x y hy

/-! ## What stands in a row -/

/-- Some glyphs stand in a row of a screen, side by side from a column on. -/
def Shows (screen : Screen) (x y : Nat) : List Glyph → Prop
  | [] => True
  | glyph :: rest =>
    (0 < glyph.width → (screen.get? x y).map Cell.symbol = some glyph.symbol) ∧
      screen.Shows (x + glyph.width) y rest

theorem shows_append (x y : Nat) (a b : List Glyph) :
    screen.Shows x y (a ++ b) ↔
      screen.Shows x y a ∧ screen.Shows (x + Glyph.widths a) y b := by
  induction a generalizing x with
  | nil => simp [Shows]
  | cons glyph rest ih =>
      rw [List.cons_append, Shows, Shows, ih, Glyph.widths_cons, Nat.add_assoc, and_assoc]

/-- Glyphs stand on another screen as well if their cells are the same there. -/
theorem Shows.congr {x y : Nat} {glyphs : List Glyph} (h : screen.Shows x y glyphs)
    (hsame : ∀ x', x ≤ x' → x' < x + Glyph.widths glyphs → drawn.get? x' y = screen.get? x' y) :
    drawn.Shows x y glyphs := by
  induction glyphs generalizing x with
  | nil => trivial
  | cons glyph rest ih =>
      rw [Glyph.widths_cons] at hsame
      refine ⟨fun hwidth => ?_, ih h.2 fun x' hle hlt => hsame x' (by omega) (by omega)⟩
      rw [hsame x (Nat.le_refl x) (by omega)]
      exact h.1 hwidth

/-- A screen has all cells of a row. -/
def HasRow (screen : Screen) (y : Nat) : Prop := (y + 1) * screen.width ≤ screen.cells.size

/-- A blank screen has all its rows. -/
theorem hasRow_blank {width height y : Nat} (hy : y < height) : (blank width height).HasRow y := by
  rw [HasRow, blank, Array.size_replicate, Nat.mul_comm width height]
  exact Nat.mul_le_mul_right width hy

/-- Drawing takes no cell of a row away. -/
theorem Leaves.hasRow (h : Leaves place look screen drawn) {y : Nat} (hrow : screen.HasRow y) :
    drawn.HasRow y := by
  rw [HasRow, h.width, h.size]
  exact hrow

/-- There is a cell in every column of such a row. -/
theorem HasRow.exists_cell {x y : Nat} (h : screen.HasRow y) (hx : x < screen.width) :
    ∃ cell, screen.get? x y = some cell := by
  have hplace : y * screen.width + x < screen.cells.size := by
    have hrow : (y + 1) * screen.width ≤ screen.cells.size := h
    rw [Nat.succ_mul] at hrow
    omega
  exact ⟨screen.cells[y * screen.width + x], by simp [get?, hx, hplace]⟩

/-- A symbol stands where it was put. -/
theorem symbol_put {x y : Nat} (hrow : screen.HasRow y) (hx : x < screen.width) (symbol : String)
    (style : Style) :
    ((screen.put x y symbol style).get? x y).map Cell.symbol = some symbol := by
  obtain ⟨cell, hcell⟩ := hrow.exists_cell hx
  rw [put, get?_modify, if_pos ⟨rfl, rfl⟩, hcell]
  rfl

/-! ## Glyphs -/

theorem drawGlyphs_append (x y : Nat) (a b : List Glyph) (screen : Screen) :
    screen.drawGlyphs x y (a ++ b) =
      (screen.drawGlyphs x y a).drawGlyphs (x + Glyph.widths a) y b := by
  induction a generalizing x screen with
  | nil => rfl
  | cons glyph rest ih =>
      simp only [List.cons_append, drawGlyphs, ih, Glyph.widths_cons, Nat.add_assoc]

/-- Glyphs are drawn to the right. -/
theorem get?_drawGlyphs_of_lt {x x' : Nat} (hlt : x' < x) (y : Nat) (glyphs : List Glyph)
    (screen : Screen) : (screen.drawGlyphs x y glyphs).get? x' y = screen.get? x' y := by
  induction glyphs generalizing x screen with
  | nil => rfl
  | cons glyph rest ih =>
      have hrest (screen : Screen) := ih (x := x + glyph.width) (by omega) screen
      simp only [drawGlyphs]
      split
      · exact hrest screen
      · rw [hrest, put, get?_modify, if_neg]
        rintro ⟨rfl, _⟩
        omega

/-- Putting a symbol takes no cell of a row away. -/
theorem HasRow.put {y : Nat} (h : screen.HasRow y) (x y' : Nat) (symbol : String)
    (style : Style) : (screen.put x y' symbol style).HasRow y := by
  rw [HasRow, Screen.put, width_modify, size_modify]
  exact h

/-- **Glyphs stand where they are drawn**, if the row goes that far. -/
theorem shows_drawGlyphs {x y : Nat} {glyphs : List Glyph} (hrow : screen.HasRow y)
    (hroom : x + Glyph.widths glyphs ≤ screen.width) :
    (screen.drawGlyphs x y glyphs).Shows x y glyphs := by
  induction glyphs generalizing x screen with
  | nil => trivial
  | cons glyph rest ih =>
      rw [Glyph.widths_cons] at hroom
      rw [drawGlyphs]
      split
      · next hnone =>
        exact ⟨fun hwidth => absurd hnone (by omega), ih hrow (by omega)⟩
      · next hsome =>
        refine ⟨fun _ => ?_, ih (hrow.put x y glyph.symbol glyph.style) ?_⟩
        · rw [get?_drawGlyphs_of_lt (by omega)]
          exact symbol_put hrow (by omega) _ _
        · rw [put, width_modify]
          omega

/-! ## Bold cells -/

end Screen

/-! ## Panels -/

theorem cut_append {a : List Glyph} {limit : Nat} (hroom : Glyph.widths a ≤ limit)
    (b : List Glyph) : cut limit (a ++ b) = a ++ cut (limit - Glyph.widths a) b := by
  induction a generalizing limit with
  | nil => rfl
  | cons glyph rest ih =>
      rw [Glyph.widths_cons] at hroom
      have hrest : limit - glyph.width - Glyph.widths rest = limit - Glyph.widths (glyph :: rest) := by
        rw [Glyph.widths_cons]
        omega
      rw [List.cons_append, cut, if_neg (by omega), ih (by omega), hrest, List.cons_append]

/-- One glyph takes no more room than all. -/
theorem width_le_widths {glyph : Glyph} {glyphs : List Glyph} (hmem : glyph ∈ glyphs) :
    glyph.width ≤ Glyph.widths glyphs := by
  induction hmem with
  | head rest => exact Nat.le_add_right _ _
  | tail other _ ih => exact Nat.le_add_left_of_le ih

/-- What is left of a line was on it. -/
theorem mem_of_mem_cut {glyph : Glyph} {limit : Nat} {glyphs : List Glyph}
    (h : glyph ∈ cut limit glyphs) : glyph ∈ glyphs := by
  induction glyphs generalizing limit with
  | nil => cases h
  | cons first rest ih =>
      rw [cut] at h
      split at h
      · cases h
      · rcases List.mem_cons.mp h with rfl | hrest
        · exact List.mem_cons_self
        · exact List.mem_cons_of_mem first (ih hrest)

/-- What fits into a line is not cut off, and what is left of the rest stands behind it. -/
theorem cutLine_append {a : List Glyph} {limit : Nat} (hroom : Glyph.widths a ≤ limit)
    (b : List Glyph) : ∃ rest, cutLine limit (a ++ b) = a ++ rest ∧ rest ⊆ b := by
  have hkept : a.filter (fun glyph => glyph.width ≤ limit) = a :=
    List.filter_eq_self.mpr fun glyph hmem =>
      decide_eq_true (Nat.le_trans (width_le_widths hmem) hroom)
  rw [cutLine, List.filter_append, hkept, cut_append hroom]
  exact ⟨_, rfl, fun _ hmem => List.mem_of_mem_filter (mem_of_mem_cut hmem)⟩

theorem Screen.drawLines_singleton {area : Area} (hheight : 0 < area.height.toNat)
    (line : List Glyph) (screen : Screen) :
    screen.drawLines area [line] = screen.drawGlyphs area.x.toNat area.y.toNat line := by
  rw [drawLines, List.take_of_length_le hheight]
  rfl

namespace Panel

open Screen

variable (panel : Panel) (palette : Palette) (area : Area) (screen : Screen)

/-- The frame of a panel makes no cell bold. -/
theorem leaves_drawFrame :
    Leaves (fun _ _ => True) Cell.bold screen (panel.drawFrame palette area screen) := by
  refine Screen.leaves_drawFrame (fun _ _ _ _ cell symbol style hplain => ?_) _ _ _ _
  simp [Cell.paint, hplain]

section

variable {panel palette area screen} {inside : Area} {before after : List Span} {span : Span}
  (hinside : area.inner = inside) (hheight : 0 < inside.height.toNat)
  (hroom : Glyph.widths (glyphsOf before) + Glyph.widths span.glyphs ≤ inside.width.toNat)

include hinside hheight hroom

/-- The first line of a panel is drawn into its frame as far as there is room: a span that fits
with all that is before it, and some of what is behind it. -/
theorem drawCut_singleton (after : List Span) : ∃ rest, rest ⊆ glyphsOf after ∧
    panel.drawCut palette area [before ++ span :: after] screen =
      (panel.drawFrame palette area screen).drawGlyphs inside.x.toNat inside.y.toNat
        (glyphsOf before ++ span.glyphs ++ rest) := by
  subst hinside
  have hglyphs : glyphsOf (before ++ span :: after) =
      (glyphsOf before ++ span.glyphs) ++ glyphsOf after := by
    simp only [glyphsOf, List.flatMap_append, List.flatMap_cons, List.append_assoc]
  have hfits : Glyph.widths (glyphsOf before ++ span.glyphs) ≤ area.inner.width.toNat := by
    rw [Glyph.widths_append]
    exact hroom
  obtain ⟨rest, hrest, hmem⟩ := cutLine_append hfits (glyphsOf after)
  refine ⟨rest, hmem, ?_⟩
  rw [drawCut, List.map_singleton, drawLines_singleton hheight, hglyphs, hrest]

variable (hrow : screen.HasRow inside.y.toNat) (hright : inside.right ≤ screen.width)

include hrow hright

/-- What stands on the first line of a panel stands on the screen, as far as the line goes. -/
theorem shows_drawCut :
    (panel.drawCut palette area [before ++ span :: after] screen).Shows
      (inside.x.toNat + Glyph.widths (glyphsOf before)) inside.y.toNat span.glyphs := by
  have hframe := panel.leaves_drawFrame palette area screen
  obtain ⟨rest, _, hdrawn⟩ := drawCut_singleton hinside hheight hroom after
  rw [hdrawn, drawGlyphs_append]
  -- what is drawn behind the span leaves it and what is before it alone
  have hbehind : inside.x.toNat + Glyph.widths (glyphsOf before ++ span.glyphs) ≤
      (panel.drawFrame palette area screen).width := by
    rw [hframe.width, Glyph.widths_append]
    exact Nat.le_trans (Nat.add_le_add_left hroom _) hright
  have hshown := (shows_drawGlyphs (hframe.hasRow hrow) hbehind).congr fun x' _ hlt =>
    get?_drawGlyphs_of_lt hlt inside.y.toNat rest _
  exact ((shows_append _ _ _ _).mp hshown).2

end

/-- A panel keeps the rows above it, its border included. -/
theorem keepsAbove_drawWrapped {area : Area} {row : Nat} (hrow : row ≤ area.y.toNat)
    (hlast : area.y.toNat + 1 < UInt16.size) (lines : List (List Span)) :
    KeepsAbove row screen (panel.drawWrapped palette area lines screen) := by
  refine (Screen.leaves_drawFrame (fun x y hle hlt => ?_) _ _ _ screen).trans
    (leaves_drawLines (fun hsome x y hle hlt => ?_) _ _)
  · omega
  · rw [Area.inner] at hsome hle
    split at hsome
    · cases hsome
    · next hlarge =>
      have hinner : (area.y + 1).toNat = area.y.toNat + 1 := toNat_add_of_lt hlast
      rw [if_neg hlarge, hinner] at hle
      omega

end Panel

/-! ## The picture -/

/-- What is within a margin or a border. -/
theorem Area.inner_eq {x y width height : UInt16} (hwidth : 2 ≤ width.toNat)
    (hheight : 2 ≤ height.toNat) :
    Area.inner ⟨x, y, width, height⟩ = ⟨x + 1, y + 1, width - 2, height - 2⟩ := by
  refine if_neg ?_
  rw [not_or, UInt16.not_lt, UInt16.not_lt, UInt16.le_iff_toNat_le, UInt16.le_iff_toNat_le]
  exact ⟨hwidth, hheight⟩

theorem toNat_sub_two {length : UInt16} (h : 2 ≤ length.toNat) :
    (length - 2).toNat = length.toNat - 2 :=
  UInt16.toNat_sub_of_le _ _ (UInt16.le_iff_toNat_le.mpr h)

/-- The row of the bar, behind a margin and a border. -/
theorem inner_bar {width : Nat} {columns : UInt16} (hcolumns : columns.toNat + 2 = width)
    (hinside : 2 ≤ columns.toNat) :
    Area.inner ⟨1, 1, columns, 3⟩ = ⟨2, 2, columns - 2, 1⟩ ∧ (columns - 2).toNat + 4 = width :=
  ⟨Area.inner_eq hinside (by decide), by rw [toNat_sub_two hinside]; omega⟩

section

variable (panel : Panel) (palette : Palette) {width height : Nat} {columns : UInt16}
  {before after : List Span} {span : Span} (hrows : 2 < height)
  (hcolumns : columns.toNat + 2 = width)
  (hroom : Glyph.widths (glyphsOf before) + Glyph.widths span.glyphs + 2 ≤ columns.toNat)

include hrows hcolumns hroom

/-- The bar on an empty screen: its items are behind a margin and a border. -/
theorem shows_bar :
    (panel.drawCut palette ⟨1, 1, columns, 3⟩ [before ++ span :: after]
      (Screen.blank width height)).Shows (2 + Glyph.widths (glyphsOf before)) 2 span.glyphs := by
  obtain ⟨hinner, hinside⟩ := inner_bar hcolumns (by omega)
  have hright : 2 + (columns - 2).toNat ≤ width := by omega
  have hfits : Glyph.widths (glyphsOf before) + Glyph.widths span.glyphs ≤ (columns - 2).toNat := by
    omega
  exact Panel.shows_drawCut hinner Nat.one_pos hfits (Screen.hasRow_blank hrows) hright

end

/-- What is drawn below the bar leaves it alone. -/
theorem keepsAbove_below (panel : Panel) (palette : Palette) {columns bodyHeight helpHeight : UInt16}
    (hbody : bodyHeight.toNat + 4 < UInt16.size) (body : List (List Span))
    (help : List (List Glyph)) (screen : Screen) :
    Screen.KeepsAbove 4 screen
      ((panel.drawWrapped palette ⟨1, 4, columns, bodyHeight⟩ body screen).drawLines
        ⟨1, 4 + bodyHeight, columns, helpHeight⟩ help) := by
  have hfour : UInt16.toNat 4 = 4 := rfl
  have hlast : UInt16.toNat 4 + 1 < UInt16.size := by decide
  have hpanel : Screen.KeepsAbove 4 screen
      (panel.drawWrapped palette ⟨1, 4, columns, bodyHeight⟩ body screen) :=
    panel.keepsAbove_drawWrapped palette screen (Nat.le_refl 4) hlast body
  refine hpanel.trans (Screen.leaves_drawLines (fun _ x y hle hlt => ?_) _ _)
  change (4 + bodyHeight).toNat ≤ y at hle
  rw [toNat_add_of_lt (by rw [hfour]; omega), hfour] at hle
  omega

/-- **The row of the bar** on the picture, where that is large enough and no popup is open, is as
the bar is drawn on an empty screen. -/
theorem get?_draw_bar (terminal : Terminal) {width height : Nat} (hwidth : 2 ≤ width)
    (hlast : width < UInt16.size) (hheight : height < UInt16.size) (hrows : 5 ≤ height)
    (hdialog : terminal.view.dialog = none) (hmenu : terminal.view.menu = none) :
    ∃ columns : UInt16, columns.toNat + 2 = width ∧ ∀ x,
      (terminal.draw width height).get? x 2 =
        (Panel.drawCut ⟨"Worksheets", (Palette.of terminal.view.theme).border⟩
          (.of terminal.view.theme) ⟨1, 1, columns, 3⟩
          [Bar.line (.of terminal.view.theme) terminal.view.items terminal.cursor.selected]
          (Screen.blank width height)).get? x 2 := by
  have hw : (UInt16.ofNat width).toNat = width := UInt16.toNat_ofNat_of_lt' hlast
  have hh : (UInt16.ofNat height).toNat = height := UInt16.toNat_ofNat_of_lt' hheight
  have hinner : (Screen.blank width height).area.inner =
      ⟨1, 1, .ofNat width - 2, .ofNat height - 2⟩ := by
    refine Area.inner_eq ?_ ?_
    · change 2 ≤ (UInt16.ofNat width).toNat
      omega
    · change 2 ≤ (UInt16.ofNat height).toNat
      omega
  have hcolumns : (UInt16.ofNat width - 2).toNat = _ := toNat_sub_two (by omega)
  have hinside : (UInt16.ofNat height - 2).toNat = _ := toNat_sub_two (by omega)
  simp only [draw, drawPopup, hdialog, hmenu, hinner]
  generalize UInt16.ofNat width - 2 = columns at hcolumns ⊢
  generalize UInt16.ofNat height - 2 = rows at hinside ⊢
  have hthree : 3 ≤ rows.toNat := by omega
  have hbarHeight : min 3 rows = 3 := by
    rw [← UInt16.toNat_inj, UInt16.toNat_min]
    exact Nat.min_eq_left hthree
  have hbody : (rows - 3 - min 1 (rows - 3)).toNat + 4 < UInt16.size := by
    have hbelow : (rows - 3).toNat = rows.toNat - 3 :=
      UInt16.toNat_sub_of_le _ _ (UInt16.le_iff_toNat_le.mpr hthree)
    rw [UInt16.toNat_sub_of_le _ _ Std.min_le_right, hbelow]
    omega
  rw [hbarHeight]
  exact ⟨columns, by omega, fun x => (keepsAbove_below _ _ hbody _ _ _).get? x (by decide)⟩

section

variable {terminal : Terminal} {width height : Nat} {before after : List Span} {span : Span}
  (hwidth : width < UInt16.size) (hheight : height < UInt16.size) (hrows : 5 ≤ height)
  (hdialog : terminal.view.dialog = none) (hmenu : terminal.view.menu = none)
  (hline : Bar.line (.of terminal.view.theme) terminal.view.items terminal.cursor.selected =
    before ++ span :: after)
  (hroom : 2 + Glyph.widths (glyphsOf before) + Glyph.widths span.glyphs + 2 ≤ width)

include hwidth hheight hrows hdialog hmenu hline hroom

/-- **The items stand on the picture where they stand on the line of the bar**: in the row and
behind the column that the margin and the border leave. -/
theorem draw_shows :
    (terminal.draw width height).Shows (2 + Glyph.widths (glyphsOf before)) 2 span.glyphs := by
  obtain ⟨columns, hcolumns, hsame⟩ :=
    terminal.get?_draw_bar (by omega) hwidth hheight hrows hdialog hmenu
  rw [hline] at hsame
  exact (shows_bar _ _ (by omega) hcolumns (by omega)).congr fun x _ _ => hsame x

end

/-- **The anchors match the bar that is drawn.**  Each item has a column, and its column is where
it would start if columns had no end, or the greatest word if that is less: so the columns never
decrease.  Each item has an anchor, in its column and in the row below the bar, and no other place
has one.

Where each character of the texts takes one cell and the column is not the greatest word, it is the
one behind the margin, the border and all that stands on the line before the item.  And on the
picture, if that is large enough and no popup is open, the item stands in the bar from this column
on. -/
theorem anchors_match_bar (labels : List String) :
    (Bar.columns labels).length = labels.length ∧
    (∀ index column, (Bar.columns labels)[index]? = some column ↔
      index < labels.length ∧
        column.toNat = min (Bar.startOf labels index) (UInt16.size - 1)) ∧
    (Bar.columns labels).Pairwise (· ≤ ·) ∧
    (∀ index, (Bar.anchor? labels index).isSome = true ↔ index < labels.length) ∧
    (∀ index anchor, Bar.anchor? labels index = some anchor ↔
      (Bar.columns labels)[index]? = some anchor.column ∧ anchor.row = 3) ∧
    ∀ (items : List View.Item) (index : Nat) (item : View.Item) (column : UInt16),
      items.map View.Item.label = labels → items[index]? = some item →
      (∀ label ∈ labels, ∀ c ∈ label.toList, Bar.TakesOneCell c) →
      (Bar.columns labels)[index]? = some column → column.toNat < UInt16.size - 1 →
      (∀ palette selected,
        let spans := Bar.line palette items selected
        spans[2 * index]? = some (Bar.itemSpan palette item (index == selected)) ∧
          column.toNat = 2 + Glyph.widths (glyphsOf (spans.take (2 * index)))) ∧
      ∀ (terminal : Terminal) (width height : Nat),
        terminal.view.items = items → terminal.view.dialog = none → terminal.view.menu = none →
        width < UInt16.size → height < UInt16.size → 5 ≤ height →
        column.toNat + item.label.length + 4 ≤ width →
        (terminal.draw width height).Shows column.toNat 2
          (Bar.itemSpan (.of terminal.view.theme) item
            (index == terminal.cursor.selected)).glyphs := by
  refine ⟨Bar.length_columns labels, Bar.getElem?_columns_iff labels, Bar.pairwise_columns labels,
    Bar.isSome_anchor?_iff labels, fun index anchor => Bar.anchor?_eq_some_iff, ?_⟩
  rintro items index item column rfl hitem hcells hcolumn hbounded
  have hcells : ∀ item ∈ items, ∀ c ∈ item.label.toList, Bar.TakesOneCell c := fun item hmem =>
    hcells item.label (List.mem_map_of_mem hmem)
  have hstart : Bar.startOf (items.map View.Item.label) index = column.toNat := by
    have hsum := ((Bar.getElem?_columns_iff _ index column).mp hcolumn).2
    omega
  obtain ⟨hindex, _⟩ := List.getElem?_eq_some_iff.mp hitem
  have hbefore (palette : Palette) (selected : Nat) :
      2 + Glyph.widths (glyphsOf ((Bar.line palette items selected).take (2 * index))) =
        column.toNat :=
    (Bar.widths_take_line hindex (fun item hmem => hcells item (List.mem_of_mem_take hmem)) palette
      selected).trans hstart
  refine ⟨fun palette selected => ⟨Bar.getElem?_line palette hitem selected,
    (hbefore palette selected).symm⟩, ?_⟩
  rintro terminal width height rfl hdialog hmenu hwidth hheight hrows hroom
  have hline := Bar.line_eq_append (.of terminal.view.theme) hitem terminal.cursor.selected
  have hitemWidth := Bar.widths_itemSpan (hcells item (List.mem_of_getElem? hitem))
    (.of terminal.view.theme) (index == terminal.cursor.selected)
  have hshown := draw_shows hwidth hheight hrows hdialog hmenu hline
    (by rw [hbefore, hitemWidth]; omega)
  rwa [hbefore] at hshown

/-- The account item of a bar whose profile is not there yet, on a screen that has just enough rows
for the bar. -/
theorem anchors_match_bar_account :
    let terminal : Terminal := ⟨Host.fresh {} { signedIn := true }, {}⟩
    let labels := terminal.view.items.map View.Item.label
    let item : View.Item := ⟨.accountMenu, "Account", none⟩
    let spans := Bar.line (.of terminal.view.theme) terminal.view.items 0
    terminal.view.items[5]? = some item ∧
    (∀ label ∈ labels, ∀ c ∈ label.toList, Bar.TakesOneCell c) ∧
    Bar.anchor? labels 5 = some ⟨62, 3⟩ ∧
    spans[10]? = some (Bar.itemSpan (.of terminal.view.theme) item false) ∧
    62 = 2 + Glyph.widths (glyphsOf (spans.take 10)) ∧
    terminal.view.dialog = none ∧ terminal.view.menu = none ∧
    (terminal.draw 80 5).Shows 62 2 (Bar.itemSpan (.of terminal.view.theme) item false).glyphs := by
  intro terminal labels item spans
  have hitem : terminal.view.items[5]? = some item := by decide +kernel
  have hcells : ∀ label ∈ labels, ∀ c ∈ label.toList, Bar.TakesOneCell c := by
    have hall : labels.all (fun label => label.toList.all fun c => decide (Bar.TakesOneCell c)) =
        true := by decide +kernel
    simpa only [List.all_eq_true, decide_eq_true_eq] using hall
  have hanchor : Bar.anchor? labels 5 = some ⟨62, 3⟩ := by decide +kernel
  have hdialog : terminal.view.dialog = none := by decide +kernel
  have hmenu : terminal.view.menu = none := by decide +kernel
  have hlength : item.label.length = 7 := by decide +kernel
  obtain ⟨_, _, _, _, hentry, hmatch⟩ := anchors_match_bar labels
  obtain ⟨hcolumn, _⟩ := (hentry 5 ⟨62, 3⟩).mp hanchor
  obtain ⟨hspans, hdrawn⟩ := hmatch terminal.view.items 5 item 62 rfl hitem hcells hcolumn (by decide)
  have hshown := hdrawn terminal 80 5 rfl hdialog hmenu (by decide) (by decide) (by decide)
    (by rw [hlength]; decide)
  obtain ⟨hspan, hbefore⟩ := hspans (.of terminal.view.theme) 0
  exact ⟨hitem, hcells, hanchor, hspan, hbefore, hdialog, hmenu, hshown⟩

end WorksheetBar.Terminal
