import Mathlib.Algebra.GroupWithZero.Nat
import Mathlib.Data.List.Basic
import WorksheetBar.Terminal.Bar

/-!
# The columns of the items

The columns at which the items start are reckoned apart from the line that is drawn: from the
left, each from the one before it, in characters, and in words that stop at the greatest one.
Stopping on the way makes no difference, so a column is the whole sum, cut once.

The line has a stroke before each item but the first, and the reckoning one behind each item.
With one more stroke in front the line is as regular as the reckoning, and the items before an
item take as many cells as the reckoning gives them, if each of their characters takes one.

* `getElem?_columns_iff` — the columns of the items are sums, cut at the greatest word;
* `pairwise_columns` — they never decrease;
* `widths_take_line` — and they are where the items start on the line.
-/

namespace WorksheetBar.Terminal.Bar

/-! ## Sums that stop -/

/-- Where an item would start if columns had no end: a margin and a border are before the items,
and each item before it takes its label, a space on both sides of that and a stroke. -/
def startOf (labels : List String) (index : Nat) : Nat :=
  2 + ((labels.take index).map fun label => label.length + 3).sum

theorem toNat_reckonedWidth (text : String) :
    (reckonedWidth text).toNat = min text.length (UInt16.size - 1) := by
  have hsize : UInt16.size = 2 ^ 16 := rfl
  unfold reckonedWidth
  split <;> rw [UInt16.toNat_ofNat'] <;> omega

/-- The column behind an item and a stroke. -/
theorem toNat_next (column : UInt16) (label : String) :
    (satAdd (satAdd column (satAdd (reckonedWidth label) 2)) (reckonedWidth separator)).toNat =
      min (column.toNat + (label.length + 3)) (UInt16.size - 1) := by
  have hstroke : (reckonedWidth separator).toNat = 1 := by decide
  have hspaces : UInt16.toNat 2 = 2 := rfl
  rw [toNat_satAdd, toNat_satAdd, toNat_satAdd, toNat_reckonedWidth, hstroke, hspaces]
  omega

/-- **A column is the sum of all that is before it**, cut once. -/
theorem getElem?_columnsFrom_iff (column start : UInt16) (labels : List String) (index : Nat) :
    (columnsFrom column labels)[index]? = some start ↔
      index < labels.length ∧ start.toNat =
        min (column.toNat + ((labels.take index).map fun label => label.length + 3).sum)
          (UInt16.size - 1) := by
  induction labels generalizing column index with
  | nil => simp [columnsFrom]
  | cons label rest ih =>
      cases index with
      | zero =>
          have hword : column.toNat < UInt16.size := column.toNat_lt
          have hcut : min (column.toNat + 0) (UInt16.size - 1) = column.toNat := by omega
          simp only [columnsFrom, List.getElem?_cons_zero, Option.some.injEq, List.length_cons,
            Nat.zero_lt_succ, true_and, List.take_zero, List.map_nil, List.sum_nil, hcut,
            UInt16.toNat_inj]
          exact eq_comm
      | succ index =>
          have hsum (sum : Nat) : min (min (column.toNat + (label.length + 3)) (UInt16.size - 1) + sum)
              (UInt16.size - 1) = min (column.toNat + (label.length + 3 + sum)) (UInt16.size - 1) := by
            omega
          simp only [columnsFrom, List.getElem?_cons_succ, ih, toNat_next, hsum, List.length_cons,
            Nat.add_lt_add_iff_right, List.take_succ_cons, List.map_cons, List.sum_cons]

/-- **The columns of the items are the sums up to them**, cut at the greatest word. -/
theorem getElem?_columns_iff (labels : List String) (index : Nat) (column : UInt16) :
    (columns labels)[index]? = some column ↔
      index < labels.length ∧ column.toNat = min (startOf labels index) (UInt16.size - 1) :=
  getElem?_columnsFrom_iff 2 column labels index

/-- An item has its anchor in its column, in the row below the bar. -/
theorem anchor?_eq_some_iff {labels : List String} {index : Nat} {anchor : Anchor} :
    anchor? labels index = some anchor ↔
      (columns labels)[index]? = some anchor.column ∧ anchor.row = 3 := by
  obtain ⟨column, row⟩ := anchor
  simp only [anchor?, Option.map_eq_some_iff, Anchor.mk.injEq]
  constructor
  · rintro ⟨start, hstart, rfl, rfl⟩
    exact ⟨hstart, rfl⟩
  · rintro ⟨hstart, rfl⟩
    exact ⟨column, hstart, rfl, rfl⟩

/-- No column is before the first. -/
theorem le_of_mem_columnsFrom {column start : UInt16} {labels : List String}
    (hmem : start ∈ columnsFrom column labels) : column ≤ start := by
  obtain ⟨index, hindex⟩ := List.mem_iff_getElem?.mp hmem
  have hsum := ((getElem?_columnsFrom_iff column start labels index).mp hindex).2
  have hword : column.toNat < UInt16.size := column.toNat_lt
  rw [UInt16.le_iff_toNat_le, hsum]
  omega

/-- Columns from any first one on never decrease. -/
theorem pairwise_columnsFrom (column : UInt16) (labels : List String) :
    (columnsFrom column labels).Pairwise (· ≤ ·) := by
  induction labels generalizing column with
  | nil => exact List.Pairwise.nil
  | cons label rest ih =>
      refine List.Pairwise.cons (fun start hmem => ?_) (ih _)
      have hnext := UInt16.le_iff_toNat_le.mp (le_of_mem_columnsFrom hmem)
      have hword : column.toNat < UInt16.size := column.toNat_lt
      rw [toNat_next] at hnext
      rw [UInt16.le_iff_toNat_le]
      omega

/-- **The columns never decrease.** -/
theorem pairwise_columns (labels : List String) : (columns labels).Pairwise (· ≤ ·) :=
  pairwise_columnsFrom 2 labels

/-! ## Characters of one cell -/

/-- A character that takes one cell of the bar.  A line feed takes none, as it is not drawn. -/
def TakesOneCell (c : Char) : Prop := Text.charWidth c = 1 ∧ c ≠ '\n'

instance (c : Char) : Decidable (TakesOneCell c) := inferInstanceAs (Decidable (_ ∧ _))

/-- The printable characters of ASCII take one cell. -/
theorem takesOneCell_of_ascii {c : Char} (hlower : ' ' ≤ c) (hupper : c ≤ '~') :
    TakesOneCell c := by
  refine ⟨Text.charWidth_of_ascii hlower hupper, ?_⟩
  rintro rfl
  exact absurd hlower (by decide)

theorem widths_eq_length {glyphs : List Glyph}
    (h : ∀ glyph ∈ glyphs, glyph.width = glyph.cluster.length) :
    Glyph.widths glyphs = (glyphs.map Glyph.cluster).flatten.length := by
  induction glyphs with
  | nil => rfl
  | cons glyph rest ih =>
      have hrest := ih fun other hmem => h other (List.mem_cons_of_mem glyph hmem)
      rw [Glyph.widths_cons, h glyph List.mem_cons_self, hrest, List.map_cons, List.flatten_cons,
        List.length_append]

/-- A text takes a cell for each character if each of them takes one. -/
theorem widths_glyphs {span : Span} (h : ∀ c ∈ span.text.toList, TakesOneCell c) :
    Glyph.widths span.glyphs = span.text.length := by
  have htext : (span.glyphs.map Glyph.cluster).flatten = span.text.toList :=
    text_glyphs fun hbreak => (h _ hbreak).2 rfl
  rw [widths_eq_length, htext, String.length_toList]
  intro glyph hmem
  have hchars : ∀ c ∈ glyph.cluster, TakesOneCell c := by
    intro c hc
    apply h
    rw [← htext]
    exact List.mem_flatten.mpr ⟨_, List.mem_map_of_mem hmem, hc⟩
  exact Text.width_eq_length (fun c hc => (hchars c hc).1) fun hbreak => (hchars _ hbreak).2 rfl

theorem widths_itemSpan {item : View.Item} (h : ∀ c ∈ item.label.toList, TakesOneCell c)
    (palette : Palette) (isSelected : Bool) :
    Glyph.widths (itemSpan palette item isSelected).glyphs = item.label.length + 2 := by
  have hspace : TakesOneCell ' ' := takesOneCell_of_ascii (by decide) (by decide)
  have hchars : ∀ c ∈ (itemSpan palette item isSelected).text.toList, TakesOneCell c := by
    intro c hc
    simp only [itemSpan, String.toList_append, List.mem_append] at hc
    rcases hc with (hc | hc) | hc
    · rw [List.mem_singleton.mp hc]
      exact hspace
    · exact h c hc
    · rw [List.mem_singleton.mp hc]
      exact hspace
  have hlength : " ".length = 1 := by decide
  rw [widths_glyphs hchars, itemSpan, String.length_append, String.length_append, hlength]
  omega

/-! ## The line -/

/-- What is drawn between two items. -/
def stroke (palette : Palette) : Span := .colored palette.muted separator

theorem widths_stroke (palette : Palette) : Glyph.widths (stroke palette).glyphs = 1 := by
  have hstroke : TakesOneCell '│' := by decide +kernel
  have hchars : ∀ c ∈ separator.toList, TakesOneCell c := by
    intro c hc
    rw [List.mem_singleton.mp hc]
    exact hstroke
  have hlength : separator.length = 1 := by decide
  rw [widths_glyphs hchars]
  exact hlength

/-- The items of the bar side by side with a stroke before each, also before the first. -/
def stroked (palette : Palette) (items : List View.Item) (selected first : Nat) : List Span :=
  (items.zipIdx first).flatMap fun (item, index) =>
    [stroke palette, itemSpan palette item (index == selected)]

@[simp] theorem stroked_nil (palette : Palette) (selected first : Nat) :
    stroked palette [] selected first = [] := rfl

@[simp] theorem stroked_cons (palette : Palette) (item : View.Item) (rest : List View.Item)
    (selected first : Nat) :
    stroked palette (item :: rest) selected first =
      stroke palette :: itemSpan palette item (first == selected) ::
        stroked palette rest selected (first + 1) := rfl

/-- With one more stroke in front, the line has a stroke before each item. -/
theorem cons_line (palette : Palette) {items : List View.Item} (hne : items ≠ [])
    (selected : Nat) :
    stroke palette :: line palette items selected = stroked palette items selected 0 := by
  obtain ⟨item, rest, rfl⟩ := List.exists_cons_of_ne_nil hne
  rw [stroked_cons, line, List.zipIdx_cons, List.flatMap_cons]
  refine congrArg _ (congrArg _ (List.flatMap_congr ?_))
  rintro ⟨other, index⟩ hmem
  have hlater : 0 < index := List.le_snd_of_mem_zipIdx hmem
  simp only [hlater, if_true]
  rfl

theorem getElem?_stroked (palette : Palette) (items : List View.Item)
    (selected first index : Nat) :
    (stroked palette items selected first)[2 * index + 1]? =
      items[index]?.map fun item => itemSpan palette item (first + index == selected) := by
  induction items generalizing first index with
  | nil => rfl
  | cons item rest ih =>
      cases index with
      | zero => rfl
      | succ index =>
          have hplace : first + 1 + index = first + (index + 1) := by omega
          rw [stroked_cons, Nat.mul_succ, List.getElem?_cons_succ, List.getElem?_cons_succ, ih,
            hplace, List.getElem?_cons_succ]

/-- Before an item there are the items before it with their strokes, and its own stroke. -/
theorem take_stroked (palette : Palette) (items : List View.Item) (selected first : Nat)
    {index : Nat} (hindex : index < items.length) :
    (stroked palette items selected first).take (2 * index + 1) =
      stroked palette (items.take index) selected first ++ [stroke palette] := by
  induction items generalizing first index with
  | nil => cases hindex
  | cons item rest ih =>
      cases index with
      | zero => rfl
      | succ index =>
          have hrest := ih (first + 1) (Nat.lt_of_succ_lt_succ hindex)
          rw [stroked_cons, Nat.mul_succ, List.take_succ_cons, List.take_succ_cons, hrest]
          rfl

theorem widths_stroked {items : List View.Item}
    (h : ∀ item ∈ items, ∀ c ∈ item.label.toList, TakesOneCell c) (palette : Palette)
    (selected first : Nat) :
    Glyph.widths (glyphsOf (stroked palette items selected first)) =
      (items.map fun item => item.label.length + 3).sum := by
  induction items generalizing first with
  | nil => rfl
  | cons item rest ih =>
      have hitem := widths_itemSpan (h item List.mem_cons_self) palette (first == selected)
      have hrest := ih (fun other hmem => h other (List.mem_cons_of_mem item hmem)) (first + 1)
      rw [stroked_cons, List.map_cons, List.sum_cons, ← hrest]
      simp only [glyphsOf, List.flatMap_cons, Glyph.widths_append, widths_stroke, hitem]
      omega

/-- The item at a place stands on the line behind a pair of item and stroke for each before it. -/
theorem getElem?_line (palette : Palette) {items : List View.Item} {index : Nat}
    {item : View.Item} (hitem : items[index]? = some item) (selected : Nat) :
    (line palette items selected)[2 * index]? = some (itemSpan palette item (index == selected)) := by
  have hne : items ≠ [] := by
    rintro rfl
    cases hitem
  rw [← List.getElem?_cons_succ (a := stroke palette), cons_line palette hne, getElem?_stroked,
    hitem, Option.map_some, Nat.zero_add]

/-- The line is cut at an item. -/
theorem line_eq_append (palette : Palette) {items : List View.Item} {index : Nat}
    {item : View.Item} (hitem : items[index]? = some item) (selected : Nat) :
    line palette items selected = (line palette items selected).take (2 * index) ++
      itemSpan palette item (index == selected) ::
        (line palette items selected).drop (2 * index + 1) := by
  have hcut := List.take_append_drop (2 * index) (line palette items selected)
  rw [List.drop_eq_getElem?_toList_append, getElem?_line palette hitem selected] at hcut
  exact hcut.symm

/-- **What is before an item on the line** takes as many cells as are reckoned for the items before
it, if each of their characters takes one. -/
theorem widths_take_line {items : List View.Item} {index : Nat} (hindex : index < items.length)
    (h : ∀ item ∈ items.take index, ∀ c ∈ item.label.toList, TakesOneCell c) (palette : Palette)
    (selected : Nat) :
    2 + Glyph.widths (glyphsOf ((line palette items selected).take (2 * index))) =
      startOf (items.map View.Item.label) index := by
  have hne : items ≠ [] := List.ne_nil_of_length_pos (Nat.zero_lt_of_lt hindex)
  have hbefore : stroke palette :: (line palette items selected).take (2 * index) =
      stroked palette (items.take index) selected 0 ++ [stroke palette] := by
    rw [← take_stroked palette items selected 0 hindex, ← cons_line palette hne,
      List.take_succ_cons]
  have hwidths := congrArg (fun spans => Glyph.widths (glyphsOf spans)) hbefore
  have hitems : Glyph.widths (glyphsOf (stroked palette (items.take index) selected 0)) = _ :=
    widths_stroked h palette selected 0
  simp only [glyphsOf, List.flatMap_cons, List.flatMap_append, List.flatMap_nil,
    Glyph.widths_append, Glyph.widths_nil, widths_stroke] at hwidths hitems ⊢
  rw [startOf, ← List.map_take, List.map_map]
  simp only [Function.comp_def]
  omega

end WorksheetBar.Terminal.Bar
