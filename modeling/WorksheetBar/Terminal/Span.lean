import WorksheetBar.Terminal.Style
import WorksheetBar.Text.CodePoints
import WorksheetBar.Text.Width

/-!
# Styled text

A line of text is a list of spans, each with a style of its own.  To be drawn it is
taken apart into glyphs, which fill one or more cells each.  A line feed inside a span
is not drawn.

* `text_glyphs` — but for that, the glyphs of a span are its text.
-/

namespace WorksheetBar.Terminal

/-- A text in one style. -/
structure Span where
  text : String
  style : Style := {}
  deriving DecidableEq, Repr

/-- A text in one colour. -/
def Span.colored (color : Color) (text : String) : Span := ⟨text, .ofColor color⟩

/-- A cluster in the style of its span. -/
structure Glyph where
  cluster : List Char
  style : Style := {}
  deriving DecidableEq, Repr

namespace Glyph

/-- How many cells a glyph takes. -/
def width (glyph : Glyph) : Nat := Text.width glyph.cluster

/-- What stands in the cell of a glyph. -/
def symbol (glyph : Glyph) : String := String.ofList glyph.cluster

/-- Whether a line may be broken at a glyph: at white space, but not at the space that
forbids it, and at the zero-width space. -/
def isGap (glyph : Glyph) : Bool :=
  glyph.cluster == ['\u200b'] ||
    (glyph.cluster.all Text.isBlankChar && glyph.cluster != ['\u00a0'])

/-- How many cells some glyphs take. -/
def widths : List Glyph → Nat
  | [] => 0
  | glyph :: rest => glyph.width + widths rest

@[simp] theorem widths_nil : widths [] = 0 := rfl

@[simp] theorem widths_cons (glyph : Glyph) (glyphs : List Glyph) :
    widths (glyph :: glyphs) = glyph.width + widths glyphs := rfl

@[simp] theorem widths_append (a b : List Glyph) : widths (a ++ b) = widths a + widths b := by
  induction a with
  | nil => simp
  | cons glyph a ih => simp [ih, Nat.add_assoc]

end Glyph

/-- The glyphs of a span. -/
def Span.glyphs (span : Span) : List Glyph :=
  ((Text.clusters span.text.toList).filter (· != ['\n'])).map fun cluster =>
    ⟨cluster, span.style⟩

/-- The glyphs of a line. -/
def glyphsOf (line : List Span) : List Glyph := line.flatMap Span.glyphs

/-- **The glyphs of a span are its text**, if there is no line feed in it. -/
theorem text_glyphs {span : Span} (h : '\n' ∉ span.text.toList) :
    (span.glyphs.map Glyph.cluster).flatten = span.text.toList := by
  have kept : (Text.clusters span.text.toList).filter (· != ['\n']) =
      Text.clusters span.text.toList := by
    refine List.filter_eq_self.2 fun cluster mem => ?_
    simp only [bne_iff_ne, ne_eq]
    rintro rfl
    refine h ?_
    rw [← Text.flatten_clusters span.text.toList]
    exact List.mem_flatten.2 ⟨_, mem, by simp⟩
  simp [Span.glyphs, kept, Function.comp_def, Text.flatten_clusters]

end WorksheetBar.Terminal
