import WorksheetBar.Terminal.Span

/-!
# Lines that fit

A line that is longer than the screen is wide is either cut off or wrapped.  Wrapping
breaks it between words, where the white space up to the end of the screen is left out,
and inside a word only if the word fills a line by itself.
-/

namespace WorksheetBar.Terminal

/-- As much of a line as fits.  A glyph that would not fit into an empty line is left
out. -/
def cut (limit : Nat) : List Glyph → List Glyph
  | [] => []
  | glyph :: rest =>
    if limit < glyph.width then []
    else glyph :: cut (limit - glyph.width) rest

/-- The part of a line that is drawn on a screen of the given width. -/
def cutLine (limit : Nat) (line : List Glyph) : List Glyph :=
  cut limit (line.filter fun glyph => glyph.width ≤ limit)

/-- A line while it is being wrapped: the lines that are finished, the words that stand
on the line begun, and the white space and the word after them, for which it is not
known yet whether they fit. -/
structure Wrapping where
  finished : List (List Glyph) := []
  line : List Glyph := []
  gap : List Glyph := []
  word : List Glyph := []
  afterWord : Bool := false
  deriving Repr

namespace Wrapping

/-- Puts the word and the white space before it onto the line. -/
def place (wrapping : Wrapping) : Wrapping :=
  { wrapping with line := wrapping.line ++ wrapping.gap ++ wrapping.word, gap := [], word := [] }

/-- White space without what fits into the rest of a line. -/
def leaveOut (room : Nat) : List Glyph → List Glyph
  | [] => []
  | glyph :: rest =>
    if room < glyph.width then glyph :: rest else leaveOut (room - glyph.width) rest

/-- Ends the line. -/
def breakLine (limit : Nat) (wrapping : Wrapping) : Wrapping :=
  { wrapping with
    finished := wrapping.finished ++ [wrapping.line]
    line := []
    gap := leaveOut (limit - Glyph.widths wrapping.line) wrapping.gap }

/-- Takes a glyph into the white space or into the word. -/
def take (wrapping : Wrapping) (glyph : Glyph) : Wrapping :=
  if glyph.isGap then { wrapping with gap := wrapping.gap ++ [glyph], afterWord := false }
  else { wrapping with word := wrapping.word ++ [glyph], afterWord := true }

/-- Goes on with a glyph. -/
def add (limit : Nat) (wrapping : Wrapping) (glyph : Glyph) : Wrapping :=
  if limit < glyph.width then wrapping
  else
    let pending := Glyph.widths wrapping.gap + Glyph.widths wrapping.word
    let placed :=
      if wrapping.afterWord && glyph.isGap
          || wrapping.line.isEmpty && limit < pending + glyph.width then wrapping.place
      else wrapping
    let used := Glyph.widths placed.line
    let pending := Glyph.widths placed.gap + Glyph.widths placed.word
    if limit ≤ used || 0 < glyph.width && limit ≤ used + pending then
      let broken := placed.breakLine limit
      if glyph.isGap && broken.gap.isEmpty then broken else broken.take glyph
    else placed.take glyph

/-- The lines in the end.  White space that follows nothing has an empty line of its own
before it. -/
def finish (wrapping : Wrapping) : List (List Glyph) :=
  let lead :=
    if wrapping.line.isEmpty && wrapping.word.isEmpty && !wrapping.gap.isEmpty then [[]] else []
  let last := wrapping.place.line
  let lines := wrapping.finished ++ lead ++ if last.isEmpty then [] else [last]
  if lines.isEmpty then [[]] else lines

end Wrapping

/-- The lines into which a line is wrapped.  There are none where there is no room. -/
def wrapLine (limit : Nat) (line : List Glyph) : List (List Glyph) :=
  if limit = 0 then [] else (line.foldl (Wrapping.add limit) {}).finish

end WorksheetBar.Terminal
