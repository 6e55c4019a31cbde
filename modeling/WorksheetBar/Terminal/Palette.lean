import WorksheetBar.Config
import WorksheetBar.Terminal.Style

/-!
# Palettes

The colours of each theme, by what they are for.
-/

namespace WorksheetBar.Terminal

/-- Colours by what they are for. -/
structure Palette where
  accent : Color
  success : Color
  warning : Color
  danger : Color
  muted : Color
  border : Color
  panel : Color
  selected : Color
  deriving DecidableEq, Repr

/-- The palette of a theme. -/
def Palette.of : Theme → Palette
  | .classic => {
      accent := .cyan
      success := .green
      warning := .yellow
      danger := .red
      muted := .darkGray
      border := .gray
      panel := .black
      selected := .darkGray }
  | .cyberpunk => {
      accent := .magenta
      success := .lightGreen
      warning := .lightYellow
      danger := .lightRed
      muted := .gray
      border := .magenta
      panel := .black
      selected := .rgb 58 0 58 }
  | .neonNoir => {
      accent := .lightBlue
      success := .lightGreen
      warning := .yellow
      danger := .lightRed
      muted := .gray
      border := .lightBlue
      panel := .black
      selected := .rgb 18 28 42 }
  | .solarFlare => {
      accent := .lightYellow
      success := .green
      warning := .yellow
      danger := .red
      muted := .gray
      border := .lightRed
      panel := .black
      selected := .rgb 60 30 0 }
  | .forestZen => {
      accent := .lightGreen
      success := .green
      warning := .yellow
      danger := .red
      muted := .gray
      border := .green
      panel := .black
      selected := .rgb 14 40 20 }

end WorksheetBar.Terminal
