/-!
# Colours and styles

What a cell of a screen can look like.  A style says only what it changes, so styles
can be laid over one another.
-/

namespace WorksheetBar.Terminal

/-- The colours a terminal knows by name, its own default, and any other. -/
inductive Color where
  | reset
  | black
  | red
  | green
  | yellow
  | blue
  | magenta
  | cyan
  | gray
  | darkGray
  | lightRed
  | lightGreen
  | lightYellow
  | lightBlue
  | lightMagenta
  | lightCyan
  | white
  | rgb (red green blue : UInt8)
  deriving DecidableEq, Repr

/-- What a style changes: the colour of the text, the colour behind it, and whether
the text becomes bold. -/
structure Style where
  fg : Option Color := none
  bg : Option Color := none
  bold : Bool := false
  deriving DecidableEq, Repr

/-- The style that only colours the text. -/
def Style.ofColor (color : Color) : Style := { fg := some color }

/-- A cell of a screen: what stands in it, and how. -/
structure Cell where
  symbol : String := " "
  fg : Color := .reset
  bg : Color := .reset
  bold : Bool := false
  deriving DecidableEq, Repr

namespace Cell

/-- Lays a style over a cell. -/
def paint (cell : Cell) (style : Style) : Cell :=
  { cell with
    fg := style.fg.getD cell.fg
    bg := style.bg.getD cell.bg
    bold := cell.bold || style.bold }

end Cell

end WorksheetBar.Terminal
