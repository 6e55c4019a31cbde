import WorksheetBar.Terminal.Screen

/-!
# Screens as text

How a screen is written to a terminal that understands escape sequences: before a cell
that looks different from the one before it stands a sequence that says how.
-/

namespace WorksheetBar.Terminal

/-- What begins an escape sequence. -/
def escape : String := "\x1b["

/-- The numbers that choose a colour, of the text or of what is behind it. -/
def Color.codes (isText : Bool) : Color → List Nat
  | reset => [if isText then 39 else 49]
  | black => dark 0
  | red => dark 1
  | green => dark 2
  | yellow => dark 3
  | blue => dark 4
  | magenta => dark 5
  | cyan => dark 6
  | gray => dark 7
  | darkGray => bright 0
  | lightRed => bright 1
  | lightGreen => bright 2
  | lightYellow => bright 3
  | lightBlue => bright 4
  | lightMagenta => bright 5
  | lightCyan => bright 6
  | white => bright 7
  | rgb r g b => [if isText then 38 else 48, 2, r.toNat, g.toNat, b.toNat]
where
  dark (n : Nat) : List Nat := [(if isText then 30 else 40) + n]
  bright (n : Nat) : List Nat := [(if isText then 90 else 100) + n]

/-- The sequence that chooses the look of a cell. -/
def Cell.sequence (cell : Cell) : String :=
  let codes := [0] ++ (if cell.bold then [1] else []) ++ cell.fg.codes true ++ cell.bg.codes false
  escape ++ String.intercalate ";" (codes.map toString) ++ "m"

/-- Whether two cells look the same but for what stands in them. -/
def Cell.looksLike (a b : Cell) : Bool := a.fg == b.fg && a.bg == b.bg && a.bold == b.bold

/-- The cells of a row behind the one given, as text.  What a wide cell covers is left
out. -/
def rowText (before : Cell) : List Cell → String
  | [] => ""
  | cell :: rest =>
    if 1 < Text.width before.symbol.toList then rowText { before with symbol := " " } rest
    else
      (if before.looksLike cell then "" else cell.sequence) ++ cell.symbol ++ rowText cell rest

/-- A screen as text, from its upper left corner. -/
def Screen.text (screen : Screen) : String :=
  let rows := screen.rows.map fun row => Cell.sequence {} ++ rowText {} row
  escape ++ "H" ++ String.intercalate "\r\n" rows ++ Cell.sequence {}

end WorksheetBar.Terminal
