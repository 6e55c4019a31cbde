import WorksheetBar.Terminal.Basic
import WorksheetBar.Terminal.Screen

/-!
# The picture

What a terminal shows: the bar at the top, what is known about the user and the end of
the journal below it, a line of help at the bottom, and over them the popup that is
open.
-/

namespace WorksheetBar.Terminal

/-- A panel: a frame with a title. -/
structure Panel where
  title : String
  border : Color
  deriving Repr

namespace Panel

/-- Draws the frame of a panel. -/
def drawFrame (panel : Panel) (palette : Palette) (area : Area) (screen : Screen) : Screen :=
  screen.drawFrame area panel.title panel.border palette.panel

/-- Draws a panel with lines that are cut at its edge. -/
def drawCut (panel : Panel) (palette : Palette) (area : Area) (lines : List (List Span))
    (screen : Screen) : Screen :=
  let inside := area.inner
  (panel.drawFrame palette area screen).drawLines inside
    (lines.map fun line => cutLine inside.width.toNat (glyphsOf line))

/-- Draws a panel with lines that are wrapped. -/
def drawWrapped (panel : Panel) (palette : Palette) (area : Area) (lines : List (List Span))
    (screen : Screen) : Screen :=
  let inside := area.inner
  (panel.drawFrame palette area screen).drawLines inside
    (lines.flatMap fun line => wrapLine inside.width.toNat (glyphsOf line))

end Panel

/-- What is known about the user. -/
def sessionLine (palette : Palette) (shell : Shell) : List Span :=
  if shell.signedIn then
    match shell.session with
    | .loaded profile =>
      [.colored palette.muted "Signed in as ", .colored palette.accent profile.userName]
    | .loading _ => [.colored palette.muted "Loading profile..."]
    | .failed => [.colored palette.warning "Profile unavailable"]
    | .notLoaded => []
  else [.colored palette.muted "Not signed in"]

/-- The colour of a journal entry. -/
def levelColor (palette : Palette) : Journal.Level → Color
  | .error => palette.danger
  | .warn => palette.warning
  | .info => palette.success
  | .debug | .trace => palette.muted

/-- A journal entry. -/
def entryLine (palette : Palette) (entry : Journal.Entry) : List Span :=
  [.colored (levelColor palette entry.level) ("[" ++ entry.topic.label ++ "] "),
    ⟨entry.message, {}⟩]

/-- How many journal entries are shown. -/
def shownEntries : Nat := 8

/-- What is known about the user, and the newest journal entries. -/
def sessionLines (palette : Palette) (shell : Shell) : List (List Span) :=
  let entries := shell.journal.entries
  [sessionLine palette shell, []]
    ++ (entries.drop (entries.length - shownEntries)).map (entryLine palette)

/-- The line of help, with the destination the user went to last. -/
def helpLine (palette : Palette) (theme : Theme) (lastNavigation : Option String) :
    List Span :=
  [.colored palette.accent "←/→", .colored palette.muted " select ",
    .colored palette.accent "Enter", .colored palette.muted " open ",
    .colored palette.warning "q", .colored palette.muted " quit",
    .colored palette.muted ("  theme " ++ theme.label)]
    ++ match lastNavigation with
      | some path => [.colored palette.muted "  → ", .colored palette.accent path]
      | none => []

/-- The lines of the dialog. -/
def dialogLines (palette : Palette) (box : View.DialogBox) : List (List Span) :=
  [[⟨"Name: ", {}⟩,
      if box.input.isEmpty then .colored palette.muted box.placeholder
      else .colored palette.accent box.input],
    [],
    [.colored palette.accent "Enter", .colored palette.muted " create  ",
      .colored palette.warning "Esc", .colored palette.muted " cancel"]]

/-- The key of an entry of the account menu. -/
def entryKey : AccountMenu.Entry → String
  | .profile => "p"
  | .signOut => "s"

/-- The lines of the account menu. -/
def menuLines (palette : Palette) (box : View.MenuBox) : List (List Span) :=
  box.entries.map fun entry =>
    [.colored palette.accent (entryKey entry ++ " "), ⟨entry.label, {}⟩]

/-- Draws the dialog over everything else. -/
def drawDialog (palette : Palette) (box : View.DialogBox) (screen : Screen) : Screen :=
  let area := screen.area.centered 50 30
  Panel.drawWrapped ⟨box.title, palette.accent⟩ palette area (dialogLines palette box)
    (screen.clear area)

/-- Draws the account menu over everything else. -/
def drawMenu (palette : Palette) (box : View.MenuBox) (screen : Screen) : Screen :=
  let area := Area.dropDown box.anchor screen.area 24 (.ofNat (box.entries.length + 2))
  Panel.drawCut ⟨box.userName.getD "Account", palette.border⟩ palette area
    (menuLines palette box) (screen.clear area)

/-- Draws the popup that is open. -/
def drawPopup (palette : Palette) (view : View) (screen : Screen) : Screen :=
  match view.dialog, view.menu with
  | some box, _ => drawDialog palette box screen
  | none, some box => drawMenu palette box screen
  | none, none => screen

/-- Draws the terminal on an empty screen of the given size. -/
def draw (terminal : Terminal) (width height : Nat) : Screen :=
  let screen := Screen.blank width height
  let view := terminal.view
  let palette := Palette.of view.theme
  let inside := screen.area.inner
  let barHeight := min 3 inside.height
  let helpHeight := min 1 (inside.height - barHeight)
  let bodyHeight := inside.height - barHeight - helpHeight
  let bar := { inside with height := barHeight }
  let body := { inside with y := inside.y + barHeight, height := bodyHeight }
  let help := { inside with y := inside.y + barHeight + bodyHeight, height := helpHeight }
  let screen := Panel.drawCut ⟨"Worksheets", palette.border⟩ palette bar
    [Bar.line palette view.items terminal.cursor.selected] screen
  let screen := Panel.drawWrapped ⟨"Session", palette.border⟩ palette body
    (sessionLines palette terminal.host.shell) screen
  let screen := screen.drawLines help
    [cutLine help.width.toNat
      (glyphsOf (helpLine palette view.theme terminal.host.lastNavigation?))]
  drawPopup palette view screen

end WorksheetBar.Terminal
