import WorksheetBar.Proofs.Popups
import WorksheetBar.Proofs.Repaints
import WorksheetBar.Terminal.Picture

/-!
# One popup at a time

A shell does not mind the dialog and the account menu being open at once: toggling the menu
leaves the dialog alone.  At a terminal it does not come to that.  A key goes to the popup that
is open, no key opens anything from there, and nothing else at a terminal opens a popup.  So the
popup that is drawn is the one that takes the keys, and there is nothing behind it.

A **sitting** is a scene at a terminal: what a host is at, and where the cursor stands.  Its host
is never called for something that the user does; that comes from keys alone, and between a key
and the picture it was pressed at anything may happen that does not touch the shell.

* `brings_of_meaning` — a key opens something only if nothing is open;
* `Move.orderly` — a move at a terminal leaves at most one popup open;
* `one_popup_at_a_time` — what that comes to: the popup in front is the only one.
-/

namespace WorksheetBar

/-! ## What opens a popup -/

namespace Shell

variable {shell : Shell} {action : Action}

/-- What neither is a click for a new worksheet nor toggles the menu opens nothing. -/
theorem brings_eq_false (shell : Shell) (hnew : action.activatesNew = false)
    (htoggled : action.toggled? = none) (popup : Popup) : shell.brings action popup = false := by
  cases popup <;> simp [brings, opens, hnew, htoggled]

/-- An action opens one popup at most. -/
theorem brings_unique {first second : Popup} (h : shell.brings action first = true)
    (h' : shell.brings action second = true) : first = second := by
  have hboth : ¬ (shell.brings action .dialog = true ∧ shell.brings action .menu = true) := by
    rintro ⟨hdialog, hmenu⟩
    simp only [brings, opens, Bool.and_eq_true] at hdialog hmenu
    have hnew := hdialog.1
    unfold Action.activatesNew at hnew
    split at hnew
    · simp [Action.toggled?] at hmenu
    · cases hnew
    · cases hnew
  cases first <;> cases second
  · rfl
  · exact absurd ⟨h, h'⟩ hboth
  · exact absurd ⟨h', h⟩ hboth
  · rfl

/-- Nothing is open unless the user is signed in, and then one popup at most. -/
structure Orderly (shell : Shell) : Prop where
  unattended : shell.Unattended
  single : ∀ {first second : Popup}, shell.shows first = true → shell.shows second = true →
    first = second

/-- **A step that opens something only if nothing is open** leaves at most one popup open. -/
theorem Orderly.step (h : shell.Orderly)
    (hquiet : (∀ popup, shell.brings action popup = false) ∨
      ∀ popup, shell.shows popup = false) : (shell.step action).1.Orderly := by
  refine ⟨step_unattended h.unattended action, ?_⟩
  intro first second hfirst hsecond
  simp only [shows_step, Bool.or_eq_true, Bool.and_eq_true] at hfirst hsecond
  rcases hquiet with hbrings | hshows
  · -- what is open now was open before
    simp only [hbrings, Bool.false_eq_true, false_or] at hfirst hsecond
    exact h.single hfirst.2 hsecond.2
  · -- what is open now has just been opened
    simp only [hshows, Bool.false_eq_true, and_false, or_false] at hfirst hsecond
    exact brings_unique hfirst hsecond

/-- What happens around the bar leaves it orderly. -/
theorem Orderly.run {actions : List Action} (h : shell.Orderly)
    (hactions : ∀ action ∈ actions, ∃ around, action = .runtime around) :
    (shell.run actions).Orderly := by
  induction actions generalizing shell with
  | nil => exact h
  | cons action rest ih =>
      obtain ⟨around, rfl⟩ := hactions action List.mem_cons_self
      exact ih (h.step (Or.inl (shell.brings_eq_false rfl rfl)))
        fun other hmem => hactions other (List.mem_cons_of_mem _ hmem)

/-- At the start nothing is open. -/
theorem fresh_orderly (config : Config) (signedIn : Bool) : (fresh config signedIn).Orderly := by
  refine ⟨fun _ => ⟨rfl, rfl⟩, ?_⟩
  intro first second hfirst
  cases first <;> cases hfirst

end Shell

/-! ## What stands in front -/

namespace View

/-- What stands in front on a terminal: the popup that is drawn over everything else, or the
bar. -/
inductive Front where
  | bar
  | dialog (box : DialogBox)
  | menu (box : MenuBox)

/-- Which popup that is. -/
def Front.popup? : Front → Option Popup
  | bar => none
  | dialog _ => some .dialog
  | menu _ => some .menu

/-- What stands in front of a view. -/
def front (view : View) : Front :=
  match view.dialog, view.menu with
  | some box, _ => .dialog box
  | none, some box => .menu box
  | none, none => .bar

end View

namespace Terminal

open View

/-- Draws what stands in front. -/
def drawFront (palette : Palette) (screen : Screen) : Front → Screen
  | .bar => screen
  | .dialog box => drawDialog palette box screen
  | .menu box => drawMenu palette box screen

/-- What a key means to what stands in front. -/
def Key.atFront (items : List Item) (cursor : Cursor) (key : Key) : Front → Meaning
  | .bar => key.onBar items cursor
  | .dialog box => .go cursor (some (key.inDialog box.input))
  | .menu _ => key.inMenu cursor

/-- What is drawn over everything else is what stands in front. -/
theorem drawPopup_eq (palette : Palette) (view : View) (screen : Screen) :
    drawPopup palette view screen = drawFront palette screen view.front := by
  unfold drawPopup front
  cases view.dialog <;> cases view.menu <;> rfl

/-- A key goes to what stands in front. -/
theorem meaning_eq (press : Press) (view : View) (cursor : Cursor) :
    press.meaning view cursor =
      if press.control && press.key == .char 'c' then .leave
      else press.key.atFront view.items cursor view.front := by
  unfold Press.meaning front
  split
  · rfl
  · cases view.dialog <;> cases view.menu <;> rfl

/-- Does what a key means, without taking in first what has arrived. -/
def follow (terminal : Terminal) : Meaning → Terminal
  | .leave => terminal
  | .go cursor none => { terminal with cursor }
  | .go cursor (some action) => act action { terminal with cursor }

/-- Taking a key is to take in what has arrived, and then to do what the key means. -/
theorem press_eq (press : Press) (terminal : Terminal) :
    (Terminal.press press terminal).1 =
      terminal.refresh.follow (press.meaning terminal.refresh.view terminal.refresh.cursor) := by
  unfold Terminal.press follow
  dsimp only
  split <;> simp_all

end Terminal

/-- **The popup in front is the one that is open**, in an orderly shell. -/
theorem Shell.Orderly.shows_iff {shell : Shell} (h : shell.Orderly) (popup : Popup) :
    shell.shows popup = true ↔ shell.view.front.popup? = some popup := by
  have hapart : shell.dialog.isShown = true → shell.menu.isShown = true → False := by
    intro hdialog hmenu
    have hsame : Popup.dialog = Popup.menu := h.single hdialog hmenu
    cases hsame
  have hmenu : shell.menu.isShown = true → shell.signedIn = true := by
    intro hshown
    by_contra hout
    have hclosed := (h.unattended (by simpa using hout)).2
    rw [hclosed] at hshown
    cases hshown
  unfold shows View.front view
  cases hdialogs : shell.dialog <;> cases hmenus : shell.menu <;> cases popup <;>
    simp_all [Dialog.isShown, AccountMenu.isShown, View.Front.popup?]

namespace Terminal

open View

/-- A key in the dialog opens nothing. -/
theorem inDialog_opens_nothing (input : String) (key : Key) :
    (Action.user (key.inDialog input)).activatesNew = false ∧
      (Action.user (key.inDialog input)).toggled? = none := by
  cases key <;> exact ⟨rfl, rfl⟩

/-- A key in the menu opens nothing. -/
theorem inMenu_opens_nothing {cursor next : Cursor} {key : Key} {action : UserAction}
    (h : key.inMenu cursor = .go next (some action)) :
    (Action.user action).activatesNew = false ∧ (Action.user action).toggled? = none := by
  unfold Key.inMenu at h
  split at h <;> cases h <;> exact ⟨rfl, rfl⟩

/-- **A key opens something only if nothing is open.** -/
theorem brings_of_meaning {shell : Shell} (h : shell.Orderly) {press : Press}
    {cursor next : Cursor} {action : UserAction}
    (hmeaning : press.meaning shell.view cursor = .go next (some action)) :
    (∀ popup, shell.brings (.user action) popup = false) ∨
      ∀ popup, shell.shows popup = false := by
  rw [meaning_eq] at hmeaning
  split at hmeaning
  · cases hmeaning
  · cases hfront : shell.view.front with
    | bar =>
        refine Or.inr fun popup => ?_
        rw [Bool.eq_false_iff, Ne, h.shows_iff, hfront]
        exact fun hopen => nomatch hopen
    | dialog box =>
        rw [hfront] at hmeaning
        simp only [Key.atFront, Meaning.go.injEq, Option.some.injEq] at hmeaning
        obtain ⟨-, rfl⟩ := hmeaning
        obtain ⟨hnew, htoggled⟩ := inDialog_opens_nothing box.input press.key
        exact Or.inl (shell.brings_eq_false hnew htoggled)
    | menu box =>
        rw [hfront] at hmeaning
        obtain ⟨hnew, htoggled⟩ := inMenu_opens_nothing hmeaning
        exact Or.inl (shell.brings_eq_false hnew htoggled)

/-- What the user does at a terminal is passed on to the shell. -/
theorem act_shell (action : UserAction) (terminal : Terminal) :
    (act action terminal).host.shell =
      terminal.host.shell.run (terminal.host.hears (.user action)) := by
  rw [← (Host.apply_eq (.user action) terminal.host).2]
  unfold act Host.handle
  dsimp only
  split <;> rfl

/-- What the user does at a terminal leaves its shell orderly if it opens something only if
nothing is open. -/
theorem act_orderly {terminal : Terminal} {action : UserAction}
    (h : terminal.host.shell.Orderly)
    (hquiet : (∀ popup, terminal.host.shell.brings (.user action) popup = false) ∨
      ∀ popup, terminal.host.shell.shows popup = false) :
    (act action terminal).host.shell.Orderly := by
  rw [act_shell, Host.hears]
  have hstep := h.step hquiet
  split
  · exact hstep.run fun action hmem => ⟨_, List.mem_singleton.mp hmem⟩
  · exact hstep

end Terminal

/-! ## Sittings -/

/-- A scene at a terminal, and where the cursor stands. -/
structure Sitting where
  scene : Scene
  cursor : Terminal.Cursor

namespace Sitting

open Host Terminal

/-- The terminal of a sitting. -/
def terminal (sitting : Sitting) : Terminal := ⟨sitting.scene.host, sitting.cursor⟩

/-- A terminal whose host is idle. -/
def idle (terminal : Terminal) : Sitting := ⟨⟨terminal.host, .idle⟩, terminal.cursor⟩

/-- One move at a terminal.  The host is called for anything but what the user does, and carries
that out in one go or piece by piece; something happens around it; the picture is drawn; or a
key is pressed at a picture of the shell. -/
inductive Move : Sitting → Sitting → Prop
  | carriedOut (terminal : Terminal) (backend : Http.Backend) (operation : Operation)
      (hkeyless : ∀ action, operation ≠ .handle action) :
      Move (idle terminal)
        (idle { terminal with host := (carryOut backend operation terminal.host).1 })
  | call (terminal : Terminal) (operation : Operation)
      (hkeyless : ∀ action, operation ≠ .handle action) :
      Move (idle terminal) ⟨terminal.host.enter operation, terminal.cursor⟩
  | work {scene next : Scene} (cursor : Cursor) (hwork : Scene.Work scene next) :
      Move ⟨scene, cursor⟩ ⟨next, cursor⟩
  | progress {before after : Host} (activity : Activity) (cursor : Cursor)
      (hprogress : Progress before after) :
      Move ⟨⟨before, activity⟩, cursor⟩ ⟨⟨after, activity⟩, cursor⟩
  /-- Before the picture is drawn the cursor is put back into range. -/
  | draw (terminal : Terminal) :
      Move (idle terminal)
        (idle { terminal with cursor := terminal.cursor.clamp terminal.view.items.length })
  | key (terminal : Terminal) (press : Press) :
      Move (idle terminal)
        (idle (terminal.follow (press.meaning terminal.view terminal.cursor)))

/-- Any number of moves at a terminal. -/
abbrev Moves : Sitting → Sitting → Prop := Relation.ReflTransGen Move

/-- Without a key the shell hears of nothing that the user does. -/
theorem runtime_of_mem_hearsAtOnce {host : Host} {operation : Operation}
    (hkeyless : ∀ action, operation ≠ .handle action) :
    ∀ action ∈ host.hearsAtOnce operation, ∃ around, action = .runtime around := by
  intro action hmem
  rcases mem_hearsAtOnce hmem with ⟨done, hdone, _⟩ | ⟨_, heq⟩ | heq | ⟨_, heq⟩
  · exact absurd hdone (hkeyless done)
  · exact ⟨_, heq⟩
  · exact ⟨_, heq⟩
  · exact ⟨_, heq⟩

/-- An answer is not the doing of the user. -/
theorem runtime_of_answers {heard : List Action} (h : Answers heard) :
    ∀ action ∈ heard, ∃ around, action = .runtime around := by
  intro action hmem
  obtain ⟨ticket, result, heq⟩ := h action hmem
  exact ⟨_, heq⟩

/-- **A move at a terminal leaves at most one popup open.** -/
theorem Move.orderly {sitting next : Sitting} (hmove : Move sitting next)
    (h : sitting.scene.host.shell.Orderly) : next.scene.host.shell.Orderly := by
  cases hmove with
  | carriedOut terminal backend operation hkeyless =>
      obtain ⟨answers, hanswers, hshell, _⟩ := carryOut_tells backend operation terminal.host
      show Shell.Orderly (carryOut backend operation terminal.host).1.shell
      rw [hshell, Shell.run_append]
      exact (h.run (runtime_of_mem_hearsAtOnce hkeyless)).run (runtime_of_answers hanswers)
  | call terminal operation hkeyless =>
      rw [(enter_hears terminal.host operation).shell]
      exact h.run (runtime_of_mem_hearsAtOnce hkeyless)
  | work _ hwork =>
      rw [hwork.hears.shell]
      exact h.run (runtime_of_answers (Scene.hearsWork_answers _))
  | progress _ _ hprogress =>
      rw [hprogress.backstage.shell]
      exact h
  | draw => exact h
  | key terminal press =>
      show Shell.Orderly (terminal.follow _).host.shell
      cases hmeaning : press.meaning terminal.view terminal.cursor with
      | leave => exact h
      | go next action =>
          cases action with
          | none => exact h
          | some action => exact act_orderly h (brings_of_meaning h hmeaning)

/-- The popups stay in order along every run. -/
theorem Moves.orderly {sitting later : Sitting} (hmoves : Moves sitting later)
    (h : sitting.scene.host.shell.Orderly) : later.scene.host.shell.Orderly := by
  induction hmoves with
  | refl => exact h
  | tail _ hmove ih => exact hmove.orderly ih

/-- Taking in what has arrived is made of moves at a terminal. -/
theorem refresh_moves (terminal : Terminal) : Moves (idle terminal) (idle terminal.refresh) := by
  let backend : Http.Backend := ⟨fun _ _ => .died, fun _ _ _ => .died⟩
  have hpump : Move (idle terminal) (idle { terminal with host := terminal.host.pump.1 }) :=
    .carriedOut terminal backend .pump (by simp)
  exact .tail (.single hpump) (.draw _)

/-- Taking a key is made of moves at a terminal. -/
theorem press_moves (terminal : Terminal) (press : Press) :
    Moves (idle terminal) (idle (Terminal.press press terminal).1) := by
  rw [press_eq]
  exact (refresh_moves terminal).tail (.key terminal.refresh press)

/-- What is drawn is the bar as it would be with no popup open, and what stands in front drawn
over it. -/
theorem draw_eq (terminal : Terminal) (width height : Nat) :
    let bare := { terminal with
      host := { terminal.host with shell := terminal.host.shell.closePopups } }
    terminal.draw width height =
      drawFront (.of terminal.view.theme) (bare.draw width height) terminal.view.front :=
  drawPopup_eq _ _ _

/-- **One popup at a time.**  A host starts at a terminal.  It is called for anything but what the
user does, things happen around it, the picture is drawn and keys are pressed, in any order; taking
in what has arrived and then a key is made of such moves.  Whatever scene this comes to, the dialog
and the account menu are not both open.  If one of them is, the user is signed in; if one is not,
it holds no text and no anchor.

A popup is open exactly if it stands in front.  The picture is that of the bar alone with what
stands in front drawn over it, and a key, unless it ends the program, means what it means to what
stands in front: so what is drawn takes the keys, and nothing is open behind it. -/
theorem one_popup_at_a_time {host : Host} (hstarts : host.Starts) (cursor : Cursor)
    {sitting : Sitting} (hmoves : Moves (idle ⟨host, cursor⟩) sitting) :
    let shell := sitting.scene.host.shell
    let bare := { sitting.terminal with
      host := { sitting.terminal.host with shell := shell.closePopups } }
    ¬ (shell.dialog.isShown = true ∧ shell.menu.isShown = true) ∧
    (shell.dialog.isShown = true ∨ shell.menu.isShown = true → shell.signedIn = true) ∧
    (shell.dialog.isShown = false → shell.dialog.input = "") ∧
    (shell.menu.isShown = false → shell.menu.anchor? = none) ∧
    (∀ popup, shell.shows popup = true ↔ shell.view.front.popup? = some popup) ∧
    (∀ width height, sitting.terminal.draw width height =
      drawFront (.of shell.view.theme) (bare.draw width height) shell.view.front) ∧
    (∀ (press : Press) cursor, press.meaning shell.view cursor =
      if press.control && press.key == .char 'c' then .leave
      else press.key.atFront shell.view.items cursor shell.view.front) ∧
    (sitting.scene.activity = .idle → ∀ press : Press,
      Moves sitting (idle (Terminal.press press sitting.terminal).1)) := by
  intro shell bare
  have hfresh : host.shell.Orderly := by
    cases hstarts with
    | fresh config provider => exact Shell.fresh_orderly config provider.signedIn
  have horderly : shell.Orderly := hmoves.orderly hfresh
  refine ⟨?_, ?_, ?_, ?_, horderly.shows_iff, draw_eq sitting.terminal,
    fun press cursor => meaning_eq press shell.view cursor, ?_⟩
  · rintro ⟨hdialog, hmenu⟩
    have hsame : Popup.dialog = Popup.menu := horderly.single hdialog hmenu
    cases hsame
  · intro hopen
    by_contra hout
    obtain ⟨hdialog, hmenu⟩ := horderly.unattended (by simpa using hout)
    rw [hdialog, hmenu] at hopen
    rcases hopen with hopen | hopen <;> cases hopen
  · intro hclosed
    cases hdialog : shell.dialog with
    | closed => rfl
    | shown input => simp [hdialog, Dialog.isShown] at hclosed
  · intro hclosed
    cases hmenu : shell.menu with
    | closed => rfl
    | shown anchor => simp [hmenu, AccountMenu.isShown] at hclosed
  · intro hidle press
    obtain ⟨⟨host, activity⟩, cursor⟩ := sitting
    obtain rfl : activity = .idle := hidle
    exact press_moves ⟨host, cursor⟩ press

/-- A key opens the dialog, and the next one, which would open the menu on the bar, is typed into
it instead. -/
theorem one_popup_at_a_time_typing :
    let host := Host.fresh {} { signedIn := true }
    let opened := (Terminal.press ⟨.char 'n', false⟩ ⟨host.mount.1, {}⟩).1
    let typed := (Terminal.press ⟨.char 'a', false⟩ opened).1
    let shell := typed.host.shell
    host.Starts ∧ Moves (idle ⟨host, {}⟩) (idle typed) ∧
    shell.dialog = .shown "a" ∧ shell.menu.isShown = false ∧
    ¬ (shell.dialog.isShown = true ∧ shell.menu.isShown = true) ∧ shell.signedIn = true ∧
    shell.menu.anchor? = none ∧ shell.view.front.popup? = some .dialog ∧
    ∀ press : Press, Moves (idle typed) (idle (Terminal.press press typed).1) := by
  intro host opened typed shell
  have hstarts : host.Starts := .fresh {} { signedIn := true } false none
  have hmount : Move (idle ⟨host, {}⟩) (idle ⟨host.mount.1, {}⟩) :=
    .call ⟨host, {}⟩ .mount (by simp)
  have hmoves : Moves (idle ⟨host, {}⟩) (idle typed) :=
    (Relation.ReflTransGen.single hmount).trans
      ((press_moves _ ⟨.char 'n', false⟩).trans (press_moves opened ⟨.char 'a', false⟩))
  have hdialog : shell.dialog = .shown "a" := by decide +kernel
  have hmenu : shell.menu.isShown = false := by decide +kernel
  have hshown : shell.dialog.isShown = true := by rw [hdialog]; rfl
  have hshows : shell.shows .dialog = true := by decide +kernel
  clear_value typed
  obtain ⟨hapart, hsigned, _, hanchor, hfront, _, _, hpress⟩ :=
    one_popup_at_a_time hstarts {} hmoves
  exact ⟨hstarts, hmoves, hdialog, hmenu, hapart, hsigned (Or.inl hshown), hanchor hmenu,
    (hfront .dialog).mp hshows, hpress rfl⟩

end Sitting

end WorksheetBar
