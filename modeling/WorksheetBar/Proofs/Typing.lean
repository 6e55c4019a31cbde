import WorksheetBar.Proofs.Dispatched
import WorksheetBar.Proofs.TerminalRuns

/-!
# Typing a name

A key that is pressed in the dialog makes a new text out of the one in the picture, and the whole
of it goes back to the shell.  Nothing is lost on the way, because what happens between two keys
leaves the dialog alone: answers arrive, the picture is drawn, the host is pumped or mounted.  Only
the end of the session and the end of the bar close the dialog from outside.

* `Press.types`, `Key.edit`, `typedText` — the keys that are typed, and what is typed with them;
* `act_inDialog` — what a key does in the dialog;
* `Around.dialog`, `Around.cursor` — what happens between two keys;
* `Typing.holds` — what a stretch of typing comes to;
* `typing_is_faithful` — the text is what was typed, and Enter sends it.
-/

namespace WorksheetBar

/-! ## Keys in the dialog -/

namespace Terminal

/-- What a key makes of a text. -/
def Key.edit (input : String) : Key → String
  | char c => input.push c
  | backspace => String.ofList input.toList.dropLast
  | enter | escape | left | right | other => input

/-- Whether a key is typed: it is neither Enter nor Escape, and does not end the program. -/
def Press.types (press : Press) : Bool :=
  press.key != .enter && press.key != .escape && !(press.control && press.key == .char 'c')

/-- The text that some keys type into an empty field. -/
def typedText (presses : List Press) : String :=
  presses.foldl (fun input press => press.key.edit input) ""

theorem typedText_concat (presses : List Press) (press : Press) :
    typedText (presses ++ [press]) = press.key.edit (typedText presses) := by
  simp [typedText]

/-- A key in an open dialog goes to the dialog. -/
theorem meaning_of_shown {press : Press} {shell : Shell} {input : String}
    (hdialog : shell.dialog = .shown input)
    (hstays : (press.control && press.key == .char 'c') = false) (cursor : Cursor) :
    press.meaning shell.view cursor = .go cursor (some (press.key.inDialog input)) := by
  have hbox : shell.view.dialog = some { input } := by simp [Shell.view, hdialog]
  rw [meaning_of_dialog cursor hbox hstays]

/-- What becomes of the dialog when a key is pressed in it. -/
theorem dialogAfter_inDialog {shell : Shell} {input : String}
    (hdialog : shell.dialog = .shown input) (key : Key) :
    shell.dialogAfter (.user (key.inDialog input)) =
      if key = .enter ∨ key = .escape then .closed else .shown (key.edit input) := by
  cases key with
  | enter | escape => exact Shell.dialogAfter_eq_closed rfl rfl
  | left | right | other => exact (Shell.dialogAfter_eq_self rfl rfl rfl).trans hdialog
  | backspace | char =>
      rw [Shell.dialogAfter, hdialog]
      rfl

/-- What is sent when a key is pressed in the dialog. -/
theorem commandsOf_inDialog {shell : Shell} {input : String}
    (hdialog : shell.dialog = .shown input) (key : Key) :
    shell.commandsOf (.user (key.inDialog input)) =
      if key = .enter then ["new " ++ Worksheet.effectiveName input] else [] := by
  cases key with
  | enter =>
      rw [Shell.commandsOf, hdialog]
      rfl
  | escape | left | right | other | backspace | char => rfl

/-- No key in the dialog ends the session. -/
theorem hears_inDialog (host : Host) (input : String) (key : Key) :
    host.hears (.user (key.inDialog input)) = [.user (key.inDialog input)] := by
  refine if_neg fun hsignOut => ?_
  have hasks := Shell.step_asks hsignOut
  cases key <;> nomatch hasks

/-- **What a key does in the dialog**: Enter sends the text and closes the dialog, Escape closes
it, and any other key edits the text. -/
theorem act_inDialog {terminal : Terminal} {input : String}
    (hdialog : terminal.host.shell.dialog = .shown input) (key : Key) :
    let after := act (key.inDialog input) terminal
    after.host.shell.dialog =
        (if key = .enter ∨ key = .escape then .closed else .shown (key.edit input)) ∧
      after.host.dispatched = terminal.host.dispatched ++
        (if key = .enter then ["new " ++ Worksheet.effectiveName input] else []) := by
  intro after
  refine ⟨?_, ?_⟩
  · show (act _ terminal).host.shell.dialog = _
    rw [act_shell, hears_inDialog, ← dialogAfter_inDialog hdialog]
    exact (Shell.step_dialog _ _).1
  · rw [← commandsOf_inDialog hdialog]
    exact act_dispatched _ terminal

/-- A key that is typed is none of those that do something else. -/
theorem not_ends_of_types {press : Press} (h : press.types = true) :
    press.key ≠ .enter ∧ press.key ≠ .escape ∧
      (press.control && press.key == .char 'c') = false := by
  simp only [Press.types, Bool.and_eq_true, bne_iff_ne, Bool.not_eq_true'] at h
  exact ⟨h.1.1, h.1.2, h.2⟩

end Terminal

/-! ## Between the keys -/

/-- Whether an action neither signs the user out nor makes the bar disappear, and is not
something the user does. -/
def Action.isCalm : Action → Bool
  | .runtime .mount | .runtime (.setSignedIn true) | .runtime (.fetched _ _) => true
  | .user _ | .runtime _ => false

/-- A calm action leaves the dialog alone. -/
theorem Shell.step_calm {shell : Shell} {action : Action} (h : action.isCalm = true) :
    (shell.step action).1.dialog = shell.dialog := by
  rw [(step_dialog shell action).1]
  match action, h with
  | .runtime .mount, _ | .runtime (.fetched _ _), _ => exact dialogAfter_eq_self rfl rfl rfl
  | .runtime (.setSignedIn true), _ =>
      exact dialogAfter_eq_self rfl (Bool.and_false shell.signedIn) rfl

/-- **What is calm leaves the dialog alone.** -/
theorem Shell.run_calm {shell : Shell} {actions : List Action}
    (h : ∀ action ∈ actions, action.isCalm = true) :
    (shell.run actions).dialog = shell.dialog := by
  induction actions using List.reverseRecOn with
  | nil => rfl
  | append_singleton actions action ih =>
      rw [run_concat, step_calm (h action (by simp))]
      exact ih fun other hmem => h other (List.mem_append_left _ hmem)

namespace Host

/-- What a host may be called for between two keys: it does not find the user signed out. -/
def allows (host : Host) : Operation → Bool
  | .mount | .pump | .settle => true
  | .syncSignedIn => host.provider.signedIn
  | .unmount | .handle _ => false

/-- What the host is called for between two keys is not the user's doing. -/
theorem allows_keyless {host : Host} {operation : Operation}
    (h : host.allows operation = true) : ∀ action, operation ≠ .handle action := by
  rintro action rfl
  cases h

/-- All that the shell hears at once between two keys is calm. -/
theorem hearsAtOnce_calm {host : Host} {operation : Operation}
    (h : host.allows operation = true) :
    ∀ action ∈ host.hearsAtOnce operation, action.isCalm = true := by
  intro action hmem
  cases operation with
  | mount =>
      rw [hearsAtOnce, hears_runtime] at hmem
      rw [List.mem_singleton.mp hmem]
      rfl
  | syncSignedIn =>
      have hsigned : host.provider.signedIn = true := h
      rw [hearsAtOnce, hsigned] at hmem
      rw [List.mem_singleton.mp hmem]
      rfl
  | unmount | handle => cases h
  | pump | settle => cases hmem

/-- The answers that it hears after that are calm. -/
theorem Answers.calm {heard : List Action} (h : Answers heard) :
    ∀ action ∈ heard, action.isCalm = true := by
  intro action hmem
  obtain ⟨ticket, result, rfl⟩ := h action hmem
  rfl

end Host

namespace Sitting

open Host Terminal

/-- What may happen at a terminal between two keys.  The host is called for something that it
allows, in one go or piece by piece; something happens around it; or the picture is drawn. -/
inductive Around : Sitting → Sitting → Prop
  | carriedOut (terminal : Terminal) (backend : Http.Backend) (operation : Operation)
      (hallows : terminal.host.allows operation = true) :
      Around (idle terminal)
        (idle { terminal with host := (carryOut backend operation terminal.host).1 })
  | call (terminal : Terminal) (operation : Operation)
      (hallows : terminal.host.allows operation = true) :
      Around (idle terminal) ⟨terminal.host.enter operation, terminal.cursor⟩
  | work {scene next : Scene} (cursor : Cursor) (hwork : Scene.Work scene next) :
      Around ⟨scene, cursor⟩ ⟨next, cursor⟩
  | progress {before after : Host} (activity : Activity) (cursor : Cursor)
      (hprogress : Progress before after) :
      Around ⟨⟨before, activity⟩, cursor⟩ ⟨⟨after, activity⟩, cursor⟩
  | draw (terminal : Terminal) :
      Around (idle terminal)
        (idle { terminal with cursor := terminal.cursor.clamp terminal.view.items.length })

namespace Around

variable {sitting next : Sitting}

/-- What happens between two keys is a move. -/
theorem move (h : Around sitting next) : Move sitting next := by
  cases h with
  | carriedOut terminal backend operation hallows =>
      exact .carriedOut terminal backend operation (allows_keyless hallows)
  | call terminal operation hallows => exact .call terminal operation (allows_keyless hallows)
  | work cursor hwork => exact .work cursor hwork
  | progress activity cursor hprogress => exact .progress activity cursor hprogress
  | draw terminal => exact .draw terminal

/-- **What happens between two keys leaves the dialog alone.** -/
theorem dialog (h : Around sitting next) :
    next.scene.host.shell.dialog = sitting.scene.host.shell.dialog := by
  cases h with
  | carriedOut terminal backend operation hallows =>
      obtain ⟨answers, hanswers, hshell, _⟩ := carryOut_tells backend operation terminal.host
      show (carryOut backend operation terminal.host).1.shell.dialog = _
      rw [hshell, Shell.run_append, Shell.run_calm hanswers.calm,
        Shell.run_calm (hearsAtOnce_calm hallows)]
      rfl
  | call terminal operation hallows =>
      rw [(enter_hears terminal.host operation).shell, Shell.run_calm (hearsAtOnce_calm hallows)]
      rfl
  | work _ hwork =>
      rw [hwork.hears.shell, Shell.run_calm (Scene.hearsWork_answers _).calm]
  | progress _ _ hprogress => rw [hprogress.backstage.shell]
  | draw => rfl

/-- While the user is signed in, drawing leaves the cursor where it is. -/
theorem cursor (h : Around sitting next) (hsound : sitting.Sound)
    (hsigned : sitting.scene.host.shell.signedIn = true) : next.cursor = sitting.cursor := by
  cases h with
  | carriedOut | call | work | progress => rfl
  | draw terminal => exact hsound.clamp_eq hsigned

/-- **What happens between two keys sends nothing.** -/
theorem dispatched (h : Around sitting next) :
    next.scene.host.dispatched = sitting.scene.host.dispatched := by
  cases h with
  | carriedOut terminal backend operation hallows =>
      exact carryOut_dispatched backend terminal.host (allows_keyless hallows)
  | call terminal operation hallows => exact enter_dispatched terminal.host (allows_keyless hallows)
  | work _ hwork => exact hwork.dispatched
  | progress _ _ hprogress => exact hprogress.backstage.dispatched
  | draw => rfl

end Around

/-! ## Typing -/

/-- A stretch of typing: the keys that were pressed since it began, and the sitting it has come
to.  A key is pressed at a picture of the shell. -/
inductive Typing (start : Sitting) : List Press → Sitting → Prop
  | begin : Typing start [] start
  | around {presses : List Press} {sitting next : Sitting} (h : Typing start presses sitting)
      (haround : Around sitting next) : Typing start presses next
  | key {presses : List Press} {terminal : Terminal}
      (h : Typing start presses (idle terminal)) {press : Press} (htypes : press.types = true) :
      Typing start (presses ++ [press])
        (idle (terminal.follow (press.meaning terminal.view terminal.cursor)))

/-- A sitting in a stretch of typing, with the text that has been typed. -/
structure Holds (start : Sitting) (text : String) (sitting : Sitting) : Prop where
  sound : sitting.Sound
  dialog : sitting.scene.host.shell.dialog = .shown text
  cursor : sitting.cursor = start.cursor
  dispatched : sitting.scene.host.dispatched = start.scene.host.dispatched

namespace Holds

variable {start sitting next : Sitting} {text : String}

/-- The user is signed in as long as the dialog is open. -/
theorem signedIn (h : Holds start text sitting) : sitting.scene.host.shell.signedIn = true := by
  apply h.sound.unattended.signedIn_of_dialog
  rw [h.dialog]
  simp

/-- **What happens between two keys leaves the text alone.** -/
theorem around (h : Holds start text sitting) (haround : Around sitting next) :
    Holds start text next where
  sound := Turn.sound (.move haround.move) h.sound
  dialog := haround.dialog.trans h.dialog
  cursor := (haround.cursor h.sound h.signedIn).trans h.cursor
  dispatched := haround.dispatched.trans h.dispatched

/-- **A key edits the text.** -/
theorem key {terminal : Terminal} (h : Holds start text (idle terminal)) {press : Press}
    (htypes : press.types = true) :
    Holds start (press.key.edit text)
      (idle (terminal.follow (press.meaning terminal.view terminal.cursor))) := by
  obtain ⟨henter, hescape, hstays⟩ := not_ends_of_types htypes
  have hdialog : terminal.host.shell.dialog = .shown text := h.dialog
  obtain ⟨hafter, hsent⟩ := act_inDialog hdialog press.key
  rw [if_neg (by simp [henter, hescape])] at hafter
  rw [if_neg henter, List.append_nil] at hsent
  have hsound := Turn.sound (.move (.key terminal press)) h.sound
  have hmeaning : press.meaning terminal.view terminal.cursor =
      .go terminal.cursor (some (press.key.inDialog text)) :=
    meaning_of_shown hdialog hstays terminal.cursor
  rw [hmeaning] at hsound ⊢
  exact ⟨hsound, hafter, h.cursor, hsent.trans h.dispatched⟩

end Holds

/-- **What a stretch of typing comes to.** -/
theorem Typing.holds {start sitting : Sitting} {presses : List Press} (hsound : start.Sound)
    (hempty : start.scene.host.shell.dialog = .shown "") (h : Typing start presses sitting) :
    Holds start (typedText presses) sitting := by
  induction h with
  | begin => exact ⟨hsound, hempty, rfl, rfl⟩
  | around _ haround ih => exact ih.around haround
  | key _ htypes ih =>
      rw [typedText_concat]
      exact ih.key htypes

/-- Something happens around the host while it is idle. -/
theorem Typing.progress {start : Sitting} {presses : List Press} {terminal : Terminal}
    {after : Host} (h : Typing start presses (idle terminal))
    (hprogress : Progress terminal.host after) :
    Typing start presses (idle { terminal with host := after }) :=
  .around h (.progress .idle terminal.cursor hprogress)

/-- Before a key is taken the host is pumped and the picture is drawn. -/
theorem Typing.refresh {start : Sitting} {presses : List Press} {terminal : Terminal}
    (h : Typing start presses (idle terminal)) :
    Typing start presses (idle terminal.refresh) := by
  let backend : Http.Backend := ⟨fun _ _ => .died, fun _ _ _ => .died⟩
  have hpump : Around (idle terminal) (idle { terminal with host := terminal.host.pump.1 }) :=
    .carriedOut terminal backend .pump rfl
  exact .around (.around h hpump) (.draw _)

/-- Taking a key, with what comes before it, is a stretch of typing. -/
theorem Typing.press {start : Sitting} {presses : List Press} {terminal : Terminal}
    (h : Typing start presses (idle terminal)) {press : Press} (htypes : press.types = true) :
    Typing start (presses ++ [press]) (idle (Terminal.press press terminal).1) := by
  rw [press_eq]
  exact .key h.refresh htypes

/-- What comes of a key that is pressed in the dialog. -/
theorem Holds.press_eq {start : Sitting} {text : String} {terminal : Terminal}
    (h : Holds start text (idle terminal.refresh)) {press : Press}
    (hstays : (press.control && press.key == .char 'c') = false) :
    Terminal.press press terminal = (act (press.key.inDialog text) terminal.refresh, false) :=
  press_of_meaning (meaning_of_shown h.dialog hstays terminal.refresh.cursor)

/-- **What comes of Enter and Escape**: both close the dialog, and Enter sends the text. -/
theorem Holds.closes {start : Sitting} {text : String} {terminal : Terminal}
    (h : Holds start text (idle terminal.refresh)) {press : Press}
    (hends : press.key = .enter ∨ press.key = .escape) :
    (Terminal.press press terminal).2 = false ∧
      (Terminal.press press terminal).1.cursor = start.cursor ∧
      (Terminal.press press terminal).1.host.shell.dialog = .closed ∧
      (Terminal.press press terminal).1.host.dispatched = start.scene.host.dispatched ++
        if press.key = .enter then ["new " ++ Worksheet.effectiveName text] else [] := by
  have hstays : (press.control && press.key == .char 'c') = false := by
    rcases hends with hkey | hkey <;> simp [hkey]
  obtain ⟨hclosed, hsent⟩ := act_inDialog h.dialog press.key
  rw [if_pos hends] at hclosed
  rw [h.press_eq hstays]
  exact ⟨rfl, h.cursor, hclosed, hsent.trans (congrArg (· ++ _) h.dispatched)⟩

/-- A sitting that is idle is that of a terminal. -/
theorem exists_idle {sitting : Sitting} (h : sitting.scene.activity = .idle) :
    ∃ terminal, sitting = idle terminal := by
  obtain ⟨⟨host, activity⟩, cursor⟩ := sitting
  obtain rfl : activity = .idle := h
  exact ⟨⟨host, cursor⟩, rfl⟩

/-- **Typing is faithful.**  A run at a terminal has come to an empty open dialog.  Keys are
pressed, none of them Enter, Escape or Control and the letter c, and between them answers arrive,
the picture is drawn and the host is called for whatever does not sign the user out or make the
bar disappear.  Then the dialog stays open and holds what was typed, the cursor stays where it is,
and nothing is sent.  No such key ends the program or moves the cursor: it goes to the dialog.

From there one more such key edits the text.  Enter closes the dialog and sends one command, for
the name that was typed; Escape closes it and sends none. -/
theorem typing_is_faithful {start sitting : Sitting} {presses : List Press}
    (hstart : start.Reachable) (hempty : start.scene.host.shell.dialog = .shown "")
    (htyping : Typing start presses sitting) :
    let host := sitting.scene.host
    let sent := start.scene.host.dispatched
    let text := typedText presses
    host.shell.dialog = .shown text ∧ sitting.cursor = start.cursor ∧ host.dispatched = sent ∧
    (∀ press : Press, press.types = true →
      press.meaning host.shell.view sitting.cursor =
        .go start.cursor (some (press.key.inDialog text))) ∧
    (sitting.scene.activity = .idle →
      (∀ press : Press, press.types = true →
        let (after, leaves) := Terminal.press press sitting.terminal
        leaves = false ∧ after.cursor = start.cursor ∧
          after.host.shell.dialog = .shown (press.key.edit text) ∧
          after.host.dispatched = sent ∧ Typing start (presses ++ [press]) (idle after)) ∧
      (∀ press : Press, press.key = .enter →
        let (after, leaves) := Terminal.press press sitting.terminal
        leaves = false ∧ after.cursor = start.cursor ∧ after.host.shell.dialog = .closed ∧
          after.host.dispatched = sent ++ ["new " ++ Worksheet.effectiveName text]) ∧
      ∀ press : Press, press.key = .escape →
        let (after, leaves) := Terminal.press press sitting.terminal
        leaves = false ∧ after.cursor = start.cursor ∧ after.host.shell.dialog = .closed ∧
          after.host.dispatched = sent) := by
  intro host sent text
  have hsound : start.Sound := hstart.sound
  have hholds : Holds start text sitting := htyping.holds hsound hempty
  refine ⟨hholds.dialog, hholds.cursor, hholds.dispatched, ?_, ?_⟩
  · intro press htypes
    rw [← hholds.cursor]
    exact meaning_of_shown hholds.dialog (not_ends_of_types htypes).2.2 sitting.cursor
  · intro hidle
    obtain ⟨terminal, rfl⟩ := exists_idle hidle
    have hready : Holds start text (idle terminal.refresh) :=
      htyping.refresh.holds hsound hempty
    refine ⟨?_, ?_, ?_⟩
    · intro press htypes
      have hnext := htyping.press htypes
      have hafter := hnext.holds hsound hempty
      rw [typedText_concat] at hafter
      have hstays := (not_ends_of_types htypes).2.2
      exact ⟨congrArg Prod.snd (hready.press_eq hstays), hafter.cursor, hafter.dialog,
        hafter.dispatched, hnext⟩
    · intro press henter
      have hcloses := hready.closes (Or.inl henter)
      rwa [if_pos henter] at hcloses
    · intro press hescape
      have hcloses := hready.closes (Or.inr hescape)
      rwa [if_neg (by simp [hescape]), List.append_nil] at hcloses

/-- A key that would end the program on the bar is typed while a profile is asked for in vain, and
then keys that change nothing in the end. -/
theorem typing_is_faithful_quit :
    let host := Host.fresh {} { signedIn := true }
    let backend : Http.Backend := ⟨fun _ _ => .failed "timeout", fun _ _ _ => .died⟩
    let opened := (Terminal.press ⟨.char 'n', false⟩ ⟨host.mount.1, {}⟩).1
    let first := (Terminal.press ⟨.char 'q', false⟩ opened).1
    let answered : Terminal := ⟨first.host.runBackground backend, first.cursor⟩
    let second := (Terminal.press ⟨.char 'x', true⟩ answered).1
    let third := (Terminal.press ⟨.left, false⟩ second).1
    let typed := (Terminal.press ⟨.backspace, false⟩ third).1
    let presses : List Press :=
      [⟨.char 'q', false⟩, ⟨.char 'x', true⟩, ⟨.left, false⟩, ⟨.backspace, false⟩]
    (idle opened).Reachable ∧ opened.host.shell.dialog = .shown "" ∧
    Typing (idle opened) presses (idle typed) ∧ typedText presses = "q" ∧
    opened.host.shell.session.ticket?.isSome = true ∧
    typed.host.shell.session.ticket? = none ∧
    typed.host.shell.dialog = .shown "q" ∧ typed.cursor = opened.cursor ∧
    (Terminal.press ⟨.enter, false⟩ typed).2 = false ∧
    (Terminal.press ⟨.enter, false⟩ typed).1.host.dispatched = ["new q"] ∧
    (Terminal.press ⟨.escape, false⟩ typed).1.host.dispatched = [] := by
  intro host backend opened first answered second third typed presses
  have hstarts : host.Starts := .fresh {} { signedIn := true } false none
  have hmount : Move (idle ⟨host, {}⟩) (idle ⟨host.mount.1, {}⟩) :=
    .call ⟨host, {}⟩ .mount (by simp)
  have hreachable : (idle opened).Reachable :=
    ⟨host, hstarts, Moves.turns ((Relation.ReflTransGen.single hmount).trans
      (press_moves _ ⟨.char 'n', false⟩))⟩
  have hfirst : Typing (idle opened) [⟨.char 'q', false⟩] (idle first) := Typing.begin.press rfl
  have hanswered : Typing (idle opened) [⟨.char 'q', false⟩] (idle answered) :=
    hfirst.progress (.runBackground first.host backend)
  have hsecond : Typing (idle opened) _ (idle second) := hanswered.press rfl
  have htyping : Typing (idle opened) presses (idle typed) := (hsecond.press rfl).press rfl
  have hempty : opened.host.shell.dialog = .shown "" := by decide +kernel
  have hsent : opened.host.dispatched = [] := by decide +kernel
  have htext : typedText presses = "q" := by decide +kernel
  have hasked : opened.host.shell.session.ticket?.isSome = true := by decide +kernel
  have hfailed : typed.host.shell.session.ticket? = none := by decide +kernel
  clear_value opened typed presses
  obtain ⟨hdialog, hcursor, _, _, hkeys⟩ := typing_is_faithful hreachable hempty htyping
  obtain ⟨_, henter, hescape⟩ := hkeys rfl
  obtain ⟨hstays, _, _, hdispatched⟩ := henter ⟨.enter, false⟩ rfl
  obtain ⟨_, _, _, hnothing⟩ := hescape ⟨.escape, false⟩ rfl
  rw [htext] at hdialog hdispatched
  exact ⟨hreachable, hempty, htyping, htext, hasked, hfailed, hdialog, hcursor, hstays,
    hdispatched.trans (congrArg (· ++ ["new q"]) hsent), hnothing.trans hsent⟩

end Sitting

end WorksheetBar
