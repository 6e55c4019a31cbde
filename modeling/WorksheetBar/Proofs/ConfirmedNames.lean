import Mathlib.Data.List.Basic
import WorksheetBar.Proofs.Popups

/-!
# The names that are confirmed

Which commands a run sends can be told from its history alone.  The dialog is open when
a step is taken exactly if it was opened before and nothing has closed it since; what
stands in it is what was typed last since the control for a new worksheet was activated
last.  A step sends a command exactly if it confirms an open dialog.

So a name that was typed while the dialog was closed, or before it was opened again, is
never sent, and no name is sent twice.

* `shownAt_iff` — when the dialog is open;
* `input_eq_lastTyped` — what stands in it;
* `confirmed_names_sent` — exactly the confirmed names are sent, in order.
-/

namespace WorksheetBar

/-- What was typed last since the control for a new worksheet was activated last, and
nothing if nothing was. -/
def lastTyped (actions : List Action) : String :=
  ((actions.reverse.takeWhile fun action => !action.activatesNew).findSome?
    Action.typed?).getD ""

@[simp] theorem lastTyped_concat (actions : List Action) (action : Action) :
    lastTyped (actions ++ [action]) =
      if action.activatesNew then "" else action.typed?.getD (lastTyped actions) := by
  unfold lastTyped
  rw [List.reverse_append, List.reverse_singleton, List.singleton_append, List.takeWhile_cons]
  cases hnew : action.activatesNew with
  | true => rfl
  | false => cases htyped : action.typed? <;> simp [htyped]

/-- What was typed before the control was activated does not matter. -/
theorem lastTyped_append {opening : Action} (hopening : opening.activatesNew = true)
    (earlier : List Action) {later : List Action}
    (hlater : ∀ action ∈ later, action.activatesNew = false) :
    lastTyped (earlier ++ opening :: later) =
      (later.reverse.findSome? Action.typed?).getD "" := by
  have hall : ∀ action ∈ later.reverse, (!action.activatesNew) = true := by
    intro action hmem
    rw [hlater action (List.mem_reverse.mp hmem)]
    rfl
  unfold lastTyped
  rw [List.reverse_append, List.reverse_cons, List.append_assoc, List.takeWhile_append_of_pos hall,
    List.singleton_append, List.takeWhile_cons_of_neg (by simp [hopening]), List.append_nil]

namespace Shell

/-- The dialog is open when step `k` of the run is taken. -/
def ShownAt (shell : Shell) (actions : List Action) (k : Nat) : Prop :=
  (shell.run (actions.take k)).dialog.isShown = true

/-- Step `k` of the run opens the dialog: its control is activated while the user is signed
in. -/
def OpensAt (shell : Shell) (actions : List Action) (k : Nat) : Prop :=
  actions[k]? = some (.user (.activate .newWorksheet)) ∧
    (shell.run (actions.take k)).signedIn = true

/-- Step `k` of the run closes the dialog if it is open. -/
def ClosesAt (shell : Shell) (actions : List Action) (k : Nat) : Prop :=
  ∃ action, actions[k]? = some action ∧ (shell.run (actions.take k)).closes action = true

/-- The command that step `k` of the run sends: it has to confirm an open dialog. -/
def sentAt? (shell : Shell) (actions : List Action) (k : Nat) : Option String :=
  match actions[k]? with
  | none => none
  | some action =>
    if action.confirms && (shell.run (actions.take k)).dialog.isShown then
      some ("new " ++ Worksheet.effectiveName (lastTyped (actions.take k)))
    else none

variable {shell : Shell} {actions : List Action} {action : Action} {i j k : Nat}

/-- The dialog is opened at a step whose action opens it. -/
theorem opensAt_iff (hget : actions[k]? = some action) :
    shell.OpensAt actions k ↔ (shell.run (actions.take k)).opens action = true := by
  rw [OpensAt, hget, opens, Bool.and_eq_true, Option.some_inj]
  refine and_congr_left fun _ => ?_
  constructor
  · rintro rfl
    rfl
  · intro hnew
    unfold Action.activatesNew at hnew
    split at hnew
    · rfl
    · cases hnew
    · cases hnew

/-- The dialog is closed at a step whose action closes it. -/
theorem closesAt_iff (hget : actions[k]? = some action) :
    shell.ClosesAt actions k ↔ (shell.run (actions.take k)).closes action = true := by
  simp [ClosesAt, hget]

/-- After a step the dialog is open if the step opens it, or if it was open and the step
does not close it. -/
theorem shownAt_succ (hget : actions[k]? = some action) :
    shell.ShownAt actions (k + 1) ↔
      shell.OpensAt actions k ∨ ¬ shell.ClosesAt actions k ∧ shell.ShownAt actions k := by
  rw [opensAt_iff hget, closesAt_iff hget, ShownAt, ShownAt, run_take_succ hget,
    (step_dialog _ action).1, isShown_dialogAfter]
  simp

/-- No step opens the dialog and closes it. -/
theorem OpensAt.not_closesAt (h : shell.OpensAt actions k) : ¬ shell.ClosesAt actions k := by
  rw [closesAt_iff h.1]
  simp [closes]

/-- **The dialog stays open** until something closes it. -/
theorem shownAt_of_opensAt (hopens : shell.OpensAt actions i) (hik : i < k)
    (hnone : ∀ j, i < j → j < k → ¬ shell.ClosesAt actions j) : shell.ShownAt actions k := by
  refine run_of_le (P := fun shell => shell.dialog.isShown = true) hik ?_
    ((shownAt_succ hopens.1).mpr (Or.inl hopens))
  intro j action hij hjk hget hbefore
  exact (shownAt_succ hget).mpr (Or.inr ⟨hnone j hij hjk, hbefore⟩)

/-- A step that closes the dialog leaves it closed. -/
theorem ClosesAt.not_shownAt (h : shell.ClosesAt actions k) : ¬ shell.ShownAt actions (k + 1) := by
  have hcloses := h
  obtain ⟨action, hget, _⟩ := h
  rw [shownAt_succ hget]
  rintro (hopens | ⟨hnot, _⟩)
  · exact hopens.not_closesAt hcloses
  · exact hnot hcloses

section

variable {config : Config} {signedIn : Bool}

/-- An open dialog belongs to a signed-in user. -/
theorem signedIn_of_isShown
    (h : ((fresh config signedIn).run actions).dialog.isShown = true) :
    ((fresh config signedIn).run actions).signedIn = true := by
  apply (run_unattended config signedIn actions).signedIn_of_dialog
  intro hclosed
  rw [hclosed] at h
  cases h

/-- **An open dialog was opened by one step and has been open since**, and its control was not
activated again. -/
theorem ShownAt.exists_opensAt (h : (fresh config signedIn).ShownAt actions k)
    (hk : k ≤ actions.length) :
    ∃ o < k, (fresh config signedIn).OpensAt actions o ∧
      (∀ j, o < j → j ≤ k → (fresh config signedIn).ShownAt actions j) ∧
      ∀ j action, o < j → j < k → actions[j]? = some action → action.activatesNew = false := by
  induction k with
  | zero => cases h
  | succ k ih =>
      have hget : actions[k]? = some actions[k] := List.getElem?_eq_getElem hk
      by_cases hopens : (fresh config signedIn).OpensAt actions k
      · refine ⟨k, Nat.lt_succ_self k, hopens, ?_, ?_⟩
        · intro j hkj hj
          obtain rfl : j = k + 1 := by omega
          exact h
        · intro j action hkj hj
          omega
      · obtain ⟨_, hbefore⟩ := ((shownAt_succ hget).mp h).resolve_left hopens
        obtain ⟨o, hok, hopened, hshown, hnone⟩ := ih hbefore (Nat.le_of_succ_le hk)
        refine ⟨o, Nat.lt_succ_of_lt hok, hopened, ?_, ?_⟩
        · intro j hoj hj
          rcases Nat.lt_or_eq_of_le hj with hearlier | rfl
          · exact hshown j hoj (Nat.le_of_lt_succ hearlier)
          · exact h
        · intro j action hoj hj hget'
          rcases Nat.lt_or_eq_of_le (Nat.le_of_lt_succ hj) with hearlier | rfl
          · exact hnone j action hoj hearlier hget'
          · -- activating the control once more would open the dialog again
            rw [opensAt_iff hget', opens, signedIn_of_isShown hbefore, Bool.and_true] at hopens
            simpa using hopens

/-- **The dialog is open exactly if it was opened and nothing has closed it since.** -/
theorem shownAt_iff (hk : k ≤ actions.length) :
    (fresh config signedIn).ShownAt actions k ↔
      ∃ i < k, (fresh config signedIn).OpensAt actions i ∧
        ∀ j, i < j → j < k → ¬ (fresh config signedIn).ClosesAt actions j := by
  constructor
  · intro h
    obtain ⟨o, hok, hopened, hshown, _⟩ := h.exists_opensAt hk
    refine ⟨o, hok, hopened, ?_⟩
    intro j hoj hjk hcloses
    exact hcloses.not_shownAt (hshown (j + 1) (Nat.lt_succ_of_lt hoj) hjk)
  · rintro ⟨i, hik, hopened, hnone⟩
    exact shownAt_of_opensAt hopened hik hnone

/-- **What stands in an open dialog** is what was typed last since its control was
activated. -/
theorem input_eq_lastTyped {input : String}
    (h : ((fresh config signedIn).run actions).dialog = .shown input) :
    input = lastTyped actions := by
  induction actions using List.reverseRecOn generalizing input with
  | nil => cases h
  | append_singleton actions action ih =>
      rw [run_concat, (step_dialog _ action).1, dialogAfter] at h
      rw [lastTyped_concat]
      split at h
      · next hopens =>
          have hnew : action.activatesNew = true := (Bool.and_eq_true _ _ ▸ hopens).1
          rw [if_pos hnew]
          cases h
          rfl
      · next hopens =>
          split at h
          · cases h
          · cases hbefore : ((fresh config signedIn).run actions).dialog with
            | closed =>
                rw [hbefore] at h
                cases h
            | shown before =>
                have hshown : ((fresh config signedIn).run actions).dialog.isShown = true := by
                  rw [hbefore]
                  rfl
                rw [opens, signedIn_of_isShown hshown, Bool.and_true] at hopens
                rw [hbefore] at h
                rw [if_neg hopens, ← ih hbefore]
                cases h
                rfl

/-- What the last step of a run sends is the command for the confirmed name. -/
theorem commandsOf_eq (action : Action) :
    ((fresh config signedIn).run actions).commandsOf action =
      ((fresh config signedIn).sentAt? (actions ++ [action]) actions.length).toList := by
  have hget : (actions ++ [action])[actions.length]? = some action := by simp
  have htake : (actions ++ [action]).take actions.length = actions := by simp
  rw [commandsOf, sentAt?, hget, htake]
  dsimp only
  cases hconfirms : action.confirms with
  | false => rfl
  | true =>
      cases hdialog : ((fresh config signedIn).run actions).dialog with
      | closed => rfl
      | shown input =>
          rw [Dialog.command?, input_eq_lastTyped hdialog]
          rfl

/-- What a step sends is settled when it is taken. -/
theorem sentAt?_concat (shell : Shell) (actions : List Action) (action : Action)
    (hk : k < actions.length) :
    shell.sentAt? (actions ++ [action]) k = shell.sentAt? actions k := by
  rw [sentAt?, sentAt?, List.getElem?_append_left hk,
    List.take_append_of_le_length (Nat.le_of_lt hk)]

/-- **Exactly the confirmed names are sent**, in the order of the confirmations. -/
theorem commands_eq (config : Config) (signedIn : Bool) (actions : List Action) :
    Effect.commands ((fresh config signedIn).effects actions) =
      (List.range actions.length).filterMap ((fresh config signedIn).sentAt? actions) := by
  induction actions using List.reverseRecOn with
  | nil => rfl
  | append_singleton actions action ih =>
      have hearlier : (List.range actions.length).filterMap
            ((fresh config signedIn).sentAt? (actions ++ [action])) =
          (List.range actions.length).filterMap ((fresh config signedIn).sentAt? actions) := by
        apply List.filterMap_congr
        intro k hmem
        exact sentAt?_concat _ actions action (List.mem_range.mp hmem)
      have hlast : Effect.commands (((fresh config signedIn).run actions).effects [action]) =
          ((fresh config signedIn).sentAt? (actions ++ [action]) actions.length).toList := by
        rw [← commandsOf_eq, ← (step_dialog _ action).2]
        simp [effects]
      rw [effects_append, Effect.commands_append, ih, hlast, List.length_append,
        List.length_singleton, List.range_succ, List.filterMap_append, hearlier]
      cases h : (fresh config signedIn).sentAt? (actions ++ [action]) actions.length <;>
        simp [h]

/-- A step that sends something confirms an open dialog. -/
theorem exists_of_sentAt? {command : String} (h : shell.sentAt? actions k = some command) :
    ∃ action, actions[k]? = some action ∧ action.confirms = true ∧ shell.ShownAt actions k ∧
      command = "new " ++ Worksheet.effectiveName (lastTyped (actions.take k)) := by
  unfold sentAt? at h
  split at h
  · cases h
  · next action hget =>
      split at h
      · next hopen =>
          rw [Bool.and_eq_true] at hopen
          exact ⟨action, hget, hopen.1, hopen.2, (Option.some_inj.mp h).symm⟩
      · cases h

/-- Confirming closes the dialog, and opens none. -/
theorem closes_of_confirms (shell : Shell) (h : action.confirms = true) :
    shell.closes action = true ∧ action.activatesNew = false := by
  unfold Action.confirms at h
  split at h
  · exact ⟨rfl, rfl⟩
  · exact ⟨rfl, rfl⟩
  · cases h
  · cases h

/-- What counts was typed after the step that opened the dialog. -/
theorem lastTyped_take {o : Nat} (hopens : shell.OpensAt actions o) (hok : o < k)
    (hk : k ≤ actions.length)
    (hnone : ∀ j action, o < j → j < k → actions[j]? = some action →
      action.activatesNew = false) :
    lastTyped (actions.take k) =
      (((actions.take k).drop (o + 1)).reverse.findSome? Action.typed?).getD "" := by
  have hlength : o < (actions.take k).length := by
    rw [List.length_take]
    omega
  have hget : (actions.take k)[o] = .user (.activate .newWorksheet) := by
    have hsome := List.getElem?_eq_getElem hlength
    rw [List.getElem?_take_of_lt hok, hopens.1] at hsome
    exact (Option.some_inj.mp hsome).symm
  have hsplit : actions.take k = (actions.take k).take o ++
      (actions.take k)[o] :: (actions.take k).drop (o + 1) := by
    rw [← List.drop_eq_getElem_cons hlength, List.take_append_drop]
  conv => lhs; rw [hsplit]
  apply lastTyped_append
  · rw [hget]
    rfl
  · intro action hmem
    obtain ⟨n, hn⟩ := List.getElem?_of_mem hmem
    rw [List.getElem?_drop] at hn
    have hplace : o + 1 + n < k := by
      have hlt := (List.getElem?_eq_some_iff.mp hn).1
      rw [List.length_take] at hlt
      omega
    rw [List.getElem?_take_of_lt hplace] at hn
    exact hnone (o + 1 + n) action (by omega) hplace hn

/-- **Exactly the confirmed names are sent.**  A run sends one command for each step that
confirms an open dialog, in their order and none besides, and the name in it is what was
typed last since the control was activated last.  The dialog is open at a step exactly if
it was opened and nothing has closed it since.  So between two commands the dialog was
opened again, and the name in a command was typed while the dialog was open, after the
step that opened it. -/
theorem confirmed_names_sent (config : Config) (signedIn : Bool) (actions : List Action) :
    let shell := fresh config signedIn
    Effect.commands (shell.effects actions) =
      (List.range actions.length).filterMap (shell.sentAt? actions) ∧
    (∀ k ≤ actions.length, shell.ShownAt actions k ↔
      ∃ i < k, shell.OpensAt actions i ∧ ∀ j, i < j → j < k → ¬ shell.ClosesAt actions j) ∧
    (∀ i j, i < j → (shell.sentAt? actions i).isSome = true →
      (shell.sentAt? actions j).isSome = true →
      ∃ k, i < k ∧ k < j ∧ shell.OpensAt actions k) ∧
    ∀ k command, shell.sentAt? actions k = some command →
      ∃ o < k, shell.OpensAt actions o ∧ (∀ j, o < j → j ≤ k → shell.ShownAt actions j) ∧
        command = "new " ++ Worksheet.effectiveName
          ((((actions.take k).drop (o + 1)).reverse.findSome? Action.typed?).getD "") := by
  intro shell
  refine ⟨commands_eq config signedIn actions, fun k hk => shownAt_iff hk, ?_, ?_⟩
  · intro i j hij hfirst hsecond
    obtain ⟨first, hfirst⟩ := Option.isSome_iff_exists.mp hfirst
    obtain ⟨second, hsecond⟩ := Option.isSome_iff_exists.mp hsecond
    obtain ⟨action, hget, hconfirms, _, _⟩ := exists_of_sentAt? hfirst
    obtain ⟨_, hget', _, hshown, _⟩ := exists_of_sentAt? hsecond
    have hj : j ≤ actions.length := Nat.le_of_lt (List.getElem?_eq_some_iff.mp hget').1
    obtain ⟨o, hoj, hopens, hnone⟩ := (shownAt_iff hj).mp hshown
    obtain ⟨hcloses, hnew⟩ := closes_of_confirms (shell.run (actions.take i)) hconfirms
    refine ⟨o, ?_, hoj, hopens⟩
    -- the first confirmation closed the dialog, so it was not opened before that
    rcases Nat.lt_trichotomy o i with hbefore | rfl | hafter
    · exact absurd ⟨action, hget, hcloses⟩ (hnone i hbefore hij)
    · rw [hopens.1, Option.some_inj] at hget
      rw [← hget] at hnew
      cases hnew
    · exact hafter
  · intro k command hsent
    obtain ⟨_, hget, _, hshown, hcommand⟩ := exists_of_sentAt? hsent
    have hk : k ≤ actions.length := Nat.le_of_lt (List.getElem?_eq_some_iff.mp hget).1
    obtain ⟨o, hok, hopens, hopen, hnone⟩ := hshown.exists_opensAt hk
    rw [lastTyped_take hopens hok hk hnone] at hcommand
    exact ⟨o, hok, hopens, hopen, hcommand⟩

/-- The dialog is opened twice before the first confirmation, and something is typed into
the closed one before the second: neither text is sent. -/
theorem confirmed_names_sent_reopened :
    let shell := fresh {} true
    let actions : List Action :=
      [.user (.activate .newWorksheet), .user (.editName "lost"),
        .user (.activate .newWorksheet), .user (.editName "plan"), .user .confirmDialog,
        .user (.editName "late"), .user (.activate .newWorksheet), .user (.pressInName .enter)]
    Effect.commands (shell.effects actions) = ["new plan", "new unnamed"] ∧
    shell.ShownAt actions 4 ∧
    (∃ i < 4, shell.OpensAt actions i ∧
      ∀ j, i < j → j < 4 → ¬ shell.ClosesAt actions j) ∧
    (∃ k, 4 < k ∧ k < 7 ∧ shell.OpensAt actions k) ∧
    ∃ o < 7, shell.OpensAt actions o ∧ (∀ j, o < j → j ≤ 7 → shell.ShownAt actions j) ∧
      "new unnamed" = "new " ++ Worksheet.effectiveName
        ((((actions.take 7).drop (o + 1)).reverse.findSome? Action.typed?).getD "") := by
  intro shell actions
  obtain ⟨hcommands, hshown, hbetween, htyped⟩ := confirmed_names_sent {} true actions
  have hfirst : shell.sentAt? actions 4 = some "new plan" := by decide +kernel
  have hsecond : shell.sentAt? actions 7 = some "new unnamed" := by decide +kernel
  have hopen : shell.ShownAt actions 4 := rfl
  refine ⟨?_, hopen, (hshown 4 (by decide)).mp hopen, ?_, htyped 7 _ hsecond⟩
  · rw [hcommands]
    decide +kernel
  · exact hbetween 4 7 (by decide) (by rw [hfirst]; rfl) (by rw [hsecond]; rfl)

end

end Shell

end WorksheetBar
