import WorksheetBar.Proofs.Notes
import WorksheetBar.Proofs.Stories

/-!
# The journal is reported in full

The host reports the journal after every step of the shell, also in the middle of the effects
of another one.  It remembers the number of the newest entry it has reported and looks at what
stands behind that.  A step writes two entries at most and the journal has room for two
hundred, so what a step writes is still there when the host looks, whatever had to make room
for it.

* `Mirrors.relay` — the host reports what a step has written, and nothing else;
* `Story.mirrors` — so all along it has reported the whole history of the journal;
* `mirrored_exactly_once` — every entry is reported once, in order, under its own number.
-/

namespace WorksheetBar

namespace Host

/-- A history was written into the journal of a host, and all of it was reported. -/
structure Mirrors (host : Host) (history : List Journal.Entry) : Prop where
  journal : host.shell.journal.Holds history
  capacity : host.shell.journal.capacity = 200
  relayed : host.relayed = history.length
  mirrored : host.mirrored = Journal.numberFrom 1 history

variable {host after : Host} {history : List Journal.Entry}

/-- Nothing is to be reported of a journal that stays as it is. -/
theorem Mirrors.same (h : host.Mirrors history) (hshell : after.shell = host.shell)
    (hrelayed : after.relayed = host.relayed) (hmirrored : after.mirrored = host.mirrored) :
    after.Mirrors history := by
  refine ⟨?_, ?_, hrelayed.trans h.relayed, hmirrored.trans h.mirrored⟩
  · rw [hshell]
    exact h.journal
  · rw [hshell]
    exact h.capacity

/-- Behind the scenes the journal stays as it is. -/
theorem Mirrors.backstage (h : host.Mirrors history) (hbackstage : Backstage host after) :
    after.Mirrors history :=
  h.same hbackstage.shell hbackstage.relayed hbackstage.mirrored

/-- What is reported of the journal are the entries behind the newest one reported. -/
theorem mirrored_relay (host : Host) :
    host.relay.mirrored = host.mirrored ++ host.shell.journal.since host.relayed := by
  have hnews : ∀ entries : List Journal.Entry,
      (entries.map fun entry => Happening.reported (.relayed entry)).filterMap
        Happening.relayed? = entries := by
    intro entries
    rw [List.filterMap_map]
    exact List.filterMap_some
  rw [mirrored, relay, List.filterMap_append, hnews, mirrored]

/-- **The host reports what a step has written, and nothing else.** -/
theorem Mirrors.relay (h : host.Mirrors history) (action : Action) :
    ({ host with shell := (host.shell.step action).1 } : Host).relay.Mirrors
      (history ++ host.shell.notes action) := by
  have hjournal := Shell.step_journal host.shell action
  have hholds := h.journal.appendAll (host.shell.notes action)
  have hcapacity : (host.shell.step action).1.journal.capacity = 200 := by
    rw [hjournal, Journal.capacity_appendAll, h.capacity]
  rw [← hjournal] at hholds
  refine ⟨hholds, hcapacity, ?_, ?_⟩
  · simp only [Host.relay]
    split
    · next entry hnewest => exact hholds.seq_newest hnewest
    · next hnone =>
        have hempty := hholds.eq_nil_of_newest? (by rw [hcapacity]; decide) hnone
        rw [hempty, h.relayed, (List.append_eq_nil_iff.mp hempty).1]
  · have hroom : (host.shell.notes action).length ≤
        (host.shell.step action).1.journal.capacity := by
      rw [hcapacity]
      exact Nat.le_trans (Shell.length_notes_le host.shell action) (by decide)
    have hnews := hholds.since_append hroom
    rw [mirrored_relay, Journal.numberFrom_append, Nat.add_comm 1]
    exact congrArg₂ (· ++ ·) h.mirrored (h.relayed ▸ hnews)

/-- An effect that does not end the session reports nothing of the journal. -/
theorem Mirrors.perform (h : host.Mirrors history) (resync : Step) {effect : Effect}
    (heffect : effect ≠ .signOut) : (perform resync effect host).1.Mirrors history := by
  cases effect with
  | requestFrame | preventDefault => exact h
  | fetchProfile ticket => exact h.same rfl rfl rfl
  | dispatch command =>
      have hreported := h.backstage (backstage_note host (.reported (.dispatching command)) rfl)
      exact hreported.same rfl rfl rfl
  | navigate path =>
      have hgoing := h.backstage (backstage_note host (.reported (.navigating path)) rfl)
      simp only [Host.perform, navigate]
      split
      · exact (hgoing.backstage (backstage_note _ _ rfl)).backstage (backstage_note _ _ rfl)
      · exact hgoing.backstage (backstage_note _ _ rfl)
  | signOut => exact absurd rfl heffect

/-- Carrying out effects writes nothing by itself. -/
theorem Mirrors.performAll (h : host.Mirrors history) (resync : Step) {effects : List Effect}
    (heffects : Effect.signOut ∉ effects) :
    (performAll resync effects host).1.Mirrors history :=
  performAll_induction (motive := fun after => after.Mirrors history) resync heffects
    (fun _ _ heffect hafter => hafter.perform resync heffect) h

/-- **An action that is passed on writes its notes, and all of them are reported.** -/
theorem Mirrors.applyWith (h : host.Mirrors history) (resync : Step) {action : Action}
    (heffects : Effect.signOut ∉ (host.shell.step action).2) :
    (applyWith resync action host).1.Mirrors (history ++ host.shell.notes action) :=
  (h.relay action).performAll resync heffects

/-- What the provider says is noted and reported in the same way. -/
theorem Mirrors.syncSignedIn (h : host.Mirrors history) :
    host.syncSignedIn.1.Mirrors (history ++
      host.shell.noted [.runtime (.setSignedIn host.provider.signedIn)]) := by
  rw [Shell.noted_singleton]
  exact h.applyWith _ (Shell.signOut_not_mem_stepRuntime host.shell _)

/-- Ending the session reports nothing of the journal by itself. -/
theorem Mirrors.asked (h : host.Mirrors history) (resync : Step) :
    ∃ asked : Host, asked.Mirrors history ∧ asked.shell = host.shell ∧
      asked.provider = host.provider.signOut ∧
      (Host.perform resync .signOut host).1 = (resync asked).1 := by
  have hsigning : (host.report .signingOut).Mirrors history :=
    h.backstage (backstage_note host _ rfl)
  have hprovider : ({ host.report .signingOut with
      provider := host.provider.signOut } : Host).Mirrors history := hsigning.same rfl rfl rfl
  simp only [Host.perform]
  split
  · exact ⟨_, (hprovider.backstage (backstage_note _ _ rfl)).backstage
      (backstage_note _ _ rfl), rfl, rfl, rfl⟩
  · exact ⟨_, hprovider.backstage (backstage_note _ _ rfl), rfl, rfl, rfl⟩

/-- **Passing an action on reports what the shell writes when it hears of it.** -/
theorem Mirrors.apply (h : host.Mirrors history) (action : Action) :
    (apply action host).1.Mirrors (history ++ host.shell.noted (host.hears action)) := by
  by_cases hsignOut : Effect.signOut ∈ (host.shell.step action).2
  · have heffects := Shell.effects_of_signOut hsignOut
    obtain ⟨asked, hasked, hshell, hprovider, hperform⟩ := (h.relay action).asked Host.syncSignedIn
    have happly : (Host.apply action host).1 = asked.syncSignedIn.1 := by
      show (Host.performAll Host.syncSignedIn (host.shell.step action).2 _).1 = _
      rw [heffects, performAll_cons, ← hperform]
      rfl
    have hsynced := hasked.syncSignedIn
    rw [hshell, hprovider, List.append_assoc] at hsynced
    rw [happly, hears, if_pos hsignOut]
    exact hsynced
  · rw [hears, if_neg hsignOut, Shell.noted_singleton]
    exact h.applyWith _ hsignOut

/-- What is noted of an answer is reported. -/
theorem Mirrors.receive (h : host.Mirrors history) (completion : Completion) :
    (host.receive completion).Mirrors (history ++ host.shell.noted
      [.runtime (.fetched completion.ticket completion.result)]) := by
  rw [Shell.noted_singleton]
  exact h.applyWith _ (Shell.signOut_not_mem_stepRuntime host.shell _)

/-- What is noted of a call at once is reported. -/
theorem Mirrors.enter (h : host.Mirrors history) (operation : Operation) :
    (host.enter operation).host.Mirrors
      (history ++ host.shell.noted (host.hearsAtOnce operation)) := by
  cases operation with
  | mount => exact h.apply (.runtime .mount)
  | unmount => exact h.apply (.runtime .unmount)
  | syncSignedIn => exact h.syncSignedIn
  | handle action => exact h.apply (.user action)
  | pump =>
      rw [hearsAtOnce, Shell.noted_nil, List.append_nil]
      exact h.backstage (regrips_letGo host).backstage
  | settle =>
      rw [hearsAtOnce, Shell.noted_nil, List.append_nil]
      exact h

/-- A new host has nothing to report. -/
theorem Starts.mirrors {start : Host} (h : start.Starts) : start.Mirrors [] := by
  cases h with
  | fresh config provider isTerminal permits =>
      exact ⟨Journal.holds_empty 200, rfl, rfl, rfl⟩

end Host

namespace Scene

open Host

/-- A step of the thread reports what is noted of the answer that it takes in. -/
theorem Work.mirrors {scene next : Scene} {history : List Journal.Entry}
    (hwork : Work scene next) (h : scene.host.Mirrors history) :
    next.host.Mirrors (history ++ scene.host.shell.noted scene.hearsWork) := by
  rcases hwork.backstage with ⟨hbackstage, hhears⟩ | ⟨_, completion, rest, _, _, hnext, hhears⟩
  · rw [hhears, Shell.noted_nil, List.append_nil]
    exact h.backstage hbackstage
  · have hemptied : ({ scene.host with inbox := rest } : Host).Mirrors history :=
      h.same rfl rfl rfl
    rw [hhears, hnext]
    exact hemptied.receive completion

/-- **All along a story the host has reported the whole history of the journal.** -/
theorem Story.mirrors {start : Host} {heard : List Action} {scene : Scene}
    (h : Story start heard scene) (hstarts : start.Starts) :
    scene.host.Mirrors (start.shell.noted heard) := by
  induction h with
  | opening => exact hstarts.mirrors
  | call hstory operation ih =>
      rw [Shell.noted_append, ← hstory.shell]
      exact ih.enter operation
  | work hstory hwork ih =>
      rw [Shell.noted_append, ← hstory.shell]
      exact hwork.mirrors ih
  | progress _ hprogress ih => exact ih.backstage hprogress.backstage

/-- **Every entry is reported exactly once.**  Whatever a host is called for and whatever goes
on around it, in whatever order and for however long: its shell has heard a story, and with
each action of it the shell has written some entries, at most two.  The journal was made by
appending all of these, one after another, and it still holds the last two hundred of them.
The host has reported all of them: each one once, in their order, under the numbers 1, 2, 3, …,
and each with its own level and message and with its topic as the only field. -/
theorem mirrored_exactly_once {start : Host} {heard : List Action} {scene : Scene}
    (hstarts : start.Starts) (h : Story start heard scene) :
    let written := start.shell.noted heard
    scene.host.shell = start.shell.run heard ∧
    scene.host.shell.journal = written.foldl Journal.append {} ∧
    scene.host.shell.journal.entries =
      (Journal.numberFrom 1 written).drop (written.length - 200) ∧
    scene.host.mirrored = Journal.numberFrom 1 written ∧
    scene.host.mirrored.map Journal.Entry.seq = List.range' 1 written.length ∧
    ∀ entry ∈ scene.host.mirrored, (Event.relayed entry).level = entry.level ∧
      (Event.relayed entry).message = entry.message ∧
      (Event.relayed entry).fields = [("source", entry.topic.label)] := by
  intro written
  have hmirrors : scene.host.Mirrors written := h.mirrors hstarts
  have hempty : start.shell.journal = {} := by
    cases hstarts with
    | fresh => rfl
  refine ⟨h.shell, ?_, ?_, hmirrors.mirrored, ?_, fun entry _ => Event.relayed_fields entry⟩
  · rw [h.shell, Shell.run_journal, hempty]
    rfl
  · rw [hmirrors.journal.entries, hmirrors.capacity]
  · rw [hmirrors.mirrored, Journal.map_seq_numberFrom]

/-- The user signs out while a request is under way and signs in again, and then it is answered:
taking in the answer writes two entries, and the host reports both. -/
theorem mirrored_exactly_once_relogin :
    let backend : Http.Backend := ⟨fun _ _ => .failed "timeout", fun _ _ _ => .died⟩
    let cues : List Cue :=
      [.mount, .background, .handle .signOut, .decide true, .syncSignedIn, .release 1,
        .background, .pump, .work]
    let opening := fresh {} { signedIn := true } false (some 0)
    let heard := opening.heard backend cues
    let scene := opening.play backend cues
    let written := opening.host.shell.noted heard
    opening.host.Starts ∧ Story opening.host heard scene ∧
    Journal.numberFrom 1 written =
      [⟨1, .debug, .session, "fetching profile (ticket 1)"⟩,
        ⟨2, .debug, .session, "discarded profile response 1 from a signed-out session"⟩,
        ⟨3, .debug, .session, "fetching profile (ticket 2)"⟩] ∧
    scene.host.shell = opening.host.shell.run heard ∧
    scene.host.shell.journal = written.foldl Journal.append {} ∧
    scene.host.shell.journal.entries =
      (Journal.numberFrom 1 written).drop (written.length - 200) ∧
    scene.host.mirrored = Journal.numberFrom 1 written ∧
    scene.host.mirrored.map Journal.Entry.seq = List.range' 1 written.length ∧
    ∀ entry ∈ scene.host.mirrored, (Event.relayed entry).level = entry.level ∧
      (Event.relayed entry).message = entry.message ∧
      (Event.relayed entry).fields = [("source", entry.topic.label)] := by
  intro backend cues opening heard scene written
  have hstarts : opening.host.Starts := .fresh {} { signedIn := true } false (some 0)
  have hstory : Story opening.host heard scene :=
    story_play {} { signedIn := true } false (some 0) backend cues
  exact ⟨hstarts, hstory, by decide +kernel, mirrored_exactly_once hstarts hstory⟩

end Scene

end WorksheetBar
