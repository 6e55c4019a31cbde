import WorksheetBar.Proofs.Pictures
import WorksheetBar.Proofs.Stories

/-!
# No repaint is missed

A host says of every event whether a new frame is due and whether the event is to go no
further.  It puts this together from what the effects say that it carries out: those of the
action it passes on, those of a second step in their middle if the session ends, those of the
answers it takes in, one after another and round after round.

So what it says is the same as if all that the shell hears had been one run: a frame is due
exactly if a step of the run called for one.

* `apply_tells`, `carryOut_tells` — what the host says is what the effects say;
* `Course.tells` — also while the background goes on in the middle of an operation;
* `no_missed_repaint` — so whenever the picture has changed, a frame is due.
-/

namespace WorksheetBar

namespace Host

/-- What some effects say of the event that they come from. -/
def Outcome.ofEffects (effects : List Effect) : Outcome where
  preventDefault := decide (.preventDefault ∈ effects)
  redraw := decide (.requestFrame ∈ effects)

theorem Outcome.ofEffects_append (first second : List Effect) :
    ofEffects (first ++ second) = (ofEffects first).merge (ofEffects second) := by
  simp [ofEffects, merge, Bool.decide_or]

/-- It makes no difference in which order outcomes are put together. -/
theorem Outcome.merge_assoc (first second third : Outcome) :
    (first.merge second).merge third = first.merge (second.merge third) := by
  simp [merge, Bool.or_assoc]

/-- What is said of some effects is put together from what is said of each of them. -/
theorem performAll_outcome_cons (resync : Step) (effect : Effect) (effects : List Effect)
    (host : Host) :
    (performAll resync (effect :: effects) host).2 =
      (perform resync effect host).2.merge
        (performAll resync effects (perform resync effect host).1).2 := by
  -- what was said of the effects before is put in front
  have hfront : ∀ (effects : List Effect) (said : Host × Outcome),
      (effects.foldl (fun said effect => ((perform resync effect said.1).1,
        said.2.merge (perform resync effect said.1).2)) said).2 =
      said.2.merge (performAll resync effects said.1).2 := by
    intro effects
    induction effects with
    | nil => exact fun said => (merge_empty said.2).symm
    | cons effect rest ih =>
        intro said
        have hrest : (performAll resync (effect :: rest) said.1).2 = _ :=
          ih ((perform resync effect said.1).1, .merge {} (perform resync effect said.1).2)
        rw [List.foldl_cons, ih, hrest, empty_merge, Outcome.merge_assoc]
  have hfirst : (performAll resync (effect :: effects) host).2 = _ :=
    hfront effects ((perform resync effect host).1, .merge {} (perform resync effect host).2)
  rw [hfirst, empty_merge]

/-- An effect says for itself what it says, unless it ends the session. -/
theorem perform_outcome (resync : Step) {effect : Effect} (heffect : effect ≠ .signOut)
    (host : Host) : (perform resync effect host).2 = .ofEffects [effect] := by
  cases effect with
  | signOut => exact absurd rfl heffect
  | requestFrame | preventDefault | fetchProfile _ | dispatch _ | navigate _ => rfl

/-- Effects that do not end the session come to the outcome that they call for. -/
theorem performAll_outcome (resync : Step) {effects : List Effect}
    (heffects : Effect.signOut ∉ effects) (host : Host) :
    (performAll resync effects host).2 = .ofEffects effects := by
  induction effects generalizing host with
  | nil => rfl
  | cons effect rest ih =>
      have heffect : effect ≠ .signOut := by
        rintro rfl
        exact heffects List.mem_cons_self
      have hrest : Effect.signOut ∉ rest := fun hmem => heffects (List.mem_cons_of_mem _ hmem)
      rw [performAll_outcome_cons, perform_outcome resync heffect, ih hrest,
        ← Outcome.ofEffects_append, List.singleton_append]

/-! ## One run -/

/-- What the host has come to is what becomes of its shell when that hears some actions, and
what the host says is what the effects on the way say. -/
structure Tells (host : Host) (heard : List Action) (after : Host) (outcome : Outcome) :
    Prop where
  shell : after.shell = host.shell.run heard
  outcome : outcome = .ofEffects (host.shell.effects heard)

/-- Where the shell hears nothing, there is nothing to say. -/
theorem tells_nothing {host after : Host} (hshell : after.shell = host.shell) :
    host.Tells [] after {} :=
  ⟨hshell, rfl⟩

theorem Tells.trans {first second third : Host} {heard more : List Action}
    {outcome outcome' : Outcome} (h : first.Tells heard second outcome)
    (h' : second.Tells more third outcome') :
    first.Tells (heard ++ more) third (outcome.merge outcome') := by
  constructor
  · rw [h'.shell, h.shell, Shell.run_append]
  · rw [h'.outcome, h.outcome, h.shell, Shell.effects_append, Outcome.ofEffects_append]

/-- What goes on behind the scenes adds nothing. -/
theorem Tells.backstage {host after later : Host} {heard : List Action} {outcome : Outcome}
    (h : host.Tells heard after outcome) (hlater : Backstage after later) :
    host.Tells heard later outcome :=
  ⟨hlater.shell.trans h.shell, h.outcome⟩

/-- Passing on an action that does not end the session. -/
theorem applyWith_tells (resync : Step) {action : Action} {host : Host}
    (heffects : Effect.signOut ∉ (host.shell.step action).2) :
    host.Tells [action] (applyWith resync action host).1 (applyWith resync action host).2 := by
  obtain ⟨_, hshell⟩ := applyWith_eq resync heffects
  refine ⟨hshell, ?_⟩
  rw [Shell.effects_singleton]
  exact performAll_outcome resync heffects _

/-- The shell hears what the provider says, and the host what comes of that. -/
theorem syncSignedIn_tells (host : Host) :
    host.Tells [.runtime (.setSignedIn host.provider.signedIn)] host.syncSignedIn.1
      host.syncSignedIn.2 :=
  applyWith_tells _ (Shell.signOut_not_mem_stepRuntime host.shell _)

/-- **Passing on any action**: what follows the end of a session is said, too. -/
theorem apply_tells (action : Action) (host : Host) :
    host.Tells (host.hears action) (apply action host).1 (apply action host).2 := by
  refine ⟨(apply_eq action host).2, ?_⟩
  by_cases hsignOut : Effect.signOut ∈ (host.shell.step action).2
  · obtain ⟨asked, _, hstepped, hprovider, happly⟩ := apply_of_signOut hsignOut
    have hsynced := (syncSignedIn_tells asked).outcome
    have heffects := Shell.effects_of_signOut hsignOut
    rw [hstepped, hprovider] at hsynced
    rw [hears, if_pos hsignOut, happly, hsynced]
    -- the host says last what the shell has called for first
    show _ = Outcome.ofEffects ((host.shell.step action).2 ++ _)
    rw [heffects]
    simp [Outcome.ofEffects, Outcome.merge]
  · rw [hears, if_neg hsignOut]
    exact (applyWith_tells syncSignedIn hsignOut).outcome

/-! ## Taking in answers -/

/-- Nothing but answers. -/
def Answers (heard : List Action) : Prop :=
  ∀ action ∈ heard, ∃ ticket result, action = .runtime (.fetched ticket result)

theorem answers_nil : Answers [] := fun _ h => absurd h List.not_mem_nil

/-- Answers after answers are answers. -/
theorem Answers.append {heard more : List Action} (h : Answers heard) (h' : Answers more) :
    Answers (heard ++ more) := by
  intro action hmem
  rcases List.mem_append.mp hmem with hfirst | hsecond
  · exact h action hfirst
  · exact h' action hsecond

/-- The host only takes in answers, whatever goes on behind the scenes. -/
def TakesIn (step : Step) : Prop :=
  ∀ host : Host, ∃ heard, Answers heard ∧ host.Tells heard (step host).1 (step host).2

/-- Two steps that only take in answers are one that does. -/
theorem TakesIn.then {first second : Step} (h : TakesIn first) (h' : TakesIn second) :
    TakesIn (first.then second) := by
  intro host
  obtain ⟨heard, hanswers, htells⟩ := h host
  obtain ⟨more, hmore, htells'⟩ := h' (first host).1
  exact ⟨heard ++ more, hanswers.append hmore, htells.trans htells'⟩

/-- What goes on behind the scenes before a step does not matter. -/
theorem TakesIn.behind {step : Step} (h : TakesIn step) {host other : Host}
    (hshell : other.shell = host.shell) :
    ∃ heard, Answers heard ∧ host.Tells heard (step other).1 (step other).2 := by
  obtain ⟨heard, hanswers, htells⟩ := h other
  refine ⟨heard, hanswers, ?_, ?_⟩
  · rw [← hshell]
    exact htells.shell
  · rw [← hshell]
    exact htells.outcome

/-- Emptying the inbox takes in the answers that were in it. -/
theorem drain_takesIn (inbox : List Completion) : TakesIn (drain inbox) := by
  induction inbox with
  | nil => exact fun host => ⟨[], answers_nil, tells_nothing rfl⟩
  | cons completion rest ih =>
      refine TakesIn.then (fun host => ⟨_, ?_, apply_tells _ host⟩) ih
      rw [hears_runtime]
      intro action hmem
      exact ⟨completion.ticket, completion.result, List.mem_singleton.mp hmem⟩

/-- A pump takes in answers, and tells what they come to. -/
theorem pump_takesIn : TakesIn pump := fun host =>
  (drain_takesIn host.letGo.inbox).behind (regrips_letGo host).backstage.shell

theorem notice_backstage (host : Host) (index : Nat) : Backstage host (host.notice index) := by
  unfold notice
  split
  · split
    · exact backstage_note host _ rfl
    · exact backstage_refl host
  · exact backstage_refl host

theorem await_backstage (backend : Http.Backend) (host : Host) (index : Nat) :
    Backstage host (await backend host index) := by
  rcases await_cases backend host index with ⟨_, hawait⟩ | hawait
  · rw [hawait]
    exact notice_backstage host index
  · rw [hawait]
    have hbackground : Progress host (host.runBackground backend) := .runBackground host backend
    exact hbackground.backstage.trans (notice_backstage _ index)

theorem foldl_await_backstage (backend : Http.Backend) (left : List Nat) (host : Host) :
    Backstage host (left.foldl (await backend) host) := by
  induction left generalizing host with
  | nil => exact backstage_refl host
  | cons index rest ih => exact (await_backstage backend host index).trans (ih _)

/-- Settling waits and takes in answers, round after round. -/
theorem settleRounds_takesIn (backend : Http.Backend) (rounds : Nat) :
    TakesIn (settleRounds backend rounds) := by
  induction rounds with
  | zero => exact fun host => ⟨[], answers_nil, tells_nothing rfl⟩
  | succ rounds ih =>
      intro host
      rw [settleRounds]
      dsimp only
      split
      · exact ⟨[], answers_nil, tells_nothing rfl⟩
      · have hawaited := (regrips_takeTasks host).backstage.trans
          (foldl_await_backstage backend host.held host.takeTasks)
        exact (pump_takesIn.then ih).behind hawaited.shell

/-! ## Operations -/

/-- Carries an operation out to its end. -/
def carryOut (backend : Http.Backend) : Operation → Step
  | .mount => mount
  | .unmount => unmount
  | .syncSignedIn => syncSignedIn
  | .handle action => handle action
  | .pump => pump
  | .settle => settle backend

/-- What the shell hears in the end: what it hears at once, and then answers. -/
theorem carryOut_tells (backend : Http.Backend) (operation : Operation) (host : Host) :
    ∃ heard, Answers heard ∧ host.Tells (host.hearsAtOnce operation ++ heard)
      (carryOut backend operation host).1 (carryOut backend operation host).2 := by
  have hatOnce : ∀ {heard after outcome}, host.Tells heard after outcome →
      ∃ more, Answers more ∧ host.Tells (heard ++ more) after outcome :=
    fun htells => ⟨[], answers_nil, by rwa [List.append_nil]⟩
  cases operation with
  | mount => exact hatOnce (apply_tells (.runtime .mount) host)
  | unmount => exact hatOnce (apply_tells (.runtime .unmount) host)
  | syncSignedIn => exact hatOnce (syncSignedIn_tells host)
  | handle action => exact hatOnce (apply_tells (.user action) host)
  | pump => exact pump_takesIn host
  | settle => exact settleRounds_takesIn backend _ host

/-- What is said at once when the host is called. -/
def tellsAtOnce (host : Host) : Operation → Outcome
  | .mount => host.mount.2
  | .unmount => host.unmount.2
  | .syncSignedIn => host.syncSignedIn.2
  | .handle action => (handle action host).2
  | .pump | .settle => {}

/-- A call says at once what comes of the action that it passes on. -/
theorem enter_tells (host : Host) (operation : Operation) :
    host.Tells (host.hearsAtOnce operation) (host.enter operation).host
      (host.tellsAtOnce operation) := by
  cases operation with
  | mount => exact apply_tells (.runtime .mount) host
  | unmount => exact apply_tells (.runtime .unmount) host
  | syncSignedIn => exact syncSignedIn_tells host
  | handle action => exact apply_tells (.user action) host
  | pump | settle => exact tells_nothing rfl

end Host

namespace Scene

open Host

/-- What is said when the thread of the host goes on. -/
def tellsWork (scene : Scene) : Outcome :=
  match scene.activity, scene.host.inbox with
  | .pumping _, completion :: rest =>
    (apply (.runtime (.fetched completion.ticket completion.result))
      { scene.host with inbox := rest }).2
  | _, _ => {}

/-- An operation under way, with all that the shell has heard of it and all that the host has
to say about it so far.  The background goes on in the middle of it as it likes. -/
inductive Course (host : Host) (operation : Operation) : List Action → Scene → Outcome → Prop
  | begins :
      Course host operation (host.hearsAtOnce operation) (host.enter operation)
        (host.tellsAtOnce operation)
  | work {heard : List Action} {scene next : Scene} {outcome : Outcome}
      (h : Course host operation heard scene outcome) (hwork : Work scene next) :
      Course host operation (heard ++ scene.hearsWork) next (outcome.merge scene.tellsWork)
  | progress {heard : List Action} {before after : Host} {activity : Activity}
      {outcome : Outcome} (h : Course host operation heard ⟨before, activity⟩ outcome)
      (hprogress : Host.Progress before after) :
      Course host operation heard ⟨after, activity⟩ outcome

/-- All that the thread of the host hears by itself are answers. -/
theorem hearsWork_answers (scene : Scene) : Answers scene.hearsWork := by
  unfold hearsWork
  split
  · next completion _ _ _ =>
      intro action hmem
      exact ⟨completion.ticket, completion.result, List.mem_singleton.mp hmem⟩
  · exact answers_nil

/-- One step of the thread says what the effects of the answer say that it takes in, if any. -/
theorem Work.tells {scene next : Scene} (hwork : Work scene next) :
    scene.host.Tells scene.hearsWork next.host scene.tellsWork := by
  rcases hwork.backstage with ⟨hbackstage, hhears⟩ |
    ⟨round, completion, rest, hactivity, hinbox, hnext, hhears⟩
  · have htold : scene.tellsWork = {} := by
      cases hwork <;> simp_all [tellsWork, hearsWork]
    rw [hhears, htold]
    exact tells_nothing hbackstage.shell
  · have htold : scene.tellsWork = (apply (.runtime (.fetched completion.ticket completion.result))
        { scene.host with inbox := rest }).2 := by
      simp only [tellsWork, hactivity, hinbox]
    have htells := apply_tells (.runtime (.fetched completion.ticket completion.result))
      { scene.host with inbox := rest }
    rw [hears_runtime] at htells
    rw [hhears, htold, hnext]
    exact ⟨htells.shell, htells.outcome⟩

/-- **What is said of an operation under way is what the effects say** of all that the shell
has heard. -/
theorem Course.tells {host : Host} {operation : Operation} {heard : List Action} {scene : Scene}
    {outcome : Outcome} (h : Course host operation heard scene outcome) :
    host.Tells heard scene.host outcome := by
  induction h with
  | begins => exact enter_tells host operation
  | work _ hwork ih => exact ih.trans hwork.tells
  | progress _ hprogress ih => exact ih.backstage hprogress.backstage

/-- After the action of the call itself, the shell hears nothing but answers. -/
theorem Course.exists_answers {host : Host} {operation : Operation} {heard : List Action}
    {scene : Scene} {outcome : Outcome} (h : Course host operation heard scene outcome) :
    ∃ more, Answers more ∧ heard = host.hearsAtOnce operation ++ more := by
  induction h with
  | begins => exact ⟨[], answers_nil, (List.append_nil _).symm⟩
  | @work _ scene _ _ _ _ ih =>
      obtain ⟨more, hmore, rfl⟩ := ih
      exact ⟨more ++ scene.hearsWork, hmore.append scene.hearsWork_answers,
        List.append_assoc _ _ _⟩
  | progress _ _ ih => exact ih

end Scene

namespace Host

open Scene

/-! ## What has to be said -/

/-- The bar does not disappear in an operation that is not about that. -/
theorem unmount_not_mem {host : Host} {operation : Operation} {answers : List Action}
    (hoperation : operation ≠ .unmount) (hanswers : Answers answers) :
    .runtime .unmount ∉ host.hearsAtOnce operation ++ answers := by
  intro hmem
  rcases List.mem_append.mp hmem with hatOnce | hanswer
  · rcases mem_hearsAtOnce hatOnce with ⟨_, _, heq⟩ | ⟨hunmount, _⟩ | heq | ⟨_, heq⟩
    · cases heq
    · exact hoperation hunmount
    · cases heq
    · cases heq
  · obtain ⟨_, _, heq⟩ := hanswers _ hanswer
    cases heq

/-- An operation is about a key that is to go no further exactly if that is Enter in the field
of an open dialog. -/
theorem preventDefault_mem_effects {host : Host} {operation : Operation} {answers : List Action}
    (hanswers : Answers answers) :
    .preventDefault ∈ host.shell.effects (host.hearsAtOnce operation ++ answers) ↔
      operation = .handle (.pressInName .enter) ∧ host.shell.dialog.isShown = true := by
  have hunpressed : .user (.pressInName .enter) ∉ answers := by
    intro hmem
    obtain ⟨_, _, heq⟩ := hanswers _ hmem
    cases heq
  by_cases henter : operation = .handle (.pressInName .enter)
  · have hsignOut : Effect.signOut ∉ (host.shell.step (.user (.pressInName .enter))).2 :=
      fun hmem => nomatch Shell.step_asks hmem
    have hheard : host.hearsAtOnce operation = [.user (.pressInName .enter)] := by
      rw [henter]
      exact if_neg hsignOut
    have hlater := Shell.preventDefault_not_mem_effects
      (host.shell.run [.user (.pressInName .enter)]) hunpressed
    rw [hheard, Shell.effects_append, Shell.effects_singleton, List.mem_append,
      or_iff_left hlater, Shell.preventDefault_mem_step]
    exact and_congr_left' ⟨fun _ => henter, fun _ => rfl⟩
  · refine iff_of_false (Shell.preventDefault_not_mem_effects _ fun hmem => ?_)
      fun h => henter h.1
    rcases List.mem_append.mp hmem with hatOnce | hanswer
    · rcases mem_hearsAtOnce hatOnce with ⟨done, hdone, heq⟩ | ⟨_, heq⟩ | heq | ⟨_, heq⟩
      · cases heq
        exact henter hdone
      · cases heq
      · cases heq
      · cases heq
    · exact hunpressed hanswer

/-- What a host can come to in an operation, and what it says then: the operation is carried out
in one go, or it is under way and the background goes on in the middle of it. -/
inductive Yields (host : Host) (operation : Operation) : Host → Outcome → Prop
  | carriedOut (backend : Http.Backend) :
      Yields host operation (carryOut backend operation host).1
        (carryOut backend operation host).2
  | underWay {heard : List Action} {scene : Scene} {outcome : Outcome}
      (h : Course host operation heard scene outcome) : Yields host operation scene.host outcome

/-- A whole operation says what the effects of one run say. -/
theorem Yields.tells {host after : Host} {operation : Operation} {outcome : Outcome}
    (h : host.Yields operation after outcome) :
    ∃ answers, Answers answers ∧
      host.Tells (host.hearsAtOnce operation ++ answers) after outcome := by
  cases h with
  | carriedOut backend => exact carryOut_tells backend operation host
  | underWay hcourse =>
      obtain ⟨answers, hanswers, rfl⟩ := hcourse.exists_answers
      exact ⟨answers, hanswers, hcourse.tells⟩

/-- **No repaint is missed.**  Whatever state a host is in: it is called for anything but to
unmount the bar, the operation is carried out or has come so far, and the host says what is to
be done about it.  If the bar shows anything else than before, it says that a frame is due.  It
says so exactly if one of the steps of the shell called for a frame, and that the event is to go
no further exactly if the event was Enter in the name field and the dialog was open. -/
theorem no_missed_repaint {host after : Host} {operation : Operation} {outcome : Outcome}
    (hoperation : operation ≠ .unmount) (h : host.Yields operation after outcome) :
    (after.shell.view ≠ host.shell.view → outcome.redraw = true) ∧
    (outcome.preventDefault = true ↔
      operation = .handle (.pressInName .enter) ∧ host.shell.dialog.isShown = true) ∧
    ∃ heard, after.shell = host.shell.run heard ∧
      (outcome.redraw = true ↔ .requestFrame ∈ host.shell.effects heard) := by
  obtain ⟨answers, hanswers, hshell, houtcome⟩ := h.tells
  have hredraw : outcome.redraw = true ↔
      .requestFrame ∈ host.shell.effects (host.hearsAtOnce operation ++ answers) := by
    rw [houtcome]
    exact decide_eq_true_iff
  have hprevent : outcome.preventDefault = true ↔
      .preventDefault ∈ host.shell.effects (host.hearsAtOnce operation ++ answers) := by
    rw [houtcome]
    exact decide_eq_true_iff
  refine ⟨fun hview => ?_, hprevent.trans (preventDefault_mem_effects hanswers), _, hshell,
    hredraw⟩
  rcases Shell.run_paints host.shell (unmount_not_mem hoperation hanswers) with hframe | hsame
  · exact hredraw.mpr hframe
  · rw [hshell] at hview
    exact absurd hsame hview

/-- The user signs out while the dialog is open.  The shell closes it when it hears of that, in
the middle of the effects, and what comes of this is said, too. -/
theorem no_missed_repaint_signing_out :
    let host := (handle (.activate .newWorksheet)
      (Host.fresh {} { signedIn := true }).mount.1).1
    let after := (handle .signOut host).1
    let outcome := (handle .signOut host).2
    Operation.handle .signOut ≠ .unmount ∧ host.Yields (.handle .signOut) after outcome ∧
    host.shell.dialog.isShown = true ∧ after.shell.dialog.isShown = false ∧
    after.shell.view ≠ host.shell.view ∧
    outcome.redraw = true ∧
    (outcome.preventDefault = true ↔ Operation.handle .signOut = .handle (.pressInName .enter) ∧
      host.shell.dialog.isShown = true) ∧
    ∃ heard, after.shell = host.shell.run heard ∧
      (outcome.redraw = true ↔ .requestFrame ∈ host.shell.effects heard) := by
  intro host after outcome
  let backend : Http.Backend := ⟨fun _ _ => .died, fun _ _ _ => .died⟩
  have hoperation : Operation.handle .signOut ≠ .unmount := by decide
  have hyields : host.Yields (.handle .signOut) after outcome := .carriedOut backend
  have hview : after.shell.view ≠ host.shell.view := by decide +kernel
  obtain ⟨hredraw, hprevent, hheard⟩ := no_missed_repaint hoperation hyields
  exact ⟨hoperation, hyields, by decide +kernel, by decide +kernel, hview, hredraw hview,
    hprevent, hheard⟩

end Host

end WorksheetBar
