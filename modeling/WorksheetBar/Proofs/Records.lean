import WorksheetBar.Proofs.HostEffects

/-!
# Who records what

A host only ever adds to what can be seen of it, and from what is added one can tell who was at
work: the tasks in the background, the effects of an action, the end of a session, or the host
as it waits for a task.  So to see that some part of a host never records a certain happening it
is enough to know that the happening comes from elsewhere.

* `Progress.records`, `perform_records`, `leave_records` — each part records what is its own;
* `apply_records` — what passing an action on records;
* `Records.countP_eq` — what comes from elsewhere is counted as before.
-/

namespace WorksheetBar.Host

/-- Who brings something about that can be seen. -/
inductive Happening.Origin where
  | background
  | effects
  | leaving
  | waiting
  | keys
  deriving DecidableEq, Repr

/-- Who has brought a happening about. -/
def Happening.origin : Happening → Origin
  | requested _ => .background
  | navigated _ => .effects
  | signedOut => .leaving
  | reported event =>
    match event with
    | .fetching _ | .accepted _ | .refused _ _ | .answerUnwanted _ => .background
    | .relayed _ | .navigating _ | .dispatching _ | .navigationRequested _ => .effects
    | .signingOut | .tokenDropped => .leaving
    | .taskFailed => .waiting
    | .enterConsumed => .keys

open Happening (Origin)

/-- Nothing was recorded but happenings of some origins, and nothing was taken back. -/
def Records (origins : List Origin) (before after : Host) : Prop :=
  ∃ news, after.record = before.record ++ news ∧ ∀ happening ∈ news, happening.origin ∈ origins

variable {before after : Host} {origins : List Origin}

/-- A record that is the same holds nothing new. -/
theorem records_of_eq (h : after.record = before.record) : Records origins before after :=
  ⟨[], h.trans (List.append_nil _).symm, fun _ hmem => absurd hmem List.not_mem_nil⟩

theorem records_refl (host : Host) : Records origins host host := records_of_eq rfl

/-- One more happening of the origin. -/
theorem Records.note {host : Host} {origin : Origin} (h : Records [origin] before host)
    (happening : Happening) (horigin : happening.origin = origin) :
    Records [origin] before (host.note happening) := by
  obtain ⟨news, heq, hnews⟩ := h
  refine ⟨news ++ [happening], ?_, ?_⟩
  · rw [← List.append_assoc, ← heq]
    rfl
  · intro other hmem
    rcases List.mem_append.mp hmem with hfirst | hlast
    · exact hnews other hfirst
    · rw [List.mem_singleton.mp hlast, horigin]
      exact List.mem_singleton_self _

theorem Records.trans {middle : Host} (h : Records origins before middle)
    (h' : Records origins middle after) : Records origins before after := by
  obtain ⟨news, heq, hnews⟩ := h
  obtain ⟨more, heq', hmore⟩ := h'
  refine ⟨news ++ more, by rw [heq', heq, List.append_assoc], ?_⟩
  intro happening hmem
  rcases List.mem_append.mp hmem with hfirst | hlater
  · exact hnews happening hfirst
  · exact hmore happening hlater

theorem Records.mono {more : List Origin} (h : Records origins before after)
    (hsub : origins ⊆ more) : Records more before after := by
  obtain ⟨news, heq, hnews⟩ := h
  exact ⟨news, heq, fun happening hmem => hsub (hnews happening hmem)⟩

/-- **What comes from elsewhere is counted as before.** -/
theorem Records.countP_eq (h : Records origins before after) {kind : Happening → Bool}
    (hkind : ∀ happening, kind happening = true → happening.origin ∉ origins) :
    after.record.countP kind = before.record.countP kind := by
  obtain ⟨news, heq, hnews⟩ := h
  have hnone : news.countP kind = 0 := by
    rw [List.countP_eq_zero]
    exact fun happening hmem hcounted => hkind happening hcounted (hnews happening hmem)
  rw [heq, List.countP_append, hnone, Nat.add_zero]

/-! ## The background -/

theorem setStage_records (host : Host) (index : Nat) (stage : Stage) :
    Records origins host (host.setStage index stage) :=
  records_of_eq rfl

theorem complete_records (host : Host) (completion : Completion) :
    Records [.background] host (host.complete completion) := by
  unfold complete
  split
  · exact records_of_eq rfl
  · exact (records_refl host).note _ rfl

theorem answerFetch_records (backend : Http.Backend) (host : Host) (index : Nat)
    (ticket : Ticket) (path : String) :
    Records [.background] host (answerFetch backend host index ticket path) := by
  have hcounted : Records [.background] host { host with gets := host.gets + 1 } :=
    records_of_eq rfl
  unfold answerFetch
  dsimp only
  split
  · exact hcounted.trans (setStage_records _ index .died)
  · exact (hcounted.trans (complete_records _ _)).trans (setStage_records _ index .ended)

theorem beginFetch_records (backend : Http.Backend) (host : Host) (index : Nat)
    (ticket : Ticket) (path : String) :
    Records [.background] host (beginFetch backend host index ticket path) := by
  let asked := (host.report (.fetching path)).note (.requested (.get path))
  have hasked : Records [.background] host asked :=
    .note (.note (records_refl host) _ rfl) _ rfl
  have hcounted : ∀ most permits, Records [.background] host
      { asked with mostGets := most, permits } :=
    fun _ _ => hasked.trans (records_of_eq rfl)
  unfold beginFetch
  dsimp only
  split
  · exact (hcounted _ _).trans (answerFetch_records backend _ index ticket path)
  · exact (hcounted _ _).trans (setStage_records _ index .waiting)
  · exact (hcounted _ _).trans (answerFetch_records backend _ index ticket path)

theorem sendCommand_records (backend : Http.Backend) (host : Host) (index : Nat)
    (command path : String) :
    Records [.background] host (sendCommand backend host index command path) := by
  let sent := host.note (.requested (.post path (Dispatch.body command)))
  have hcounted : Records [.background] host { sent with posts := sent.posts + 1 } :=
    .trans (.note (records_refl host) _ rfl) (records_of_eq rfl)
  unfold sendCommand
  dsimp only
  split
  · exact hcounted.trans (setStage_records _ index .died)
  · exact (Records.note hcounted _ rfl).trans (setStage_records _ index .ended)
  · exact (Records.note hcounted _ rfl).trans (setStage_records _ index .ended)

theorem advance_records (backend : Http.Backend) (host : Host) (index : Nat) :
    Records [.background] host (advance backend host index) := by
  unfold advance
  split
  · exact records_of_eq rfl
  · split
    · exact beginFetch_records backend host index _ _
    · exact answerFetch_records backend host index _ _
    · exact sendCommand_records backend host index _ _
    · exact records_of_eq rfl

theorem foldl_advance_records (backend : Http.Backend) (line : List Nat) (host : Host) :
    Records [.background] host (line.foldl (advance backend) host) := by
  induction line generalizing host with
  | nil => exact records_of_eq rfl
  | cons index rest ih => exact (advance_records backend host index).trans (ih _)

/-- Letting tasks through the gate records nothing. -/
theorem admitFrom_record (index more : Nat) (host : Host) :
    (admitFrom index more host).record = host.record := by
  induction more generalizing index host with
  | zero => rfl
  | succ more ih =>
      unfold admitFrom
      split
      · rw [ih]
        split <;> rfl
      · rfl

/-- **What happens around a host records what comes from the background.** -/
theorem Progress.records (h : Progress before after) : Records [.background] before after := by
  cases h with
  | advance backend index => exact advance_records backend before index
  | runBackground backend =>
      have hempty : Records [.background] before { before with line := [] } := records_of_eq rfl
      exact hempty.trans (foldl_advance_records backend before.line _)
  | release count => exact records_of_eq (admitFrom_record _ _ _)
  | decide value => exact records_of_eq rfl

/-! ## Passing an action on -/

theorem relay_records (host : Host) : Records [.effects] host host.relay := by
  refine ⟨_, rfl, ?_⟩
  intro happening hmem
  obtain ⟨entry, _, rfl⟩ := List.mem_map.mp hmem
  exact List.mem_singleton.mpr rfl

/-- An effect that does not end the session records what comes from effects. -/
theorem perform_records (resync : Step) {effect : Effect} (heffect : effect ≠ .signOut)
    (host : Host) : Records [.effects] host (perform resync effect host).1 := by
  cases effect with
  | signOut => exact absurd rfl heffect
  | requestFrame | preventDefault | fetchProfile _ => exact records_of_eq rfl
  | dispatch command =>
      have hreported : Records [.effects] host (host.report (.dispatching command)) :=
        (records_refl host).note _ rfl
      exact hreported.trans (records_of_eq rfl)
  | navigate path =>
      have hreported : Records [.effects] host (host.report (.navigating path)) :=
        (records_refl host).note _ rfl
      simp only [perform, navigate]
      split
      · exact .note (.note hreported _ rfl) _ rfl
      · exact .note hreported _ rfl

theorem applyWith_records (resync : Step) {action : Action} {host : Host}
    (heffects : Effect.signOut ∉ (host.shell.step action).2) :
    Records [.effects] host (applyWith resync action host).1 := by
  have hrelay : Records [.effects] host { host with shell := (host.shell.step action).1 }.relay :=
    relay_records { host with shell := (host.shell.step action).1 }
  exact performAll_induction (motive := fun after => Records [.effects] host after) resync
    heffects (fun _ _ heffect h => h.trans (perform_records resync heffect _)) hrelay

theorem syncSignedIn_records (host : Host) : Records [.effects] host host.syncSignedIn.1 :=
  applyWith_records _ (Shell.signOut_not_mem_stepRuntime host.shell _)

/-- Ending a session records what comes from leaving. -/
theorem leave_records (host : Host) : Records [.leaving] host host.leave := by
  have hasked : Records [.leaving] host
      { host.report .signingOut with provider := host.provider.signOut } :=
    .trans (.note (records_refl host) _ rfl) (records_of_eq rfl)
  unfold leave
  dsimp only
  split
  · exact .note (.note hasked _ rfl) _ rfl
  · exact .note hasked _ rfl

/-- **What passing an action on records** comes from effects, or from leaving. -/
theorem apply_records (action : Action) (host : Host) :
    Records [.effects, .leaving] host (apply action host).1 := by
  by_cases hsignOut : Effect.signOut ∈ (host.shell.step action).2
  · rw [apply_leave hsignOut]
    have hrelay : Records [.effects] host
        { host with shell := (host.shell.step action).1 }.relay :=
      relay_records { host with shell := (host.shell.step action).1 }
    exact ((hrelay.mono (by decide)).trans ((leave_records _).mono (by decide))).trans
      ((syncSignedIn_records _).mono (by decide))
  · exact (applyWith_records syncSignedIn hsignOut).mono (by decide)

end WorksheetBar.Host
