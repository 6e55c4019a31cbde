import Mathlib.Data.List.Basic
import WorksheetBar.Proofs.Records

/-!
# Signing out

A user who signs out asks the shell, the shell asks the host, the host asks the provider, and
then the host looks at the provider again and tells the shell what it finds, in the middle of
the effects it is carrying out.  What the provider makes of being asked is its own affair: it
may have dropped the session long ago, and it may keep it.

The host tells the shell by passing on another action, and that could in turn end a session.
It never does, so it does not matter what would follow from that.

* `applyWith_congr` — what would follow the end of a session does not matter to an action that
  ends none;
* `apply_signOuts` — the provider is asked exactly if the shell calls for it;
* `syncSignedIn_of_signedIn` — what looking at the provider comes to;
* `sign_out_once` — what becomes of a host whose user signs out.
-/

namespace WorksheetBar

namespace Shell

/-- A signed-in user who signs out loses the menu; the rest is up to the host. -/
theorem step_signOut (shell : Shell) :
    shell.step (.user .signOut) =
      if shell.signedIn then ({ shell with menu := .closed }, [.signOut, .requestFrame])
      else (shell, []) := by
  simp only [step, stepUser, requestSignOut]
  cases shell.signedIn <;> rfl

/-- What becomes of a shell whose session is over. -/
def signedOff (shell : Shell) : Shell := { shell with signedIn := false }.forget.closePopups

/-- A signed-in shell that is told what the provider says: nothing is new, or it is over. -/
theorem step_setSignedIn {shell : Shell} (hsigned : shell.signedIn = true) (value : Bool) :
    shell.step (.runtime (.setSignedIn value)) =
      if value then (shell, []) else (shell.signedOff, [.requestFrame]) := by
  simp only [step, stepRuntime, setSignedIn, hsigned]
  cases value <;> rfl

/-- When the session is over, the popups are closed, and nothing is known about the user, unless
a request is under way: that one is abandoned.  The shell stays mounted, if it was. -/
theorem signedOff_spec (shell : Shell) :
    shell.signedOff.signedIn = false ∧ shell.signedOff.menu = .closed ∧
      shell.signedOff.dialog = .closed ∧ shell.signedOff.mounted = shell.mounted ∧
      shell.signedOff.nextTicket = shell.nextTicket ∧
      ((shell.signedOff.session = .notLoaded ∧ shell.session.ticket? = none) ∨
        ∃ ticket, shell.session = .loading ticket ∧
          shell.signedOff.session = .loading ticket ∧
          shell.signedOff.abandoned = some ticket) := by
  unfold signedOff forget
  cases hsession : shell.session with
  | loading ticket => exact ⟨rfl, rfl, rfl, rfl, rfl, Or.inr ⟨ticket, rfl, rfl, rfl⟩⟩
  | notLoaded | loaded _ | failed => exact ⟨rfl, rfl, rfl, rfl, rfl, Or.inl ⟨rfl, rfl⟩⟩

end Shell

namespace Host

/-- How often the host has asked its provider to end the session. -/
def signOuts (host : Host) : Nat := host.record.countP Happening.isSignOut

/-- Nobody is asked but in leaving. -/
theorem Records.signOuts_eq {origins : List Happening.Origin} {before after : Host}
    (h : Records origins before after) (hnone : .leaving ∉ origins) :
    after.signOuts = before.signOuts := by
  apply h.countP_eq
  intro happening hsignOut
  cases happening with
  | signedOut => exact hnone
  | reported _ | requested _ | navigated _ => cases hsignOut

/-- Leaving is to ask once. -/
theorem leave_signOuts (host : Host) : host.leave.signOuts = host.signOuts + 1 := by
  unfold leave
  dsimp only
  split <;> simp [signOuts, report, note, Happening.isSignOut, List.countP_append,
    List.countP_cons]

/-- **What would follow the end of a session does not matter** to an action that ends none. -/
theorem applyWith_congr (resync resync' : Step) {action : Action} {host : Host}
    (heffects : Effect.signOut ∉ (host.shell.step action).2) :
    applyWith resync action host = applyWith resync' action host := by
  unfold applyWith performAll
  dsimp only
  apply List.foldl_ext
  intro before effect hmem
  cases effect with
  | signOut => exact absurd hmem heffects
  | requestFrame | preventDefault | fetchProfile _ | dispatch _ | navigate _ => rfl

/-- Looking at the provider is the same as passing on what it says, whatever would follow. -/
theorem syncSignedIn_eq_applyWith (resync : Step) (host : Host) :
    host.syncSignedIn = applyWith resync (.runtime (.setSignedIn host.provider.signedIn)) host :=
  applyWith_congr _ resync (Shell.signOut_not_mem_stepRuntime host.shell _)

/-- **The provider is asked exactly if the shell calls for it**, and then once. -/
theorem apply_signOuts (action : Action) (host : Host) :
    (apply action host).1.signOuts =
      host.signOuts + (if Effect.signOut ∈ (host.shell.step action).2 then 1 else 0) := by
  split
  · next hsignOut =>
      rw [apply_leave hsignOut]
      let stepped := { host with shell := (host.shell.step action).1 }
      calc stepped.relay.leave.syncSignedIn.1.signOuts
          = stepped.relay.leave.signOuts := (syncSignedIn_records _).signOuts_eq (by decide)
        _ = stepped.relay.signOuts + 1 := leave_signOuts _
        _ = stepped.signOuts + 1 := by rw [(relay_records stepped).signOuts_eq (by decide)]
  · next hsignOut => exact (applyWith_records syncSignedIn hsignOut).signOuts_eq (by decide)

/-- **A signed-in shell that hears from the provider** stays as it is, or its session is over.
Nothing is started either way. -/
theorem syncSignedIn_of_signedIn {host : Host} (hsigned : host.shell.signedIn = true) :
    (∀ effect ∈ (host.shell.step (.runtime (.setSignedIn host.provider.signedIn))).2,
      effect = .requestFrame) ∧
    host.syncSignedIn.1.tasks = host.tasks ∧
    host.syncSignedIn.1.shell =
      if host.provider.signedIn then host.shell else host.shell.signedOff := by
  obtain ⟨hspawns, hshell⟩ := syncSignedIn_eq host
  rw [Shell.effects_singleton] at hspawns
  have hstarted := hspawns.tasks
  have hrun : host.syncSignedIn.1.shell =
      (host.shell.step (.runtime (.setSignedIn host.provider.signedIn))).1 := hshell
  rw [hrun]
  rw [Shell.step_setSignedIn hsigned] at hstarted ⊢
  cases hprovider : host.provider.signedIn with
  | true =>
      rw [hprovider] at hstarted
      exact ⟨fun _ hmem => absurd hmem List.not_mem_nil, hstarted.trans (List.append_nil _), rfl⟩
  | false =>
      rw [hprovider] at hstarted
      exact ⟨fun _ hmem => List.mem_singleton.mp hmem, hstarted.trans (List.append_nil _), rfl⟩

/-- The host whose provider has just been asked to end the session, as the shell called for
it. -/
def asked (host : Host) : Host :=
  { host with shell := { host.shell with menu := .closed } }.relay.leave

theorem asked_shell (host : Host) : host.asked.shell = { host.shell with menu := .closed } :=
  leave_shell _

theorem asked_provider (host : Host) : host.asked.provider = host.provider.signOut :=
  leave_provider _

theorem asked_tasks (host : Host) : host.asked.tasks = host.tasks :=
  (leave_spawns _).tasks.trans (List.append_nil _)

theorem asked_signOuts (host : Host) : host.asked.signOuts = host.signOuts + 1 :=
  (leave_signOuts _).trans
    (congrArg (· + 1) ((relay_records _).signOuts_eq (by decide)))

/-- Nobody is asked anything for a user who is signed out. -/
theorem handle_signOut_of_signedOut {host : Host} (hsigned : host.shell.signedIn = false) :
    handle .signOut host = (host.relay, {}) := by
  have hstep := host.shell.step_signOut
  rw [hsigned] at hstep
  show applyWith syncSignedIn (.user .signOut) host = _
  unfold applyWith
  rw [hstep]
  rfl

/-- For a user who is signed in the provider is asked, and looked at again. -/
theorem handle_signOut_of_signedIn {host : Host} (hsigned : host.shell.signedIn = true) :
    handle .signOut host =
      (host.asked.syncSignedIn.1, host.asked.syncSignedIn.2.merge { redraw := true }) := by
  have hstep := host.shell.step_signOut
  rw [if_pos hsigned] at hstep
  have hsignOut : Effect.signOut ∈ (host.shell.step (.user .signOut)).2 := by
    rw [hstep]
    exact List.mem_cons_self
  have happly := apply_leave hsignOut
  rw [hstep] at happly
  exact happly

/-- **Signing out is handed to the provider once**, whatever state the host is in and whatever the
provider makes of it.  If the user is signed out as far as the shell knows, nothing happens.

Otherwise the provider is asked, exactly once, and then looked at again.  To look at it again is
to pass on an action that ends no session, whatever would follow from that; it calls for a frame
at most and starts nothing.  Afterwards the shell says what the provider says, the menu is closed
and a frame is due.  If the session is over, the dialog is closed as well, and nothing is known
about the user any more, unless a request is under way: that one is abandoned.  If the provider
keeps the session, the menu is all that changes. -/
theorem sign_out_once (host : Host) :
    let after := (handle .signOut host).1
    let outcome := (handle .signOut host).2
    let resynced := Action.runtime (.setSignedIn host.asked.provider.signedIn)
    after.signOuts = host.signOuts + (if host.shell.signedIn then 1 else 0) ∧
    (host.shell.signedIn = false →
      after.shell = host.shell ∧ after.provider = host.provider ∧ after.tasks = host.tasks ∧
        outcome = {}) ∧
    (host.shell.signedIn = true →
      host.asked.signOuts = host.signOuts + 1 ∧
      handle .signOut host =
        (host.asked.syncSignedIn.1, host.asked.syncSignedIn.2.merge { redraw := true }) ∧
      (∀ resync, host.asked.syncSignedIn = applyWith resync resynced host.asked) ∧
      (∀ effect ∈ (host.asked.shell.step resynced).2, effect = .requestFrame) ∧
      after.tasks = host.tasks ∧ after.provider = host.provider.signOut ∧
      after.shell.signedIn = after.provider.signedIn ∧ after.shell.menu = .closed ∧
      outcome.redraw = true ∧
      (after.provider.signedIn = false →
        after.shell.dialog = .closed ∧ after.shell.mounted = host.shell.mounted ∧
        after.shell.nextTicket = host.shell.nextTicket ∧
        ((after.shell.session = .notLoaded ∧ host.shell.session.ticket? = none) ∨
          ∃ ticket, host.shell.session = .loading ticket ∧
            after.shell.session = .loading ticket ∧ after.shell.abandoned = some ticket)) ∧
      (after.provider.signedIn = true → after.shell = { host.shell with menu := .closed })) := by
  intro after outcome resynced
  have hasks : Effect.signOut ∈ (host.shell.step (.user .signOut)).2 ↔
      host.shell.signedIn = true := by
    rw [host.shell.step_signOut]
    cases host.shell.signedIn <;> simp
  have hcount : after.signOuts = _ := apply_signOuts (.user .signOut) host
  simp only [hasks] at hcount
  refine ⟨hcount, ?_, ?_⟩
  · intro hsigned
    have hquiet := handle_signOut_of_signedOut hsigned
    have hafter : after = host.relay := by simp only [after, hquiet]
    have houtcome : outcome = {} := by simp only [outcome, hquiet]
    rw [hafter]
    exact ⟨rfl, rfl, rfl, houtcome⟩
  · intro hsigned
    have hhandle := handle_signOut_of_signedIn hsigned
    have hafter : after = host.asked.syncSignedIn.1 := by simp only [after, hhandle]
    have hredraw : outcome.redraw = true := by simp [outcome, hhandle, Outcome.merge]
    have hsignedIn : host.asked.shell.signedIn = true := by
      rw [asked_shell]
      exact hsigned
    obtain ⟨hframes, hstarted, hshell⟩ := syncSignedIn_of_signedIn hsignedIn
    have hprovider : after.provider = host.asked.provider := by
      rw [hafter, syncSignedIn_provider]
    rw [← hafter] at hstarted hshell
    rw [← hprovider, asked_shell] at hshell
    refine ⟨asked_signOuts host, hhandle, fun resync => syncSignedIn_eq_applyWith resync host.asked,
      hframes, hstarted.trans (asked_tasks host), hprovider.trans (asked_provider host), ?_⟩
    cases hkept : after.provider.signedIn with
    | true =>
        have hsame : after.shell = { host.shell with menu := .closed } := by
          rw [hshell, if_pos hkept]
        rw [hsame]
        exact ⟨hsigned, rfl, hredraw, fun hout => absurd hout (by decide), fun _ => rfl⟩
    | false =>
        obtain ⟨hout, hmenu, hdialog, hmounted, hnext, hsession⟩ :=
          Shell.signedOff_spec { host.shell with menu := .closed }
        rw [hkept, if_neg Bool.false_ne_true] at hshell
        rw [hshell]
        exact ⟨hout, hmenu, hredraw, fun _ => ⟨hdialog, hmounted, hnext, hsession⟩,
          fun hin => absurd hin (by decide)⟩

/-- The profile is on its way and the dialog is open when the user signs out, once of a provider
that ends the session and once of one that keeps it. -/
theorem sign_out_once_under_way :
    let opened := fun isSticky => (handle (.activate .newWorksheet)
      (Host.fresh {} { signedIn := true, isSticky }).mount.1).1
    let ended := (handle .signOut (opened false)).1
    let kept := (handle .signOut (opened true)).1
    (∀ isSticky, (opened isSticky).shell.signedIn = true ∧ (opened isSticky).signOuts = 0) ∧
    ended.provider.signedIn = false ∧ kept.provider.signedIn = true ∧
    ended.signOuts = 1 ∧ ended.shell.signedIn = false ∧ ended.shell.dialog = .closed ∧
    (∃ ticket, ended.shell.session = .loading ticket ∧ ended.shell.abandoned = some ticket) ∧
    kept.signOuts = 1 ∧ kept.shell.signedIn = true ∧
    kept.shell = { (opened true).shell with menu := .closed } := by
  intro opened ended kept
  have hopened : ∀ isSticky,
      (opened isSticky).shell.signedIn = true ∧ (opened isSticky).signOuts = 0 := by
    decide +kernel
  have hasked : (opened false).shell.session.ticket? = some ⟨1⟩ := by decide +kernel
  have hends : ended.provider.signedIn = false := by decide +kernel
  have hkeeps : kept.provider.signedIn = true := by decide +kernel
  obtain ⟨hcount, _, hended⟩ := sign_out_once (opened false)
  obtain ⟨hcount', _, hkept⟩ := sign_out_once (opened true)
  obtain ⟨_, _, _, _, _, _, hsays, _, _, hover, _⟩ := hended (hopened false).1
  obtain ⟨_, _, _, _, _, _, hsays', _, _, _, hsame⟩ := hkept (hopened true).1
  obtain ⟨hclosed, _, _, hsession⟩ := hover hends
  have habandoned : ∃ ticket,
      ended.shell.session = .loading ticket ∧ ended.shell.abandoned = some ticket := by
    rcases hsession with ⟨_, hnone⟩ | ⟨ticket, _, hloading, habandoned⟩
    · rw [hasked] at hnone
      cases hnone
    · exact ⟨ticket, hloading, habandoned⟩
  rw [(hopened false).1, (hopened false).2] at hcount
  rw [(hopened true).1, (hopened true).2] at hcount'
  exact ⟨hopened, hends, hkeeps, hcount, hsays.trans hends, hclosed, habandoned, hcount',
    hsays'.trans hkeeps, hsame hkeeps⟩

end Host

end WorksheetBar
