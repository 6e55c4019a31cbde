import WorksheetBar.Proofs.Popups
import WorksheetBar.Shell.View

/-!
# Signing out forgets the session

What a shell holds when its user is signed out does not tell what went on before: no
popup, no profile, and of a request at most its ticket, marked as abandoned.  Two such
shells that wait for the same ticket, or for none, differ in their journals only.

No step looks into the journal.  So two shells that differ in nothing else go on alike,
whatever happens, and show the same all along.

* `Turn.forgotten` — what is left of the session when the user is signed out;
* `step_alike` — shells that differ in their journals only step alike;
* `signing_out_forgets` — shells that are signed out cannot be told apart.
-/

namespace WorksheetBar

namespace Errand

/-- Nothing is left of a session, or a request whose answer will be dropped. -/
structure Forgotten (errand : Errand) : Prop where
  session : errand.session = .notLoaded ∨ ∃ ticket, errand.session = .loading ticket
  abandoned : errand.abandoned = errand.session.ticket?

variable {errand after : Errand} {action : Action} {tickets : List Ticket}

/-- The guard asks for nothing while the user is signed out. -/
theorem Begins.rests_of_signedOut (h : Begins errand after tickets)
    (hout : after.signedIn = false) : after = errand := by
  cases h with
  | rests => rfl
  | asks _ hsigned => exact absurd (hsigned.symm.trans hout) (by simp)

/-- **Whatever happens, a session is forgotten while the user is signed out.** -/
theorem Turn.forgotten (h : Turn errand action after tickets) (hsound : errand.Sound)
    (hbefore : errand.signedIn = false → errand.Forgotten) (hout : after.signedIn = false) :
    after.Forgotten := by
  cases h with
  | stays => exact hbefore hout
  | mounts _ hbegins =>
      have hsame := hbegins.rests_of_signedOut hout
      rw [hsame] at hout ⊢
      exact ⟨(hbefore hout).session, (hbefore hout).abandoned⟩
  | signsIn _ hbegins =>
      have hin : after.signedIn = true := hbegins.signedIn_eq
      exact absurd (hin.symm.trans hout) (by simp)
  | unmounts => exact ⟨(hbefore hout).session, (hbefore hout).abandoned⟩
  | abandons _ hsession => exact ⟨Or.inr ⟨_, hsession⟩, by simp [hsession, Session.ticket?]⟩
  | forgets _ hsession =>
      refine ⟨Or.inl rfl, ?_⟩
      cases habandoned : errand.abandoned with
      | none => rfl
      | some ticket =>
          rw [hsound.pending ticket habandoned] at hsession
          cases hsession
  | drops _ _ _ hbegins =>
      rw [hbegins.rests_of_signedOut hout]
      exact ⟨Or.inl rfl, rfl⟩
  | misses _ hsession habandoned | settles _ hsession habandoned =>
      -- what is waited for was abandoned when the user signed out
      have hkept := (hbefore hout).abandoned
      rw [hsession] at hkept
      exact absurd hkept habandoned

end Errand

namespace Shell

/-- A shell without its journal. -/
def unjournaled (shell : Shell) : Shell := { shell with journal := {} }

/-- The shells differ in their journals only. -/
def Alike (shell other : Shell) : Prop := shell.unjournaled = other.unjournaled

/-- What a function makes of a shell, and what it asks of the host, does not hang on the
journal. -/
def Blind (f : Shell → Shell × List Effect) : Prop :=
  ∀ shell journal, Alike (f { shell with journal }).1 (f shell).1 ∧
    (f { shell with journal }).2 = (f shell).2

theorem beginFetch_blind : Blind beginFetch := by
  intro shell journal
  unfold beginFetch
  dsimp only
  split <;> exact ⟨rfl, rfl⟩

theorem closeDialog_blind : Blind closeDialog := by
  intro shell journal
  unfold closeDialog
  dsimp only
  split <;> exact ⟨rfl, rfl⟩

theorem confirmDialog_blind : Blind confirmDialog := by
  intro shell journal
  unfold confirmDialog
  dsimp only
  split <;> exact ⟨rfl, rfl⟩

theorem toggleMenu_blind (anchor : Option Anchor) : Blind (toggleMenu · anchor) := by
  intro shell journal
  unfold toggleMenu
  dsimp only
  split
  · exact ⟨rfl, rfl⟩
  · split <;> exact ⟨rfl, rfl⟩

theorem activate_blind (control : Control) : Blind (activate · control) := by
  intro shell journal
  unfold activate
  dsimp only
  split
  · exact ⟨rfl, rfl⟩
  · split
    · exact ⟨rfl, rfl⟩
    · split
      · exact ⟨rfl, rfl⟩
      · exact toggleMenu_blind none shell journal

theorem pressInName_blind (key : FieldKey) : Blind (pressInName · key) := by
  intro shell journal
  unfold pressInName
  dsimp only
  split
  · exact ⟨rfl, rfl⟩
  · cases key with
    | enter =>
        obtain ⟨halike, heffects⟩ := confirmDialog_blind shell journal
        exact ⟨halike, congrArg (.preventDefault :: ·) heffects⟩
    | escape => exact closeDialog_blind shell journal
    | other => exact ⟨rfl, rfl⟩

theorem stepUser_blind (action : UserAction) : Blind (stepUser · action) := by
  intro shell journal
  cases action with
  | activate control => exact activate_blind control shell journal
  | pressInName key => exact pressInName_blind key shell journal
  | confirmDialog => exact confirmDialog_blind shell journal
  | cancelDialog | dismissDialog => exact closeDialog_blind shell journal
  | toggleMenu anchor => exact toggleMenu_blind anchor shell journal
  | editName _ | closeMenu | openProfile | signOut =>
      simp only [stepUser, editName, closeMenu, openProfile, requestSignOut]
      split <;> exact ⟨rfl, rfl⟩

theorem fetched_blind (ticket : Ticket) (result : Except FetchError Profile) :
    Blind (fetched · ticket result) := by
  intro shell journal
  unfold fetched
  dsimp only
  split
  · exact ⟨rfl, rfl⟩
  · split
    · let message := "discarded profile response " ++ toString ticket.number ++
        " from a signed-out session"
      let dropped := { shell with abandoned := none, session := .notLoaded }
      obtain ⟨halike, heffects⟩ := beginFetch_blind (dropped.log .debug .session message)
        (journal.log .debug .session message)
      exact ⟨halike, congrArg
        (fun effects => if effects.isEmpty then [] else effects ++ [.requestFrame]) heffects⟩
    · split
      · exact ⟨rfl, rfl⟩
      · cases result <;> exact ⟨rfl, rfl⟩

/-- **No step looks into the journal.** -/
theorem step_blind (action : Action) : Blind (step · action) := by
  intro shell journal
  cases action with
  | user action => exact stepUser_blind action shell journal
  | runtime action =>
      cases action with
      | mount =>
          obtain ⟨halike, heffects⟩ := beginFetch_blind { shell with mounted := true } journal
          simp only [step, stepRuntime, mount]
          split
          · exact ⟨rfl, rfl⟩
          · exact ⟨halike, congrArg (· ++ _) heffects⟩
      | unmount =>
          simp only [step, stepRuntime, unmount]
          split <;> exact ⟨rfl, rfl⟩
      | setSignedIn value =>
          obtain ⟨halike, heffects⟩ := beginFetch_blind { shell with signedIn := true } journal
          simp only [step, stepRuntime, setSignedIn]
          split
          · exact ⟨rfl, rfl⟩
          · split
            · exact ⟨halike, congrArg (· ++ _) heffects⟩
            · unfold forget
              dsimp only
              split <;> exact ⟨rfl, rfl⟩
      | fetched ticket result => exact fetched_blind ticket result shell journal

/-- Shells that are alike have everything in common but the journal. -/
theorem Alike.eq_journaled {shell other : Shell} (h : Alike shell other) :
    shell = { other with journal := shell.journal } := by
  have hsame := congrArg (fun plain : Shell => { plain with journal := shell.journal }) h
  exact hsame

/-- **Shells that differ in their journals only step alike.** -/
theorem step_alike {shell other : Shell} (h : Alike shell other) (action : Action) :
    Alike (shell.step action).1 (other.step action).1 ∧
      (shell.step action).2 = (other.step action).2 := by
  rw [h.eq_journaled]
  exact step_blind action other shell.journal

/-- Shells that are alike go on alike, whatever happens. -/
theorem run_alike {shell other : Shell} (h : Alike shell other) (actions : List Action) :
    Alike (shell.run actions) (other.run actions) := by
  induction actions using List.reverseRecOn with
  | nil => exact h
  | append_singleton actions action ih =>
      rw [run_concat, run_concat]
      exact (step_alike ih action).1

/-- Shells that are alike show the same. -/
theorem view_alike {shell other : Shell} (h : Alike shell other) : shell.view = other.view := by
  rw [h.eq_journaled]
  rfl

/-- **A session is forgotten whenever the user is signed out.** -/
theorem run_forgotten {config : Config} {signedIn : Bool} {actions : List Action}
    (hout : ((fresh config signedIn).run actions).signedIn = false) :
    ((fresh config signedIn).run actions).errand.Forgotten := by
  induction actions using List.reverseRecOn with
  | nil => exact ⟨Or.inl rfl, rfl⟩
  | append_singleton actions action ih =>
      exact (run_turn _ actions action).forgotten (run_errand_sound config signedIn actions)
        ih hout

/-- What a shell comes to when its user is signed out. -/
structure Cleared (shell : Shell) : Prop where
  signedIn : shell.signedIn = false
  dialog : shell.dialog = .closed
  menu : shell.menu = .closed
  session : shell.errand.Forgotten

/-- **A shell is cleared whenever its user is signed out.** -/
theorem run_cleared {config : Config} {signedIn : Bool} {actions : List Action}
    (hout : ((fresh config signedIn).run actions).signedIn = false) :
    ((fresh config signedIn).run actions).Cleared := by
  obtain ⟨hdialog, hmenu⟩ := run_unattended config signedIn actions hout
  exact ⟨hout, hdialog, hmenu, run_forgotten hout⟩

/-- **Cleared shells differ in little**: whether they are mounted, the next ticket and the
one that is waited for. -/
theorem Cleared.alike {shell other : Shell} (h : shell.Cleared) (h' : other.Cleared)
    (hconfig : shell.config = other.config) (hmounted : shell.mounted = other.mounted)
    (hnext : shell.nextTicket = other.nextTicket)
    (hticket : shell.session.ticket? = other.session.ticket?) : Alike shell other := by
  have habandoned : shell.abandoned = other.abandoned :=
    h.session.abandoned.trans (hticket.trans h'.session.abandoned.symm)
  have hsession : shell.session = other.session := by
    rcases h.session.session with hnone | ⟨ticket, hloading⟩
    · have hnone : shell.session = .notLoaded := hnone
      rw [hnone] at hticket ⊢
      rcases h'.session.session with hnone' | ⟨ticket', hloading'⟩
      · exact hnone'.symm
      · rw [show other.session = .loading ticket' from hloading'] at hticket
        cases hticket
    · have hloading : shell.session = .loading ticket := hloading
      rw [hloading] at hticket ⊢
      exact (Session.ticket?_eq_some.mp hticket.symm).symm
  rw [Alike, unjournaled, unjournaled, hconfig, hmounted, hnext, habandoned, hsession, h.signedIn,
    h'.signedIn, h.dialog, h'.dialog, h.menu, h'.menu]

/-- A cleared shell shows what a fresh one shows. -/
theorem Cleared.view_eq {shell : Shell} (h : shell.Cleared) :
    shell.view = (fresh shell.config false).view := by
  have hlabel : ∀ control, shell.itemLabel control = control.label := by
    intro control
    unfold itemLabel
    split
    · next profile hloaded =>
        rcases h.session.session with hnone | ⟨ticket, hloading⟩
        · cases hloaded.symm.trans hnone
        · cases hloaded.symm.trans hloading
    · rfl
  have hitem : shell.item = (fresh shell.config false).item := by
    funext control
    rw [item, hlabel control]
    cases control <;> rfl
  rw [view, view, hitem, h.signedIn, h.dialog, h.menu]
  rfl

/-- **Signing out forgets the session.**  Take two runs of one configuration, with whatever
users, names, profiles and popups, that end with the user signed out.  If they agree on
whether the shell is mounted, on the next ticket and on the one waited for, if any, then
they end alike but for the journal; and whatever happens from there on, both ask the same
of the host and show the same.  What a shell shows while its user is signed out is what a
fresh one shows. -/
theorem signing_out_forgets (config : Config) :
    (∀ signedIn signedIn' actions actions',
      let shell := (fresh config signedIn).run actions
      let other := (fresh config signedIn').run actions'
      shell.signedIn = false → other.signedIn = false → shell.mounted = other.mounted →
      shell.nextTicket = other.nextTicket → shell.session.ticket? = other.session.ticket? →
      shell.unjournaled = other.unjournaled ∧
        ∀ more, (shell.run more).view = (other.run more).view ∧
          ∀ action, ((shell.run more).step action).2 = ((other.run more).step action).2) ∧
    ∀ signedIn actions, ((fresh config signedIn).run actions).signedIn = false →
      ((fresh config signedIn).run actions).view = (fresh config false).view := by
  constructor
  · intro signedIn signedIn' actions actions' shell other hout hout' hmounted hnext hticket
    have hconfig : shell.config = config := run_config _ actions
    have hconfig' : other.config = config := run_config _ actions'
    have halike := (run_cleared hout).alike (run_cleared hout') (hconfig.trans hconfig'.symm)
      hmounted hnext hticket
    refine ⟨halike, ?_⟩
    intro more
    have hlater := run_alike halike more
    exact ⟨view_alike hlater, fun action => (step_alike hlater action).2⟩
  · intro signedIn actions hout
    have hconfig : ((fresh config signedIn).run actions).config = config := run_config _ actions
    have hview := (run_cleared hout).view_eq
    rwa [hconfig] at hview

/-- One user had a profile and the dialog open, the other one's request had failed and the
menu was open.  After both have signed out, the next user signs in. -/
theorem signing_out_forgets_two_users :
    let actions : List Action :=
      [.runtime .mount, .runtime (.fetched ⟨1⟩ (.ok (Profile.of "0x1" "eve" []))),
        .user (.activate .newWorksheet), .user (.editName "secret"),
        .runtime (.setSignedIn false)]
    let actions' : List Action :=
      [.runtime (.setSignedIn true), .runtime .mount,
        .runtime (.fetched ⟨1⟩ (.error (.status 500))), .user (.toggleMenu (some ⟨3, 1⟩)),
        .runtime (.setSignedIn false)]
    let shell := (fresh {} true).run actions
    let other := (fresh {} false).run actions'
    (shell.signedIn = false ∧ other.signedIn = false ∧ shell.mounted = other.mounted ∧
      shell.nextTicket = other.nextTicket ∧ shell.session.ticket? = other.session.ticket?) ∧
    shell.unjournaled = other.unjournaled ∧
    (∀ more, (shell.run more).view = (other.run more).view ∧
      ∀ action, ((shell.run more).step action).2 = ((other.run more).step action).2) ∧
    shell.view = (fresh {} false).view := by
  intro actions actions' shell other
  obtain ⟨htwo, hview⟩ := signing_out_forgets {}
  obtain ⟨hsame, hlater⟩ := htwo true false actions actions' rfl rfl rfl rfl rfl
  exact ⟨⟨rfl, rfl, rfl, rfl, rfl⟩, hsame, hlater, hview true actions rfl⟩

end Shell

end WorksheetBar
