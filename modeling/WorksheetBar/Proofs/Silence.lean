import WorksheetBar.Command.Program
import WorksheetBar.Proofs.Popups
import WorksheetBar.Proofs.SessionCookie
import WorksheetBar.Proofs.Stories

/-!
# A signed-out bar sends nothing

Whether there is a session is told in two places: the client shows the cookie with everything
it sends, for as long as it lives, and the shell knows that the user is signed in.  Both start
from the same token.  But only the shell hears that the user signs out; the client goes on
holding the cookie.

What keeps the cookie from being used is that a signed-out shell calls for nothing to be sent.
It has no dialog open, so it sends no command, and it asks for no profile before the user is
signed in again, which a provider that has dropped its token never says.

* `step_harmless` — a signed-out shell calls for frames and for public destinations only;
* `TokenMove.silent` — so nothing is started while the user is signed out;
* `signed_out_sends_nothing` — after signing out nothing more is ever started.
-/

namespace WorksheetBar

/-- The links that are shown to a user who is signed out. -/
def Links.signedOut (links : Links) : List String :=
  [links.gallery, links.howTo, links.contact, links.signUp, links.login]

/-- Where a control leads that a signed-out user is shown is public. -/
theorem Control.link_mem_signedOut {control : Control} {links : Links} {path : String}
    (hvisible : control.isVisible false = true) (hlink : control.link? links = some path) :
    path ∈ links.signedOut := by
  cases control with
  | dashboard | newWorksheet | accountMenu => cases hvisible
  | gallery | howTo | contact | signUp | login =>
      cases hlink
      simp [Links.signedOut]

/-- An effect that sends nothing: a frame, or leaving for a public destination. -/
def Effect.IsHarmless (links : Links) (effect : Effect) : Prop :=
  effect = .requestFrame ∨ ∃ path ∈ links.signedOut, effect = .navigate path

namespace Effect

/-- Effects that send nothing start nothing. -/
theorem jobs_of_harmless (service : Service) {links : Links} {effects : List Effect}
    (h : ∀ effect ∈ effects, effect.IsHarmless links) : jobs service effects = [] := by
  rw [jobs, List.filterMap_eq_nil_iff]
  intro effect hmem
  rcases h effect hmem with rfl | ⟨path, _, rfl⟩ <;> rfl

end Effect

namespace Shell

variable {shell : Shell} {actions : List Action} {action : Action}

/-- **A signed-out shell calls for nothing to be sent**, unless it is told that the user is
signed in. -/
theorem step_harmless (hunattended : shell.Unattended) (hout : shell.signedIn = false)
    (haction : action ≠ .runtime (.setSignedIn true)) {effect : Effect}
    (h : effect ∈ (shell.step action).2) : effect.IsHarmless shell.config.links := by
  have hsigned : shell.signedIn ≠ true := by simp [hout]
  have hshown : shell.dialog.isShown ≠ true := by
    rw [(hunattended hout).1]
    simp [Dialog.isShown]
  cases step_asks h with
  | frame => exact Or.inl rfl
  | keep hopen | send _ _ hopen => exact absurd hopen hshown
  | follow hvisible hlink =>
      rw [hout] at hvisible
      exact Or.inr ⟨_, Control.link_mem_signedOut hvisible hlink, rfl⟩
  | profilePage hin | signOut hin => exact absurd hin hsigned
  | fetch runtime _ hin =>
      rcases hin with hin | rfl
      · exact absurd hin hsigned
      · exact absurd rfl haction

/-- A shell that is signed out stays so until it is told otherwise. -/
theorem step_signedOut (hout : shell.signedIn = false)
    (haction : action ≠ .runtime (.setSignedIn true)) :
    (shell.step action).1.signedIn = false := by
  have hturn : (shell.step action).1.signedIn = action.signedIn?.getD shell.signedIn :=
    (step_turn shell action).signedIn_eq
  rw [hturn]
  match action, haction with
  | .runtime (.setSignedIn true), hne => exact absurd rfl hne
  | .runtime (.setSignedIn false), _ => rfl
  | .user _, _ | .runtime .mount, _ | .runtime .unmount, _ | .runtime (.fetched _ _), _ =>
      exact hout

/-- **Along a run, too.** -/
theorem run_harmless (hunattended : shell.Unattended) (hout : shell.signedIn = false)
    (hactions : .runtime (.setSignedIn true) ∉ actions) :
    (∀ effect ∈ shell.effects actions, effect.IsHarmless shell.config.links) ∧
      (shell.run actions).signedIn = false ∧ (shell.run actions).Unattended := by
  induction actions generalizing shell with
  | nil => exact ⟨fun effect hmem => absurd hmem List.not_mem_nil, hout, hunattended⟩
  | cons action rest ih =>
      have haction : action ≠ .runtime (.setSignedIn true) := by
        rintro rfl
        exact hactions List.mem_cons_self
      obtain ⟨hrest, hlast⟩ := ih (step_unattended hunattended action)
        (step_signedOut hout haction) fun hmem => hactions (List.mem_cons_of_mem _ hmem)
      rw [step_config] at hrest
      refine ⟨fun effect hmem => ?_, hlast⟩
      rcases List.mem_append.mp hmem with hfirst | hlater
      · exact step_harmless hunattended hout haction hfirst
      · exact hrest effect hlater

end Shell

namespace Host

/-- Nobody is signed in: neither does the provider say so nor does the shell know of it, and
nothing is open. -/
structure SignedOut (host : Host) : Prop where
  provider : host.provider.signedIn = false
  shell : host.shell.signedIn = false
  unattended : host.shell.Unattended

/-- Whatever the shell hears then, nothing is started. -/
theorem SignedOut.hears {host after : Host} {actions : List Action} (h : host.SignedOut)
    (hhears : Hears host after actions) (hprovider : after.provider.signedIn = false) :
    after.SignedOut ∧ after.jobs = host.jobs := by
  have hactions : .runtime (.setSignedIn true) ∉ actions := by
    intro hmem
    have hsigned := hhears.signsIn hmem
    rw [h.provider] at hsigned
    cases hsigned
  obtain ⟨hharmless, hout, hunattended⟩ := Shell.run_harmless h.unattended h.shell hactions
  rw [← hhears.shell] at hout hunattended
  refine ⟨⟨hprovider, hout, hunattended⟩, ?_⟩
  rw [hhears.jobs, Effect.jobs_of_harmless _ hharmless, List.append_nil]

/-- Signing out takes effect at once, unless the provider is sticky. -/
theorem signOut_signedOut {host : Host} (hsticky : host.provider.isSticky = false)
    (hin : host.shell.signedIn = true) :
    (handle .signOut host).1.provider.signedIn = false ∧
      (handle .signOut host).1.shell.signedIn = false := by
  have hsignOut : Effect.signOut ∈ (host.shell.step (.user .signOut)).2 := by
    simp [Shell.step, Shell.stepUser, Shell.requestSignOut, hin]
  have hdropped : host.provider.signOut.signedIn = false := by
    simp [Provider.signOut, hsticky]
  have hhears := apply_hears (.user .signOut) (by simp) host
  have hprovider : (handle .signOut host).1.provider = host.provider.signOut := by
    rw [handle, apply_provider, if_pos hsignOut]
  have hshell : (handle .signOut host).1.shell =
      host.shell.run ([.user .signOut] ++ [.runtime (.setSignedIn false)]) := by
    rw [hears, if_pos hsignOut, hdropped] at hhears
    exact hhears.shell
  rw [hprovider, hshell, Shell.run_concat]
  exact ⟨hdropped, (Shell.step_turn _ (.runtime (.setSignedIn false))).signedIn_eq⟩

end Host

/-! ## A provider that holds a token -/

namespace Scene

open Host

/-- A move with a provider that holds a token: once it has dropped the token it does not get it
back. -/
def TokenMove (scene next : Scene) : Prop :=
  Move scene next ∧ (next.host.provider.signedIn = true → scene.host.provider.signedIn = true)

/-- Any number of such moves. -/
abbrev TokenMoves : Scene → Scene → Prop := Relation.ReflTransGen TokenMove

/-- Such moves are moves. -/
theorem TokenMoves.moves {scene next : Scene} (h : TokenMoves scene next) : Moves scene next :=
  Relation.ReflTransGen.mono (fun _ _ hmove => hmove.1) _ _ h

/-- **Nothing is started while the user is signed out.** -/
theorem TokenMove.silent {scene next : Scene} (hmove : TokenMove scene next)
    (h : scene.host.SignedOut) : next.host.SignedOut ∧ next.host.jobs = scene.host.jobs := by
  obtain ⟨actions, hhears⟩ := hmove.1.hears
  have hprovider : next.host.provider.signedIn = false := by
    by_contra hsigned
    have hbefore := hmove.2 (by simpa using hsigned)
    rw [h.provider] at hbefore
    cases hbefore
  exact h.hears hhears hprovider

/-- However many there are, nothing is started. -/
theorem TokenMoves.silent {scene later : Scene} (hmoves : TokenMoves scene later)
    (h : scene.host.SignedOut) : later.host.SignedOut ∧ later.host.jobs = scene.host.jobs := by
  induction hmoves with
  | refl => exact ⟨h, rfl⟩
  | tail _ hmove ih =>
      obtain ⟨hout, hjobs⟩ := ih
      obtain ⟨hnext, hsame⟩ := hmove.silent hout
      exact ⟨hnext, hsame.trans hjobs⟩

/-- A provider does not become sticky. -/
theorem Moves.isSticky {scene later : Scene} (hmoves : Moves scene later) :
    later.host.provider.isSticky = scene.host.provider.isSticky := by
  induction hmoves with
  | refl => rfl
  | tail _ hmove ih =>
      obtain ⟨_, hhears⟩ := hmove.hears
      exact hhears.isSticky.trans ih

/-- In every scene that can be reached, only a signed-in user has a popup open. -/
theorem Reachable.unattended {scene : Scene} (h : scene.Reachable) :
    scene.host.shell.Unattended := by
  obtain ⟨config, signedIn, actions, hshell⟩ := h.exists_run
  rw [hshell]
  exact Shell.run_unattended config signedIn actions

end Scene

namespace Command

/-- The token is the one that was given, or else the one that is around, unless it is blank. -/
theorem token?_eq_some {options : Options} {around : Option String} {token : String} :
    options.token? around = some token ↔
      options.session.or around = some token ∧ Text.isBlank token = false := by
  simp [Options.token?, Option.filter_eq_some_iff]

/-- The host of a command is one at its start. -/
theorem hostOf_starts (config : Config) (session : Option String) :
    (hostOf config session).Starts :=
  .fresh config { signedIn := session.isSome } true none

end Command

namespace Scene

open Host

/-- **A signed-out bar sends nothing.**  Whatever has happened to a shell, while it is signed out
it calls for frames and for the five public destinations only, on any action but being told that
the user is signed in.

So take the host and the client of a command, with any options and anything around it.  The shell
starts signed in exactly if the client has a cookie, which is if the token that was given, or else
the one around, is not blank; and then the client shows it with everything it sends, at any time.
But signing out takes effect at once, and from then on nothing is started any more, whatever the
host is called for and whatever goes on around it: what was started is what had been started
before. -/
theorem signed_out_sends_nothing (config : Config) :
    (∀ signedIn actions action,
      let shell := (Shell.fresh config signedIn).run actions
      shell.signedIn = false → action ≠ .runtime (.setSignedIn true) →
      ∀ effect ∈ (shell.step action).2,
        effect = .requestFrame ∨ ∃ path ∈ config.links.signedOut, effect = .navigate path) ∧
    ∀ (options : Command.Options) (around : Option String),
      let session := options.token? around
      let host := Command.hostOf config session
      let client := Http.Client.of config.service session
      (host.shell.signedIn = true ↔
        ∃ token, options.session.or around = some token ∧ Text.isBlank token = false) ∧
      (host.shell.signedIn = true ↔ client.cookie.isSome = true) ∧
      (∀ path body request,
        client.getRequest path = .ok request ∨ client.postRequest path body = .ok request →
        ((∃ cookie, ("cookie", cookie) ∈ request.headers) ↔ host.shell.signedIn = true)) ∧
      ∀ scene, TokenMoves ⟨host, .idle⟩ scene →
        (scene.activity = .idle → scene.host.shell.signedIn = true →
          (handle .signOut scene.host).1.provider.signedIn = false ∧
            (handle .signOut scene.host).1.shell.signedIn = false) ∧
        (scene.host.provider.signedIn = false → scene.host.shell.signedIn = false →
          ∀ later, TokenMoves scene later →
            later.host.jobs = scene.host.jobs ∧ later.host.shell.signedIn = false) := by
  constructor
  · intro signedIn actions action shell hout haction effect hmem
    have hunattended : shell.Unattended := Shell.run_unattended config signedIn actions
    have hlinks : shell.config = config := Shell.run_config _ actions
    have hharmless := Shell.step_harmless hunattended hout haction hmem
    rwa [hlinks] at hharmless
  · intro options around session host client
    have hcookie : host.shell.signedIn = true ↔ client.cookie.isSome = true := by
      simp [host, client, Command.hostOf, Host.fresh, Shell.fresh, Http.Client.of]
    refine ⟨?_, hcookie, fun path body request hbuilt => ?_, fun scene hmoves => ⟨?_, ?_⟩⟩
    · have hsession : host.shell.signedIn = true ↔ ∃ token, session = some token :=
        Option.isSome_iff_exists
      rw [hsession]
      exact exists_congr fun token => Command.token?_eq_some
    · exact (Http.Client.shows_cookie_iff hbuilt).trans hcookie.symm
    · intro _ hin
      exact signOut_signedOut hmoves.moves.isSticky hin
    · intro hprovider hshell later hlater
      have hreachable : scene.Reachable :=
        ⟨host, Command.hostOf_starts config session, hmoves.moves⟩
      obtain ⟨hout, hjobs⟩ := hlater.silent ⟨hprovider, hshell, hreachable.unattended⟩
      exact ⟨hjobs, hout.shell⟩

/-- The user of a token signs out while the profile is on its way and then tries to create a
worksheet.  The client would still show the cookie, but it is asked for nothing more. -/
theorem signed_out_sends_nothing_on_the_way :
    let options : Command.Options := { session := some "abc" }
    let session := options.token? (some " ")
    let host := Command.hostOf {} session
    let client := Http.Client.of {} session
    let mounted := host.mount.1
    let out := (handle .signOut mounted).1
    let later := (handle .confirmDialog (handle (.activate .newWorksheet) out).1).1
    let shell := (Shell.fresh {} true).run [.runtime .mount, .runtime (.setSignedIn false)]
    (shell.signedIn = false ∧ Action.user (.activate .login) ≠ .runtime (.setSignedIn true) ∧
      .navigate "/account/login" ∈ (shell.step (.user (.activate .login))).2 ∧
      (Effect.navigate "/account/login" = .requestFrame ∨
        ∃ path ∈ ({} : Config).links.signedOut,
          Effect.navigate "/account/login" = .navigate path)) ∧
    (host.shell.signedIn = true ∧
      ∃ token, options.session.or (some " ") = some token ∧ Text.isBlank token = false) ∧
    client.cookie.isSome = true ∧
    (∃ request, client.getRequest "/rest/user" = .ok request ∧
      ∃ cookie, ("cookie", cookie) ∈ request.headers) ∧
    TokenMoves ⟨host, .idle⟩ ⟨mounted, .idle⟩ ∧ mounted.shell.signedIn = true ∧
    out.provider.signedIn = false ∧ out.shell.signedIn = false ∧
    TokenMoves ⟨host, .idle⟩ ⟨out, .idle⟩ ∧ TokenMoves ⟨out, .idle⟩ ⟨later, .idle⟩ ∧
    out.jobs = [.fetch ⟨1⟩ "/rest/user"] ∧ later.jobs = out.jobs ∧
    later.shell.signedIn = false := by
  intro options session host client mounted out later shell
  obtain ⟨hharmless, hcommand⟩ := signed_out_sends_nothing {}
  obtain ⟨hstarts, hcookie, hshows, hsilent⟩ := hcommand options (some " ")
  have hout : shell.signedIn = false := by decide +kernel
  have hlogin : .navigate "/account/login" ∈ (shell.step (.user (.activate .login))).2 := by
    decide +kernel
  have hin : host.shell.signedIn = true := by decide +kernel
  have hbuilt : (client.getRequest "/rest/user").toOption.isSome = true := by decide +kernel
  obtain ⟨request, hrequest⟩ : ∃ request, client.getRequest "/rest/user" = .ok request := by
    cases hget : client.getRequest "/rest/user" with
    | ok request => exact ⟨request, rfl⟩
    | error error =>
        rw [hget] at hbuilt
        cases hbuilt
  have hshown := (hshows "/rest/user" .null request (Or.inl hrequest)).mpr hin
  have hmounts : TokenMove ⟨host, .idle⟩ ⟨mounted, .idle⟩ :=
    ⟨.call (.mount host), fun _ => by decide +kernel⟩
  have hmounted : TokenMoves ⟨host, .idle⟩ ⟨mounted, .idle⟩ := .single hmounts
  have hsignedIn : mounted.shell.signedIn = true := by decide +kernel
  obtain ⟨hprovider, hshell⟩ := (hsilent ⟨mounted, .idle⟩ hmounted).1 rfl hsignedIn
  have hleaves : TokenMove ⟨mounted, .idle⟩ ⟨out, .idle⟩ :=
    ⟨.call (.handle mounted .signOut), fun _ => by decide +kernel⟩
  have hleft : TokenMoves ⟨host, .idle⟩ ⟨out, .idle⟩ := hmounted.tail hleaves
  let tried := (handle (.activate .newWorksheet) out).1
  have htries : TokenMove ⟨out, .idle⟩ ⟨tried, .idle⟩ :=
    ⟨.call (.handle out (.activate .newWorksheet)), fun h => absurd h (by decide +kernel)⟩
  have hconfirms : TokenMove ⟨tried, .idle⟩ ⟨later, .idle⟩ :=
    ⟨.call (.handle tried .confirmDialog), fun h => absurd h (by decide +kernel)⟩
  have hlater : TokenMoves ⟨out, .idle⟩ ⟨later, .idle⟩ :=
    (Relation.ReflTransGen.single htries).tail hconfirms
  have hjobs : out.jobs = [.fetch ⟨1⟩ "/rest/user"] := by decide +kernel
  obtain ⟨hsame, hstays⟩ := (hsilent ⟨out, .idle⟩ hleft).2 hprovider hshell ⟨later, .idle⟩ hlater
  exact ⟨⟨hout, by simp, hlogin, hharmless true _ _ hout (by simp) _ hlogin⟩,
    ⟨hin, hstarts.mp hin⟩, hcookie.mp hin, ⟨request, hrequest, hshown⟩, hmounted, hsignedIn,
    hprovider, hshell, hleft, hlater, hjobs, hsame, hstays⟩

end Scene

end WorksheetBar
