import WorksheetBar.Proofs.PostedCommands
import WorksheetBar.Proofs.ProfileEnvelope
import WorksheetBar.Proofs.Requests

/-!
# Which profiles a host holds

A profile comes from nowhere but the body of an answer.  A task that is answered hands it in, it
waits in the inbox, and the shell takes it in or forgets it.  On that way nothing is ever changed
about it, so whatever is true of every profile that a body holds is true of the one that a shell
holds, whatever has gone on until then.

* `advance_fetch` — what a task that asks for a profile does when it goes on;
* `loaded_of_run` — a shell holds the profiles it has heard of;
* `Reachable.holds` — every profile that is held was received;
* `profiles_are_enveloped` — which answers hold a profile, and what every profile says of itself.
-/

namespace WorksheetBar

namespace Profile

/-- A profile that some body holds. -/
def IsReceived (profile : Profile) : Prop := ∃ body, ofBody body = .ok profile

/-- **There is a profile in a reply** exactly if it is a success and its body holds one. -/
theorem ofReply?_eq_ok_iff {reply : Http.Reply} {profile : Profile} :
    ofReply? reply = some (.ok profile) ↔
      ∃ response, reply = .answered response ∧ 200 ≤ response.status.toNat ∧
        response.status.toNat < 300 ∧ ofBody response.body = .ok profile := by
  cases reply with
  | answered response =>
      simp [ofReply?, ofResponse_eq_ok_iff, Http.Response.isSuccess_iff, and_assoc]
  | failed reason => simp [ofReply?]
  | died => simp [ofReply?]

/-- A profile of a reply is held by the body of that reply. -/
theorem isReceived_of_ofReply? {reply : Http.Reply} {profile : Profile}
    (h : ofReply? reply = some (.ok profile)) : profile.IsReceived := by
  obtain ⟨response, _, _, _, hbody⟩ := ofReply?_eq_ok_iff.mp h
  exact ⟨response.body, hbody⟩

/-- **A profile that was received says of itself what its attributes say.** -/
theorem IsReceived.attributes {profile : Profile} (h : profile.IsReceived) :
    profile.attributes.get? userIdKey = some (.string profile.userId) ∧
      profile.attributes.get? userNameKey = some (.string profile.userName) := by
  obtain ⟨body, hbody⟩ := h
  unfold ofBody at hbody
  dsimp only at hbody
  split at hbody
  · obtain ⟨userName, hfound, rfl⟩ := ofResource_eq_ok_iff.mp hbody
    have hother : userNameKey ≠ userIdKey := by decide
    exact ⟨get?_userId _ _ _, (get?_of_ne _ userName _ hother).trans hfound⟩
  · cases hbody

/-- A profile is told apart by its attributes: they are those that were given, with the identity
put among them. -/
theorem enveloped_iff {value : Json} {profile : Profile} :
    (∃ id userName attributes, IsEnvelope value id attributes ∧
      attributes.get? userNameKey = some (.string userName) ∧
      profile = .of id userName attributes) ↔
    ∃ attributes, IsEnvelope value profile.userId attributes ∧
      attributes.get? userNameKey = some (.string profile.userName) ∧
      profile.attributes = attributes.insert userIdKey (.string profile.userId) ∧
      ∀ name, profile.attributes.get? name =
        if name = userIdKey then some (.string profile.userId) else attributes.get? name := by
  constructor
  · rintro ⟨id, userName, attributes, henvelope, hfound, rfl⟩
    refine ⟨attributes, henvelope, hfound, rfl, fun name => ?_⟩
    split
    · next hname => exact hname ▸ get?_userId id userName attributes
    · next hname => exact get?_of_ne id userName attributes hname
  · rintro ⟨attributes, henvelope, hfound, hattributes, _⟩
    obtain ⟨userId, userName, given⟩ := profile
    obtain rfl : given = attributes.insert userIdKey (.string userId) := hattributes
    exact ⟨userId, userName, attributes, henvelope, hfound, rfl⟩

end Profile

/-! ## What a shell holds -/

/-- A session has a profile exactly if it has loaded it. -/
theorem Session.profile?_eq_some {session : Session} {profile : Profile} :
    session.profile? = some profile ↔ session = .loaded profile := by
  cases session <;> simp [profile?]


namespace Errand

/-- Asking for a profile loads none. -/
theorem Begins.loaded {errand after : Errand} {tickets : List Ticket} {profile : Profile}
    (h : Begins errand after tickets) (hloaded : after.session = .loaded profile) :
    errand.session = .loaded profile := by
  cases h with
  | rests => exact hloaded
  | asks => cases hloaded

/-- A step comes to hold the profile that it is told of, and no other one. -/
theorem Turn.loaded {errand after : Errand} {action : Action} {tickets : List Ticket}
    {profile : Profile} (h : Turn errand action after tickets)
    (hloaded : after.session = .loaded profile) :
    errand.session = .loaded profile ∨
      ∃ ticket, action = .runtime (.fetched ticket (.ok profile)) := by
  cases h with
  | stays | unmounts => exact Or.inl hloaded
  | mounts _ hbegins | signsIn _ hbegins => exact Or.inl (hbegins.loaded hloaded)
  | abandons => exact Or.inl hloaded
  | forgets | misses => cases hloaded
  | drops _ _ _ hbegins => cases hbegins.loaded hloaded
  | settles result =>
      cases result with
      | ok given =>
          cases hloaded
          exact Or.inr ⟨_, rfl⟩
      | error => cases hloaded

end Errand

/-- **A shell holds the profiles it has heard of.** -/
theorem Shell.loaded_of_run {actions : List Action} {shell : Shell} {profile : Profile}
    (hloaded : (shell.run actions).session = .loaded profile) :
    shell.session = .loaded profile ∨
      ∃ ticket, .runtime (.fetched ticket (.ok profile)) ∈ actions := by
  induction actions generalizing shell with
  | nil => exact Or.inl hloaded
  | cons action rest ih =>
      rcases ih hloaded with hstepped | ⟨ticket, hmem⟩
      · rcases (step_turn shell action).loaded hstepped with hbefore | ⟨ticket, rfl⟩
        · exact Or.inl hbefore
        · exact Or.inr ⟨ticket, List.mem_cons_self⟩
      · exact Or.inr ⟨ticket, List.mem_cons_of_mem _ hmem⟩

namespace Host

/-! ## What tasks hand in -/

/-- What is handed in for a reply to a request for a profile. -/
def answers (ticket : Ticket) (reply : Http.Reply) : List Completion :=
  ((Profile.ofReply? reply).map (Completion.mk ticket)).toList

/-- What is handed in is the outcome of the reply, under the ticket of the request. -/
theorem mem_answers {ticket : Ticket} {reply : Http.Reply} {completion : Completion} :
    completion ∈ answers ticket reply ↔
      completion.ticket = ticket ∧ Profile.ofReply? reply = some completion.result := by
  obtain ⟨given, result⟩ := completion
  cases hreply : Profile.ofReply? reply with
  | none => simp [answers, hreply]
  | some other => simp [answers, hreply, eq_comm]

/-- A profile is handed in for a reply that comes to it. -/
theorem answers_eq_singleton_iff {ticket : Ticket} {reply : Http.Reply} {profile : Profile} :
    answers ticket reply = [⟨ticket, .ok profile⟩] ↔
      Profile.ofReply? reply = some (.ok profile) := by
  cases hreply : Profile.ofReply? reply <;> simp [answers, hreply]

/-- The outcome of a reply is put into the inbox. -/
theorem answerFetch_inbox (backend : Http.Backend) {host : Host} (hisAlive : host.isAlive = true)
    (index : Nat) (ticket : Ticket) (path : String) :
    (answerFetch backend host index ticket path).inbox =
      host.inbox ++ answers ticket (backend.get host.gets path) := by
  unfold answerFetch answers
  dsimp only
  split
  · next hdied =>
      rw [hdied]
      exact (List.append_nil _).symm
  · next result hresult =>
      rw [hresult, complete, if_pos hisAlive]
      rfl

/-- A task for a profile is answered at once, unless the gate is closed. -/
theorem beginFetch_inbox (backend : Http.Backend) {host : Host} (hisAlive : host.isAlive = true)
    (index : Nat) (ticket : Ticket) (path : String) :
    (beginFetch backend host index ticket path).inbox =
      if host.permits = some 0 then host.inbox
      else host.inbox ++ answers ticket (backend.get host.gets path) := by
  have hanswered : ∀ {counted : Host}, counted.isAlive = host.isAlive → counted.inbox = host.inbox →
      counted.gets = host.gets → host.permits ≠ some 0 →
      (answerFetch backend counted index ticket path).inbox =
        if host.permits = some 0 then host.inbox
        else host.inbox ++ answers ticket (backend.get host.gets path) := by
    intro counted hcounted hinbox hgets hopen
    rw [answerFetch_inbox backend (hcounted.trans hisAlive), hinbox, hgets, if_neg hopen]
  unfold beginFetch
  dsimp only
  split
  · next hnone =>
      have hpermits : host.permits = none := hnone
      exact hanswered rfl rfl rfl (by simp [hpermits])
  · next hnone =>
      have hpermits : host.permits = some 0 := hnone
      rw [if_pos hpermits]
      rfl
  · next permits hsome =>
      have hpermits : host.permits = some (permits + 1) := hsome
      exact hanswered rfl rfl rfl (by simp [hpermits])

/-- **What a task that asks for a profile does when it goes on.**  It makes its request when it
starts, and only then.  When it is answered, which is at once if the gate lets it, it hands in what
the reply comes to. -/
theorem advance_fetch (backend : Http.Backend) {host : Host} (hisAlive : host.isAlive = true)
    {index : Nat} {task : Task} {ticket : Ticket} {path : String}
    (htask : host.tasks[index]? = some task) (hjob : task.job = .fetch ticket path) :
    (advance backend host index).requests =
        host.requests ++ (if task.stage = .spawned then [.get path] else []) ∧
      (advance backend host index).inbox =
        if task.stage = .spawned ∧ host.permits ≠ some 0 ∨ task.stage = .letThrough then
          host.inbox ++ answers ticket (backend.get host.gets path)
        else host.inbox := by
  refine ⟨?_, ?_⟩
  · rw [advance_requests backend htask, Task.unmade?, hjob]
    split <;> rfl
  · obtain ⟨job, stage, isHeld⟩ := task
    obtain rfl : job = .fetch ticket path := hjob
    cases stage with
    | spawned => simp [advance, htask, beginFetch_inbox backend hisAlive]
    | letThrough => simp [advance, htask, answerFetch_inbox backend hisAlive]
    | waiting | ended | died => simp [advance, htask]

/-- What comes of a command is not handed in. -/
theorem sendCommand_inbox (backend : Http.Backend) (host : Host) (index : Nat)
    (command path : String) : (sendCommand backend host index command path).inbox = host.inbox := by
  unfold sendCommand
  dsimp only
  split <;> rfl

/-- What is handed in is what some reply comes to. -/
theorem mem_advance_inbox (backend : Http.Backend) {host : Host} (hisAlive : host.isAlive = true)
    (index : Nat) {completion : Completion}
    (h : completion ∈ (advance backend host index).inbox) :
    completion ∈ host.inbox ∨ ∃ reply, Profile.ofReply? reply = some completion.result := by
  cases htask : host.tasks[index]? with
  | none =>
      rw [advance_of_none backend htask] at h
      exact Or.inl h
  | some task =>
      cases hjob : task.job with
      | fetch ticket path =>
          rw [(advance_fetch backend hisAlive htask hjob).2] at h
          split at h
          · rcases List.mem_append.mp h with hbefore | hanswer
            · exact Or.inl hbefore
            · exact Or.inr ⟨_, (mem_answers.mp hanswer).2⟩
          · exact Or.inl h
      | dispatch command path =>
          have hsame : (advance backend host index).inbox = host.inbox := by
            unfold advance
            rw [htask]
            dsimp only
            split
            · next hfetch => simp [hjob] at hfetch
            · next hfetch => simp [hjob] at hfetch
            · exact sendCommand_inbox _ _ _ _ _
            · rfl
          exact Or.inl (hsame ▸ h)

/-- Letting tasks through the gate hands in nothing. -/
theorem admitFrom_inbox (index more : Nat) (host : Host) :
    (admitFrom index more host).inbox = host.inbox ∧
      (admitFrom index more host).isAlive = host.isAlive := by
  induction more generalizing index host with
  | zero => exact ⟨rfl, rfl⟩
  | succ more ih =>
      unfold admitFrom
      split
      · obtain ⟨hinbox, hisAlive⟩ := ih (index + 1) _
        rw [hinbox, hisAlive]
        split <;> exact ⟨rfl, rfl⟩
      · exact ⟨rfl, rfl⟩

/-! ## What a host holds -/

/-- Every profile that a host holds was received, be it in its inbox or in its shell. -/
structure Holds (host : Host) : Prop where
  isAlive : host.isAlive = true
  inbox : ∀ completion ∈ host.inbox, ∀ profile, completion.result = .ok profile →
    profile.IsReceived
  session : ∀ profile, host.shell.session = .loaded profile → profile.IsReceived

variable {before after : Host}

/-- A task that goes on hands in nothing that was not received. -/
theorem Holds.advance (h : before.Holds) (backend : Http.Backend) (index : Nat) :
    (Host.advance backend before index).Holds := by
  refine ⟨(advance_drift backend h.isAlive index).isAlive.trans h.isAlive, ?_, ?_⟩
  · intro completion hmem profile hresult
    rcases mem_advance_inbox backend h.isAlive index hmem with hbefore | ⟨reply, hreply⟩
    · exact h.inbox completion hbefore profile hresult
    · rw [hresult] at hreply
      exact Profile.isReceived_of_ofReply? hreply
  · intro profile hloaded
    rw [advance_shell] at hloaded
    exact h.session profile hloaded

/-- What happens around a host leaves it with profiles that were received. -/
theorem Progress.holds (hprogress : Progress before after) (h : before.Holds) : after.Holds := by
  cases hprogress with
  | advance backend index => exact h.advance backend index
  | runBackground backend =>
      exact List.foldlRecOn (motive := Holds) before.line (Host.advance backend)
        ⟨h.isAlive, h.inbox, h.session⟩ fun _ hhost index _ => hhost.advance backend index
  | release count =>
      obtain ⟨hinbox, hisAlive⟩ := admitFrom_inbox 0 before.tasks.length
        { before with permits := before.permits.map (· + count) }
      refine ⟨hisAlive.trans h.isAlive, fun completion hmem => ?_, fun profile hloaded => ?_⟩
      · exact h.inbox completion (hinbox ▸ hmem)
      · exact h.session profile (release_shell before count ▸ hloaded)
  | decide value => exact ⟨h.isAlive, h.inbox, h.session⟩

/-- Tasks that are started bring no profile, and a shell that hears of none comes to hold none. -/
theorem Holds.spawns {jobs : List Job} {actions : List Action} (h : before.Holds)
    (hspawns : Spawns before after jobs) (hshell : after.shell = before.shell.run actions)
    (hactions : ∀ ticket profile, .runtime (.fetched ticket (.ok profile)) ∈ actions →
      profile.IsReceived) : after.Holds := by
  refine ⟨hspawns.isAlive.trans h.isAlive, ?_, ?_⟩
  · rw [hspawns.inbox]
    exact h.inbox
  · intro profile hloaded
    rw [hshell] at hloaded
    rcases Shell.loaded_of_run hloaded with hbefore | ⟨ticket, hmem⟩
    · exact h.session profile hbefore
    · exact hactions ticket profile hmem

/-- The shell keeps no other profile than it is told of. -/
theorem Holds.apply (h : before.Holds) (action : Action)
    (haction : ∀ ticket profile, action = .runtime (.fetched ticket (.ok profile)) →
      profile.IsReceived) : (Host.apply action before).1.Holds := by
  obtain ⟨hspawns, hshell⟩ := apply_eq action before
  refine h.spawns hspawns hshell ?_
  intro ticket profile hmem
  rcases mem_hears hmem with heq | heq
  · exact haction ticket profile heq.symm
  · cases heq

/-- No call tells the shell of a profile. -/
theorem Holds.enter (h : before.Holds) (operation : Operation) :
    (before.enter operation).host.Holds := by
  cases operation with
  | mount => exact h.apply (.runtime .mount) (fun _ _ heq => nomatch heq)
  | unmount => exact h.apply (.runtime .unmount) (fun _ _ heq => nomatch heq)
  | handle action => exact h.apply (.user action) (fun _ _ heq => nomatch heq)
  | syncSignedIn =>
      obtain ⟨hspawns, hshell⟩ := syncSignedIn_eq before
      refine h.spawns hspawns hshell ?_
      intro ticket profile hmem
      cases List.mem_singleton.mp hmem
  | pump => exact ⟨h.isAlive, h.inbox, h.session⟩
  | settle => exact h

end Host

namespace Scene

open Host

/-- The thread tells the shell only of profiles in the inbox. -/
theorem Work.holds {scene next : Scene} (hwork : Work scene next) (h : scene.host.Holds) :
    next.host.Holds := by
  cases hwork with
  | @receive host completion rest round hinbox =>
      have hmem : ∀ other ∈ completion :: rest, other ∈ host.inbox := fun other hother => by
        rw [hinbox]
        exact hother
      have hemptied : ({ host with inbox := rest } : Host).Holds :=
        ⟨h.isAlive, fun other hother => h.inbox other (hmem other (List.mem_cons_of_mem _ hother)),
          h.session⟩
      refine hemptied.apply (.runtime (.fetched completion.ticket completion.result)) ?_
      intro ticket profile heq
      simp only [Action.runtime.injEq, RuntimeAction.fetched.injEq] at heq
      exact h.inbox completion (hmem completion List.mem_cons_self) profile heq.2
  | awaited =>
      dsimp only
      split
      · exact ⟨h.isAlive, h.inbox, h.session⟩
      · exact h
  | pumped | gathered | settled => exact h
  | take | gather => exact ⟨h.isAlive, h.inbox, h.session⟩

/-- **Every profile that is held was received**, whatever has gone on. -/
theorem Reachable.holds {scene : Scene} (h : scene.Reachable) : scene.host.Holds := by
  obtain ⟨start, hstarts, hmoves⟩ := h
  induction hmoves with
  | refl =>
      cases hstarts with
      | fresh config provider isTerminal permits =>
          refine ⟨rfl, fun _ hmem => absurd hmem List.not_mem_nil, ?_⟩
          intro profile hloaded
          cases hloaded
  | tail _ hmove ih =>
      cases hmove with
      | call hcall =>
          obtain ⟨operation, rfl⟩ := call_iff.mp hcall
          exact ih.enter operation
      | work hwork => exact hwork.holds ih
      | progress _ hprogress => exact hprogress.holds ih

/-- **Profiles come in envelopes, and what is held of a user is what came.**  A body that can be
read in full and repeats no member holds a profile exactly if it is an envelope around a resource
with a text for a name among its attributes; the profile then repeats the identity among them,
over whatever was there, and leaves the others alone.  Every other body is malformed.

A task that asks for a profile makes one request, when it starts, and what is handed in for it is
a profile exactly if the reply is a success whose body holds that one; so in every scene the
requests are those of the tasks that have started.  A profile that a shell holds, whatever has
gone on, came out of some body, and says of itself what its attributes say. -/
theorem profiles_are_enveloped :
    (∀ (body : List UInt8) (value : Json), (Json.Document.ofBytes body).toJson = .ok value →
      (Json.Document.ofBytes body).root.isDistinct = true →
      ∀ profile, Profile.ofBody body = .ok profile ↔
        ∃ attributes, Profile.IsEnvelope value profile.userId attributes ∧
          attributes.get? "user_name" = some (.string profile.userName) ∧
          profile.attributes = attributes.insert "user_id" (.string profile.userId) ∧
          ∀ name, profile.attributes.get? name =
            if name = "user_id" then some (.string profile.userId) else attributes.get? name) ∧
    (∀ (body : List UInt8) (error : FetchError), Profile.ofBody body = .error error →
      ∃ reason, error = .malformed reason) ∧
    (∀ (reply : Http.Reply) (profile : Profile), Profile.ofReply? reply = some (.ok profile) ↔
      ∃ response, reply = .answered response ∧ 200 ≤ response.status.toNat ∧
        response.status.toNat < 300 ∧ Profile.ofBody response.body = .ok profile) ∧
    (∀ (backend : Http.Backend) (host : Host) (index : Nat) (task : Host.Task) (ticket : Ticket)
      (path : String), host.isAlive = true → host.tasks[index]? = some task →
      task.job = .fetch ticket path →
      let after := Host.advance backend host index
      after.requests = host.requests ++ (if task.stage = .spawned then [.get path] else []) ∧
      (task.stage = .spawned ∧ host.permits ≠ some 0 ∨ task.stage = .letThrough →
        ∀ profile, after.inbox = host.inbox ++ [⟨ticket, .ok profile⟩] ↔
          Profile.ofReply? (backend.get host.gets path) = some (.ok profile))) ∧
    ∀ scene : Scene, scene.Reachable →
      scene.host.requests.Perm (scene.host.tasks.filterMap Host.Task.made?) ∧
      ∀ profile, scene.host.shell.session = .loaded profile →
        (∃ body, Profile.ofBody body = .ok profile) ∧
        profile.attributes.get? "user_id" = some (.string profile.userId) ∧
        profile.attributes.get? "user_name" = some (.string profile.userName) := by
  refine ⟨?_, fun body error => Profile.ofBody_malformed, ?_, ?_, ?_⟩
  · intro body value hread hdistinct profile
    rw [Profile.ofBody_eq_ok_iff hread hdistinct]
    exact Profile.enveloped_iff
  · intro reply profile
    exact Profile.ofReply?_eq_ok_iff
  · intro backend host index task ticket path hisAlive htask hjob
    obtain ⟨hrequests, hinbox⟩ := advance_fetch backend hisAlive htask hjob
    refine ⟨hrequests, fun hgoes profile => ?_⟩
    rw [hinbox, if_pos hgoes, List.append_cancel_left_eq]
    exact answers_eq_singleton_iff
  · intro scene h
    refine ⟨h.requests_perm, fun profile hloaded => ?_⟩
    have hreceived := h.holds.session profile hloaded
    exact ⟨hreceived, hreceived.attributes⟩

/-- The envelope is an object and the resource in it an array, the service says otherwise who the
user is, and the answer has to wait at the gate.  A name that is no text will not do. -/
theorem profiles_are_enveloped_at_the_gate :
    let body := "\x7b\"data\":[\"0xabc\",\x7b\"user_id\":7,\"user_name\":\"ada\"\x7d]\x7d"
    let nameless := "\x7b\"data\":\x7b\"id\":\"0x1\",\"attributes\":\x7b\"user_name\":7\x7d\x7d\x7d"
    let backend : Http.Backend :=
      ⟨fun _ _ => .answered ⟨200, body.toUTF8.toList⟩, fun _ _ _ => .died⟩
    let gated := (Scene.fresh {} { signedIn := true } false (some 0)).play backend
      [.mount, .start, .release 1]
    let scene := gated.play backend [.background, .pump, .work, .work]
    (∃ (profile : Profile) (attributes : Json.Members),
      Profile.ofBody body.toUTF8.toList = .ok profile ∧ profile.userId = "0xabc" ∧
      attributes.get? "user_name" = some (.string profile.userName) ∧
      profile.attributes = attributes.insert "user_id" (.string profile.userId) ∧
      (Host.advance backend gated.host 0).requests = gated.host.requests ∧
      (Host.advance backend gated.host 0).inbox = gated.host.inbox ++ [⟨⟨1⟩, .ok profile⟩]) ∧
    (∃ reason, Profile.ofBody nameless.toUTF8.toList = .error (.malformed reason)) ∧
    scene.host.requests.Perm [.get "/rest/user"] ∧
    ∃ profile, scene.host.shell.session = .loaded profile ∧ profile.userId = "0xabc" ∧
      profile.attributes.get? "user_id" = some (.string profile.userId) := by
  intro body nameless backend gated scene
  obtain ⟨hbodies, hmalformed, hreplies, htasks, hscenes⟩ := profiles_are_enveloped
  have hok : ∀ {ε α : Type} {read : Except ε α} {found : α},
      read.toOption = some found → read = .ok found := by
    intro ε α read found h
    cases read with
    | ok value => exact congrArg Except.ok (Option.some.inj h)
    | error => cases h
  refine ⟨?_, ?_, ?_⟩
  · have hsome : (Json.Document.ofBytes body.toUTF8.toList).toJson.toOption.isSome = true := by
      decide +kernel
    have hidentity : (Profile.ofBody body.toUTF8.toList).toOption.map Profile.userId =
        some "0xabc" := by decide +kernel
    obtain ⟨value, hvalue⟩ := Option.isSome_iff_exists.mp hsome
    obtain ⟨profile, hprofile, hid⟩ := Option.map_eq_some_iff.mp hidentity
    have hbody := hok hprofile
    obtain ⟨attributes, _, hname, hattributes, _⟩ :=
      (hbodies _ value (hok hvalue) (by decide +kernel) profile).mp hbody
    obtain ⟨hrequests, hinbox⟩ := htasks backend gated.host 0
      ⟨.fetch ⟨1⟩ "/rest/user", .letThrough, true⟩ ⟨1⟩ "/rest/user" (by decide +kernel)
      (by decide +kernel) rfl
    refine ⟨profile, attributes, hbody, hid, hname, hattributes, ?_, ?_⟩
    · exact hrequests.trans (List.append_nil _)
    · refine (hinbox (Or.inr rfl) profile).mpr ((hreplies _ profile).mpr ?_)
      exact ⟨_, rfl, by decide, by decide, hbody⟩
  · cases hread : Profile.ofBody nameless.toUTF8.toList with
    | ok profile =>
        have hnone : (Profile.ofBody nameless.toUTF8.toList).toOption.isSome = false := by
          decide +kernel
        rw [hread] at hnone
        cases hnone
    | error error =>
        obtain ⟨reason, rfl⟩ := hmalformed _ error hread
        exact ⟨reason, rfl⟩
  · have hreachable : scene.Reachable := by
      have hplayed := reachable_play {} { signedIn := true } false (some 0) backend
        ([.mount, .start, .release 1] ++ [.background, .pump, .work, .work])
      rwa [play_append] at hplayed
    have htasks : scene.host.tasks = [⟨.fetch ⟨1⟩ "/rest/user", .ended, false⟩] := by
      decide +kernel
    have hidentity : scene.host.shell.session.profile?.map Profile.userId = some "0xabc" := by
      decide +kernel
    obtain ⟨hrequests, hloaded⟩ := hscenes scene hreachable
    obtain ⟨profile, hprofile, hid⟩ := Option.map_eq_some_iff.mp hidentity
    have hsession := Session.profile?_eq_some.mp hprofile
    rw [htasks] at hrequests
    exact ⟨hrequests, profile, hsession, hid, (hloaded profile hsession).2.1⟩

end Scene

end WorksheetBar
