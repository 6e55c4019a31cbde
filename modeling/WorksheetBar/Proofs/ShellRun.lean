import Mathlib.Data.List.Induction
import WorksheetBar.Proofs.Errand

/-!
# Runs of a shell

A run starts from a fresh shell and takes a step for each action of a list, whatever
the actions are and in whatever order: an answer may come twice, late, or under a
ticket that nobody ever issued.

* `run_errand_sound` — along every run the errand stays sound;
* `run_numbered` — the tickets of a run are 1, 2, 3, … in the order of issue;
* `no_fetch_lost` — a mounted shell with a signed-in user has always asked for a
  profile, and a step asks exactly if it moves the session to waiting for a new ticket.
-/

namespace WorksheetBar.Shell

/-- The shell after some actions. -/
def run (shell : Shell) (actions : List Action) : Shell :=
  actions.foldl (fun shell action => (shell.step action).1) shell

/-- All that some actions ask of the host, in order. -/
def effects (shell : Shell) : List Action → List Effect
  | [] => []
  | action :: rest => (shell.step action).2 ++ effects (shell.step action).1 rest

/-- The tickets issued along some actions, in order. -/
def issued (shell : Shell) (actions : List Action) : List Ticket :=
  Effect.tickets (shell.effects actions)

variable (shell : Shell)

@[simp] theorem run_nil : shell.run [] = shell := rfl

theorem run_append (first second : List Action) :
    shell.run (first ++ second) = (shell.run first).run second := by
  simp [run, List.foldl_append]

@[simp] theorem run_concat (actions : List Action) (action : Action) :
    shell.run (actions ++ [action]) = ((shell.run actions).step action).1 := by
  simp [run, List.foldl_append]

theorem run_config (actions : List Action) :
    (shell.run actions).config = shell.config := by
  induction actions using List.reverseRecOn with
  | nil => rfl
  | append_singleton actions action ih =>
      rw [run_concat, step_config]
      exact ih

/-- One more action of a run is one more step. -/
theorem run_take_succ {shell : Shell} {actions : List Action} {action : Action}
    {k : Nat} (hget : actions[k]? = some action) :
    shell.run (actions.take (k + 1)) = ((shell.run (actions.take k)).step action).1 := by
  rw [List.take_add_one, hget, Option.toList_some, run_concat]

/-- What every step of a stretch of the run keeps holds at its end. -/
theorem run_of_le {shell : Shell} {P : Shell → Prop} {actions : List Action} {i j : Nat}
    (hij : i ≤ j)
    (hstep : ∀ k action, i ≤ k → k < j → actions[k]? = some action →
      P (shell.run (actions.take k)) → P (shell.run (actions.take (k + 1))))
    (h : P (shell.run (actions.take i))) : P (shell.run (actions.take j)) := by
  induction hij with
  | refl => exact h
  | @step j hij ih =>
      have hbefore := ih fun k action hik hkj => hstep k action hik (Nat.lt_succ_of_lt hkj)
      cases hget : actions[j]? with
      | some action => exact hstep j action hij (Nat.lt_succ_self j) hget hbefore
      | none =>
          -- the run is over, so there is no step to take
          have hend : actions.length ≤ j := List.getElem?_eq_none_iff.mp hget
          rw [List.take_of_length_le (Nat.le_succ_of_le hend)]
          rwa [List.take_of_length_le hend] at hbefore

/-- What does not hold at first and holds in the end begins to hold at some step, and holds
from then on. -/
theorem exists_begins {P : Shell → Prop} {shell : Shell} {actions : List Action} {k : Nat}
    (hstart : ¬ P shell) (h : P (shell.run (actions.take k))) :
    ∃ o < k, ∃ action, actions[o]? = some action ∧ ¬ P (shell.run (actions.take o)) ∧
      ∀ j, o < j → j ≤ k → P (shell.run (actions.take j)) := by
  induction k with
  | zero => exact absurd h hstart
  | succ k ih =>
      have hlast : ∀ j, k < j → j ≤ k + 1 → P (shell.run (actions.take j)) := by
        intro j hkj hj
        obtain rfl : j = k + 1 := by omega
        exact h
      by_cases hbefore : P (shell.run (actions.take k))
      · obtain ⟨o, hok, action, hget, hnot, hsince⟩ := ih hbefore
        refine ⟨o, Nat.lt_succ_of_lt hok, action, hget, hnot, ?_⟩
        intro j hoj hj
        rcases Nat.lt_or_ge k j with hkj | hjk
        · exact hlast j hkj hj
        · exact hsince j hoj hjk
      · cases hget : actions[k]? with
        | some action => exact ⟨k, Nat.lt_succ_self k, action, hget, hbefore, hlast⟩
        | none =>
            -- no step is left that could have begun it
            have hend : actions.length ≤ k := List.getElem?_eq_none_iff.mp hget
            rw [List.take_of_length_le (Nat.le_succ_of_le hend)] at h
            rw [List.take_of_length_le hend] at hbefore
            exact absurd h hbefore

theorem effects_append (first second : List Action) :
    shell.effects (first ++ second) = shell.effects first ++ (shell.run first).effects second := by
  induction first generalizing shell with
  | nil => rfl
  | cons action rest ih =>
      have hrest := ih (shell.step action).1
      simp only [List.cons_append, effects, hrest, List.append_assoc]
      rfl

@[simp] theorem effects_singleton (action : Action) :
    shell.effects [action] = (shell.step action).2 := by
  simp [effects]

@[simp] theorem issued_nil : shell.issued [] = [] := rfl

@[simp] theorem issued_singleton (action : Action) :
    shell.issued [action] = Effect.tickets (shell.step action).2 := by
  simp [issued, effects]

@[simp] theorem issued_concat (actions : List Action) (action : Action) :
    shell.issued (actions ++ [action]) =
      shell.issued actions ++ Effect.tickets ((shell.run actions).step action).2 := by
  simp [issued, effects_append, effects]

/-- A step of a run is a turn of its errand. -/
theorem run_turn (actions : List Action) (action : Action) :
    Errand.Turn (shell.run actions).errand action (shell.run (actions ++ [action])).errand
      (Effect.tickets ((shell.run actions).step action).2) := by
  rw [run_concat]
  exact step_turn (shell.run actions) action

/-- At the start nothing is asked for, as the shell is not mounted. -/
theorem fresh_errand_sound (config : Config) (signedIn : Bool) :
    (fresh config signedIn).errand.Sound :=
  ⟨by simp [fresh, errand], by simp [fresh, errand]⟩

/-- **Along every run the errand stays sound.** -/
theorem run_errand_sound (config : Config) (signedIn : Bool) (actions : List Action) :
    ((fresh config signedIn).run actions).errand.Sound := by
  induction actions using List.reverseRecOn with
  | nil => exact fresh_errand_sound config signedIn
  | append_singleton actions action ih =>
      exact (run_turn (fresh config signedIn) actions action).sound ih

/-- What holds of the tickets of a run: they are numbered from one without a gap, the
counter stands behind the last of them, and a ticket that is waited for is one of them. -/
structure Numbered (shell : Shell) (issued : List Ticket) : Prop where
  range : issued = (List.range' 1 issued.length).map Ticket.mk
  next : shell.nextTicket = 1 + issued.length
  pending : ∀ ticket, shell.session = .loading ticket → ticket ∈ issued

/-- **A step keeps the tickets numbered**: it issues the next one or none. -/
theorem Numbered.step {shell : Shell} {issued : List Ticket} (h : shell.Numbered issued)
    (action : Action) :
    (shell.step action).1.Numbered (issued ++ Effect.tickets (shell.step action).2) := by
  obtain ⟨hrange, hnext, hpending⟩ := h
  rcases (step_turn shell action).tickets_eq with ⟨hnone, hsame, hold⟩ | ⟨hone, hmoved, hnew⟩
  · rw [hnone, List.append_nil]
    refine ⟨hrange, ?_, fun ticket hloading => hpending ticket (hold ticket hloading)⟩
    exact hsame.trans hnext
  · have hticket : (shell.errand.nextTicket : Nat) = 1 + issued.length := hnext
    rw [hone]
    refine ⟨?_, ?_, ?_⟩
    · rw [List.length_append, List.length_singleton, List.range'_1_concat, List.map_append,
        ← hrange, hticket]
      rfl
    · have hcount : (shell.step action).1.nextTicket = 1 + issued.length + 1 :=
        hmoved.trans (congrArg (· + 1) hticket)
      rw [hcount, List.length_append, List.length_singleton, Nat.add_assoc]
    · intro ticket hloading
      have heq := hnew.symm.trans hloading
      cases heq
      simp

/-- **The tickets of a run are 1, 2, 3, … in the order of issue.** -/
theorem run_numbered (config : Config) (signedIn : Bool) (actions : List Action) :
    ((fresh config signedIn).run actions).Numbered ((fresh config signedIn).issued actions) := by
  induction actions using List.reverseRecOn with
  | nil => exact ⟨rfl, rfl, by simp [fresh]⟩
  | append_singleton actions action ih =>
      rw [run_concat, issued_concat]
      exact ih.step action

/-- A step asks under no ticket that was issued before. -/
theorem Numbered.not_mem_of_asks {shell : Shell} {issued : List Ticket} {action : Action}
    {ticket : Ticket} (h : shell.Numbered issued)
    (hasks : ticket ∈ Effect.tickets (shell.step action).2) : ticket ∉ issued := by
  rcases (step_turn shell action).tickets_eq with ⟨hnone, _, _⟩ | ⟨hone, _, _⟩
  · simp [hnone] at hasks
  · rw [hone] at hasks
    have hticket : ticket = ⟨shell.nextTicket⟩ := List.mem_singleton.mp hasks
    rw [hticket, h.range, h.next]
    simp

/-- **No fetch is lost and none is made twice.**  After any actions, a mounted shell with
a signed-in user has asked for a profile.  Whatever happens next, the step asks under a
ticket exactly if it moves the session to waiting for a ticket that was not issued
before, it asks at most once, and the tickets issued so far are 1, 2, 3, … in order. -/
theorem no_fetch_lost (config : Config) (signedIn : Bool) (actions : List Action) :
    let shell := (fresh config signedIn).run actions
    let issued := (fresh config signedIn).issued actions
    ¬ (shell.mounted = true ∧ shell.signedIn = true ∧ shell.session = .notLoaded) ∧
    (∀ action ticket, Effect.fetchProfile ticket ∈ (shell.step action).2 ↔
      shell.session ≠ .loading ticket ∧ (shell.step action).1.session = .loading ticket ∧
        ticket ∉ issued) ∧
    (∀ action, (Effect.tickets (shell.step action).2).length ≤ 1) ∧
    issued = (List.range' 1 issued.length).map Ticket.mk := by
  intro shell issued
  have hnumbered : shell.Numbered issued := run_numbered config signedIn actions
  refine ⟨(run_errand_sound config signedIn actions).asked, ?_, ?_, hnumbered.range⟩
  · intro action ticket
    rw [← Effect.mem_tickets]
    have hfresh : ticket ∈ Effect.tickets (shell.step action).2 → ticket ∉ issued :=
      hnumbered.not_mem_of_asks
    rcases (step_turn shell action).tickets_eq with ⟨hnone, _, hold⟩ | ⟨hone, _, hnew⟩
    · rw [hnone]
      constructor
      · simp
      · rintro ⟨hbefore, hafter, _⟩
        exact absurd (hold ticket hafter) hbefore
    · rw [hone, List.mem_singleton] at hfresh ⊢
      constructor
      · rintro rfl
        have hunissued := hfresh rfl
        exact ⟨fun hloading => hunissued (hnumbered.pending _ hloading), hnew, hunissued⟩
      · rintro ⟨_, hafter, _⟩
        have heq := hafter.symm.trans hnew
        cases heq
        rfl
  · intro action
    rcases (step_turn shell action).tickets_eq with ⟨hnone, _, _⟩ | ⟨hone, _, _⟩
    · simp [hnone]
    · simp [hone]

end WorksheetBar.Shell
