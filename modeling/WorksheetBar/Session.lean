import WorksheetBar.Profile

/-!
# The session

What the bar knows about the signed-in user.  Every request for a profile carries
a ticket; an answer counts only if its ticket is the one the session waits for.
-/

namespace WorksheetBar

/-- The number of a request for a profile.  It is counted without an end: no run gets so far
that a word of 64 bits would not do, which would take 2 ^ 64 - 1 requests. -/
structure Ticket where
  number : Nat
  deriving DecidableEq, Repr

/-- What is known about the user: nothing yet, a profile under way, a profile, or
that there is none to be had. -/
inductive Session where
  | notLoaded
  | loading (ticket : Ticket)
  | loaded (profile : Profile)
  | failed
  deriving Repr

namespace Session

/-- The name of the state a session is in. -/
def label : Session → String
  | notLoaded => "not-loaded"
  | loading _ => "loading"
  | loaded _ => "loaded"
  | failed => "fetch-failed"

/-- The ticket a session waits for. -/
def ticket? : Session → Option Ticket
  | loading ticket => some ticket
  | notLoaded | loaded _ | failed => none

/-- The profile a session holds. -/
def profile? : Session → Option Profile
  | loaded profile => some profile
  | notLoaded | loading _ | failed => none

/-- The name of the user, once it is known. -/
def userName? (session : Session) : Option String := session.profile?.map Profile.userName

/-- Whether nothing has been asked for. -/
def isNotLoaded : Session → Bool
  | notLoaded => true
  | loading _ | loaded _ | failed => false

/-- A session has a ticket exactly while it is loading under it. -/
@[simp] theorem ticket?_eq_some {session : Session} {ticket : Ticket} :
    session.ticket? = some ticket ↔ session = loading ticket := by
  cases session <;> simp [ticket?]

end Session

end WorksheetBar
