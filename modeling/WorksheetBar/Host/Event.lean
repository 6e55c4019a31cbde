import WorksheetBar.Http.Exchange
import WorksheetBar.Journal

/-!
# What a host does that can be seen

An event is something a host reports: a level, a message and named fields.  A
happening is anything it does that someone outside can notice.  A host keeps all of
them in one list, in the order in which they came about.

* `relayed_fields` — a journal entry is reported under its own level and message,
  with its topic as the only field.
-/

namespace WorksheetBar.Host

/-- What a host reports. -/
inductive Event where
  | relayed (entry : Journal.Entry)
  | fetching (path : String)
  | navigating (path : String)
  | signingOut
  | dispatching (command : String)
  | accepted (command : String)
  | refused (command error : String)
  /-- A task that was waited for has died.  It can only have panicked: nobody cancels a
  task while the host is there to wait for it. -/
  | taskFailed
  | answerUnwanted (ticket : Nat)
  | tokenDropped
  | navigationRequested (path : String)
  | enterConsumed
  deriving DecidableEq, Repr

namespace Event

/-- How serious an event is. -/
def level : Event → Journal.Level
  | relayed entry => entry.level
  | fetching _ | answerUnwanted _ => .debug
  | navigating _ | signingOut | dispatching _ | accepted _ | tokenDropped
  | navigationRequested _ => .info
  | refused _ _ => .warn
  | taskFailed => .error
  | enterConsumed => .trace

/-- The message of an event. -/
def message : Event → String
  | relayed entry => entry.message
  | fetching _ => "fetching user profile"
  | navigating _ => "navigating"
  | signingOut => "signing out"
  | dispatching _ => "dispatching command"
  | accepted _ => "command accepted"
  | refused _ _ => "command dispatch failed"
  | taskFailed => "shell background task failed"
  | answerUnwanted _ => "shell dropped before profile response arrived"
  | tokenDropped => "session token dropped"
  | navigationRequested _ => "navigation requested"
  | enterConsumed => "enter consumed by name field"

/-- The named fields of an event. -/
def fields : Event → List (String × String)
  | relayed entry => [("source", entry.topic.label)]
  | fetching path | navigating path | navigationRequested path => [("path", path)]
  | signingOut | tokenDropped | enterConsumed => []
  | dispatching command | accepted command => [("command", command)]
  | refused command error => [("command", command), ("error", error)]
  | taskFailed => [("error", "task panicked")]
  | answerUnwanted ticket => [("ticket", toString ticket)]

/-- An entry that is relayed keeps its level and its message, and its topic becomes a field. -/
theorem relayed_fields (entry : Journal.Entry) :
    (relayed entry).level = entry.level ∧ (relayed entry).message = entry.message ∧
      (relayed entry).fields = [("source", entry.topic.label)] :=
  ⟨rfl, rfl, rfl⟩

end Event

/-- What someone outside can notice. -/
inductive Happening where
  | reported (event : Event)
  | requested (request : Http.Request)
  | navigated (path : String)
  | signedOut
  deriving Repr

namespace Happening

/-- The event of a report. -/
def event? : Happening → Option Event
  | reported event => some event
  | requested _ | navigated _ | signedOut => none

/-- The request that was made. -/
def request? : Happening → Option Http.Request
  | requested request => some request
  | reported _ | navigated _ | signedOut => none

/-- The destination that was gone to. -/
def path? : Happening → Option String
  | navigated path => some path
  | reported _ | requested _ | signedOut => none

/-- Whether the session was ended. -/
def isSignOut : Happening → Bool
  | signedOut => true
  | reported _ | requested _ | navigated _ => false

end Happening

end WorksheetBar.Host
