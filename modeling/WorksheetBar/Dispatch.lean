import WorksheetBar.Http.Exchange

/-!
# Sending a command

A command is posted as an object with the command text as its only member.  The
answer is not looked into; it only says whether the command was taken.

* `ofResponse_eq_ok_iff` — a command was taken exactly if the request was a success.
-/

namespace WorksheetBar.Dispatch

/-- Why a command was not taken. -/
inductive Error where
  | transport (reason : String)
  | status (code : UInt16)
  deriving DecidableEq, Repr

/-- The wording of an error. -/
def Error.message : Error → String
  | transport reason => "transport error: " ++ reason
  | status code => "command service responded with status " ++ toString code

/-- The body in which a command is sent. -/
def body (command : String) : Json := .object [("command", .string command)]

/-- What an answer means for a command. -/
def ofResponse (response : Http.Response) : Except Error Unit :=
  if response.isSuccess then .ok () else .error (.status response.status)

/-- What a request came to, unless whoever waited for it has died. -/
def ofReply? : Http.Reply → Option (Except Error Unit)
  | .answered response => some (ofResponse response)
  | .failed reason => some (.error (.transport reason))
  | .died => none

/-- **A command is accepted exactly if the response is a success.** -/
theorem ofResponse_eq_ok_iff {response : Http.Response} :
    ofResponse response = .ok () ↔ response.isSuccess = true := by
  unfold ofResponse
  split <;> simp_all

end WorksheetBar.Dispatch
