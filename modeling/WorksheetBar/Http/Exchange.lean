import WorksheetBar.Json.Basic

/-!
# Requests and answers

What the bar asks of the service, as far as the service is concerned, and what can
become of a request: an answer, a failure on the way, or nothing at all because
whoever waited for it has died.

* `isSuccess_iff` — an answer is a success exactly when its status is one of 200 to
  299.
-/

namespace WorksheetBar.Http

/-- An answer of the service. -/
structure Response where
  status : UInt16
  body : List UInt8 := []
  deriving DecidableEq, Repr

/-- Whether the service did what it was asked. -/
def Response.isSuccess (response : Response) : Bool :=
  200 ≤ response.status && response.status < 300

/-- What becomes of a request. -/
inductive Reply where
  | answered (response : Response)
  | failed (reason : String)
  | died
  deriving DecidableEq, Repr

/-- A request by its path, and its body if it carries one. -/
inductive Request where
  | get (path : String)
  | post (path : String) (body : Json)
  deriving Repr

/-- The service behind the bar: what becomes of the `n`-th request of each kind,
counted from zero. -/
structure Backend where
  get : Nat → String → Reply
  post : Nat → String → Json → Reply

/-- A success is a status from 200 to 299. -/
theorem Response.isSuccess_iff {response : Response} :
    response.isSuccess = true ↔
      200 ≤ response.status.toNat ∧ response.status.toNat < 300 := by
  simp [isSuccess, UInt16.le_iff_toNat_le, UInt16.lt_iff_toNat_lt]

end WorksheetBar.Http
