import WorksheetBar.Http.Exchange
import WorksheetBar.Profile.Envelope

/-!
# Fetching a profile

What an answer to a request for a profile means.  Only a success is looked into: its body
has to be an envelope, and the attributes of the resource in it have to give the name of
the user.

* `ofResource_userId` — a profile has the identity of the resource it was made of;
* `ofResponse_eq_ok_iff` — there is a profile exactly if the request was a success
  and its body holds one.
-/

namespace WorksheetBar.Profile

/-- The profile a resource describes; it needs a name to show. -/
def ofResource (resource : Envelope.Resource) : Except FetchError Profile :=
  match (resource.attributes.get? userNameKey).bind Json.string? with
  | some userName => .ok (of resource.id userName resource.attributes)
  | none => .error (.malformed "missing string `attributes.user_name`")

/-- The profile in the bytes of an answer. -/
def ofBody (body : List UInt8) : Except FetchError Profile :=
  let pieces := Text.Utf8.pieces body
  match (Json.Document.ofPieces pieces).read (Envelope.envelopeOf Json.depthLimit) with
  | .ok resource => ofResource resource
  | .error fault => .error (.malformed (fault.message pieces))

/-- A profile has the identity of its resource. -/
@[simp] theorem ofResource_userId {resource : Envelope.Resource} {profile : Profile}
    (h : ofResource resource = .ok profile) : profile.userId = resource.id := by
  unfold ofResource at h
  split at h
  · cases h
    rfl
  · cases h

/-- The profile in an answer. -/
def ofResponse (response : Http.Response) : Except FetchError Profile :=
  if response.isSuccess then ofBody response.body else .error (.status response.status)

/-- What a request came to: a profile or an error, unless whoever waited for it has
died. -/
def ofReply? : Http.Reply → Option (Except FetchError Profile)
  | .answered response => some (ofResponse response)
  | .failed reason => some (.error (.transport reason))
  | .died => none

/-- **A response holds a profile exactly if it is a success and its body holds one.** -/
theorem ofResponse_eq_ok_iff {response : Http.Response} {profile : Profile} :
    ofResponse response = .ok profile ↔
      response.isSuccess = true ∧ ofBody response.body = .ok profile := by
  unfold ofResponse
  split <;> simp_all

end WorksheetBar.Profile
