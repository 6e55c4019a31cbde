import WorksheetBar.Json.Basic

/-!
# The profile of the signed-in user

A profile is the identity of the user, the name to show, and whatever else the
service said.  The identity is always among the attributes too, over anything the
service put there under that name.

* `get?_userId` — the identity is found among the attributes;
* `get?_of_ne` — every other attribute is as it was given.
-/

namespace WorksheetBar

/-- A user as the service describes them. -/
structure Profile where
  userId : String
  userName : String
  attributes : Json.Members
  deriving Repr

namespace Profile

/-- The attribute that repeats the identity. -/
def userIdKey : String := "user_id"

/-- The attribute that holds the name to show. -/
def userNameKey : String := "user_name"

/-- A profile whose attributes repeat the identity. -/
def of (userId userName : String) (attributes : Json.Members) : Profile :=
  ⟨userId, userName, attributes.insert userIdKey (.string userId)⟩

/-- The attribute with the given name. -/
def attribute? (profile : Profile) (name : String) : Option Json :=
  profile.attributes.get? name

/-- The identity of a profile is among its attributes. -/
@[simp] theorem get?_userId (userId userName : String) (attributes : Json.Members) :
    (of userId userName attributes).attribute? userIdKey = some (.string userId) :=
  Json.Members.get?_insert_self ..

/-- All other attributes are those that were given. -/
theorem get?_of_ne (userId userName : String) (attributes : Json.Members) {name : String}
    (h : name ≠ userIdKey) :
    (of userId userName attributes).attribute? name = attributes.get? name :=
  Json.Members.get?_insert_of_ne _ _ h

end Profile

/-- Why there is no profile: the request did not get through, the service
refused it, or its answer is not a profile. -/
inductive FetchError where
  | transport (reason : String)
  | status (code : UInt16)
  | malformed (reason : String)
  deriving DecidableEq, Repr

/-- The wording of a fetch error. -/
def FetchError.message : FetchError → String
  | transport reason => "transport error: " ++ reason
  | status code => "server responded with status " ++ toString code
  | malformed reason => "malformed profile response: " ++ reason

end WorksheetBar
