import WorksheetBar.Number.Binary64

/-!
# JSON values

A JSON value whose objects are lists of members.  Objects built here keep their
members in the order of their names, one member per name, and a later value
replaces an earlier one.

* `Members.get?_insert_self` / `Members.get?_insert_of_ne` — inserting a member
  changes the value of its name and of no other.
-/

namespace WorksheetBar

/-- A JSON number: an integer, or a finite binary64 number. -/
inductive Json.Number where
  | int (value : Int)
  | real (value : Binary64)
  deriving DecidableEq, Repr

/-- A JSON value. -/
inductive Json where
  | null
  | bool (value : Bool)
  | number (value : Json.Number)
  | string (value : String)
  | array (items : List Json)
  | object (members : List (String × Json))
  deriving Repr, Inhabited

namespace Json

/-- The members of an object. -/
abbrev Members := List (String × Json)

namespace Members

/-- The value of the first member with the given name. -/
def get? (members : Members) (name : String) : Option Json :=
  members.lookup name

/-- Puts a member in its place by name, over any member of that name. -/
def insert (members : Members) (name : String) (value : Json) : Members :=
  match members with
  | [] => [(name, value)]
  | (key, old) :: rest =>
    if name = key then (name, value) :: rest
    else if name < key then (name, value) :: (key, old) :: rest
    else (key, old) :: insert rest name value

/-- Members in the order of their names, the last value of each name. -/
def ofList (members : List (String × Json)) : Members :=
  members.foldl (fun sorted (name, value) => insert sorted name value) []

@[simp] theorem get?_nil (name : String) : get? [] name = none := rfl

theorem get?_cons (key : String) (value : Json) (rest : Members) (name : String) :
    get? ((key, value) :: rest) name = if name = key then some value else get? rest name := by
  by_cases h : name = key
  · simp [get?, h]
  · have differs : (name == key) = false := by simpa using h
    simp [get?, List.lookup_cons, differs, h]

@[simp] theorem get?_insert_self (members : Members) (name : String) (value : Json) :
    (members.insert name value).get? name = some value := by
  induction members with
  | nil => simp [insert, get?_cons]
  | cons head rest ih =>
      obtain ⟨key, old⟩ := head
      simp only [insert]
      split
      · simp [get?_cons]
      · split
        · simp [get?_cons]
        · rw [get?_cons]
          simp [*]

/-- Inserting leaves other names alone. -/
theorem get?_insert_of_ne (members : Members) {name other : String} (value : Json)
    (h : other ≠ name) : (members.insert name value).get? other = members.get? other := by
  induction members with
  | nil => simp [insert, get?_cons, h]
  | cons head rest ih =>
      obtain ⟨key, old⟩ := head
      simp only [insert]
      split
      · subst_vars
        simp [get?_cons, h]
      · split
        · rw [get?_cons]
          simp [h]
        · rw [get?_cons, get?_cons, ih]

end Members

/-- The text of a string value. -/
def string? : Json → Option String
  | string value => some value
  | _ => none

/-- An object with the given members, in the order of their names. -/
def ofMembers (members : List (String × Json)) : Json :=
  object (Members.ofList members)

/-- A natural number as a value. -/
def ofNat (n : Nat) : Json := number (.int n)

end Json

end WorksheetBar
