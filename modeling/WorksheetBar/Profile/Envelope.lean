import WorksheetBar.Json.Reader
import WorksheetBar.Json.Printer
import WorksheetBar.Profile
import WorksheetBar.Text.Quoted

/-!
# The envelope a profile arrives in

The service wraps a profile twice: the answer is an envelope with a member `data`,
and that is a resource with an `id` and `attributes`.  Either may be written as an
array instead, with the values of its fields in this order.  Members of other names
are passed over.

What is wrong with an answer is found from left to right; a missing field is noticed
only behind the closing bracket.
-/

namespace WorksheetBar.Json

/-- The fault of a value that is none of the expected ones.  A scalar is read
before it is refused, an array or object is refused at its bracket. -/
def Node.wrongType (node : Node) (expected : String) : Fault :=
  let refuse (found : String) (offset : Nat) : Fault := ⟨.wrongType found expected, offset⟩
  match node with
  | .null stop => refuse "null" stop
  | .bool value stop => refuse ("boolean \x60" ++ toString value ++ "\x60") stop
  | .number reading =>
    match reading.decoded with
    | .error fault => fault
    | .ok (.int value) => refuse ("integer \x60" ++ toString value ++ "\x60") reading.stop
    | .ok (.real value) =>
      refuse ("floating point \x60" ++ value.text isPlainPoint ++ "\x60") reading.stop
  | .string reading =>
    match reading.decoded with
    | .error fault => fault
    | .ok value => refuse ("string " ++ Text.quoted value) reading.stop
  | .array start _ => refuse "sequence" start
  | .object start _ => refuse "map" start
  | .broken fault => fault

/-- The text of a string node. -/
def Node.asString : Node → Except Fault String
  | .string reading => reading.decoded
  | node => .error (node.wrongType "a string")

/-- The members of an object node, in the order of their names. -/
def Node.asMembers (room : Nat) : Node → Except Fault Members
  | .object start members =>
    if room ≤ 1 then .error ⟨.tooDeep, start + 1⟩
    else (members.decode (room - 1)).map Members.ofList
  | node => .error (node.wrongType "a map")

end WorksheetBar.Json

namespace WorksheetBar.Profile.Envelope

open WorksheetBar.Json (Fault Node Items Fields Members)

/-- What a profile is made of. -/
structure Resource where
  id : String
  attributes : Members := []

/-- A resource while its members are read. -/
structure Partial where
  id : Option String := none
  attributes : Option Members := none

/-- The resource, once its brackets are closed: the attributes may be missing, the
identity may not. -/
def Partial.finish (known : Partial) (stop : Nat) : Except Fault Resource :=
  match known.id with
  | none => .error ⟨.missingField "id", stop⟩
  | some id => .ok ⟨id, known.attributes.getD []⟩

/-- Takes in one member of a resource. -/
def Partial.take (known : Partial) (room : Nat) (name : String) (resume : Nat)
    (value : Node) : Except Fault Partial :=
  if name = "id" then
    if known.id.isSome then .error ⟨.duplicateField name, resume⟩
    else value.asString.map fun id => { known with id := some id }
  else if name = "attributes" then
    if known.attributes.isSome then .error ⟨.duplicateField name, resume⟩
    else (value.asMembers room).map fun members => { known with attributes := some members }
  else
    match value.skip with
    | some fault => .error fault
    | none => .ok known

/-- Reads the members of a resource. -/
def resourceFields (room : Nat) (known : Partial) : Fields → Except Fault Resource
  | .closed stop => known.finish stop
  | .cut offset how => .error ⟨how.inObject, offset⟩
  | .lastKey key => do
    let _ ← key.decoded
    known.finish key.stop
  | .noColon key resume fault => do
    let name ← key.decoded
    let _ ← known.take room name resume (.broken fault)
    .error fault
  | .last key resume value => do
    let name ← key.decoded
    let known ← known.take room name resume value
    known.finish key.stop
  | .cons key resume value rest => do
    let name ← key.decoded
    let known ← known.take room name resume value
    resourceFields room known rest

/-- Takes a value from an array, if the array ends behind it. -/
def closing (value : α) (rest : Items) : Except Fault α :=
  match rest.atEnd with
  | some fault => .error fault
  | none => .ok value

/-- The attributes at the end of a resource that is written as an array; they may
be left out. -/
def resourceAttributes (room : Nat) (id : String) : Items → Except Fault Resource
  | .closed _ => .ok ⟨id, []⟩
  | .cut offset how => .error ⟨how.inArray, offset⟩
  | .last _ item => (item.asMembers room).map fun attributes => ⟨id, attributes⟩
  | .cons _ item rest => do
    let attributes ← item.asMembers room
    closing ⟨id, attributes⟩ rest

/-- Reads a resource that is written as an array. -/
def resourceItems (room : Nat) : Items → Except Fault Resource
  | .closed stop => .error ⟨.wrongLength 0 "struct UserResource with 2 elements", stop⟩
  | .cut offset how => .error ⟨how.inArray, offset⟩
  | .last _ item => item.asString.map fun id => ⟨id, []⟩
  | .cons _ item rest => do
    let id ← item.asString
    resourceAttributes room id rest

/-- Reads a resource. -/
def resourceOf (room : Nat) : Node → Except Fault Resource
  | .array start items =>
    if room ≤ 1 then .error ⟨.tooDeep, start + 1⟩ else resourceItems (room - 1) items
  | .object start members =>
    if room ≤ 1 then .error ⟨.tooDeep, start + 1⟩ else resourceFields (room - 1) {} members
  | node => .error (node.wrongType "struct UserResource")

/-- The resource, once the brackets of the envelope are closed. -/
def finish (data : Option Resource) (stop : Nat) : Except Fault Resource :=
  match data with
  | none => .error ⟨.missingField "data", stop⟩
  | some resource => .ok resource

/-- Takes in one member of an envelope. -/
def take (data : Option Resource) (room : Nat) (name : String) (resume : Nat)
    (value : Node) : Except Fault (Option Resource) :=
  if name = "data" then
    if data.isSome then .error ⟨.duplicateField name, resume⟩
    else (resourceOf room value).map some
  else
    match value.skip with
    | some fault => .error fault
    | none => .ok data

/-- Reads the members of an envelope. -/
def envelopeFields (room : Nat) (data : Option Resource) : Fields → Except Fault Resource
  | .closed stop => finish data stop
  | .cut offset how => .error ⟨how.inObject, offset⟩
  | .lastKey key => do
    let _ ← key.decoded
    finish data key.stop
  | .noColon key resume fault => do
    let name ← key.decoded
    let _ ← take data room name resume (.broken fault)
    .error fault
  | .last key resume value => do
    let name ← key.decoded
    let data ← take data room name resume value
    finish data key.stop
  | .cons key resume value rest => do
    let name ← key.decoded
    let data ← take data room name resume value
    envelopeFields room data rest

/-- Reads an envelope that is written as an array. -/
def envelopeItems (room : Nat) : Items → Except Fault Resource
  | .closed stop => .error ⟨.wrongLength 0 "struct UserEnvelope with 1 element", stop⟩
  | .cut offset how => .error ⟨how.inArray, offset⟩
  | .last _ item => resourceOf room item
  | .cons _ item rest => do
    let resource ← resourceOf room item
    closing resource rest

/-- Reads an envelope. -/
def envelopeOf (room : Nat) : Node → Except Fault Resource
  | .array start items =>
    if room ≤ 1 then .error ⟨.tooDeep, start + 1⟩ else envelopeItems (room - 1) items
  | .object start members =>
    if room ≤ 1 then .error ⟨.tooDeep, start + 1⟩
    else envelopeFields (room - 1) none members
  | node => .error (node.wrongType "struct UserEnvelope")

end WorksheetBar.Profile.Envelope
