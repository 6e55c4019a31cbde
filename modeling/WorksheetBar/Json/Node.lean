import WorksheetBar.Json.Basic
import WorksheetBar.Json.Fault

/-!
# A document as far as it goes

Reading a document and making sense of it are two steps.  The first yields a
tree of everything that could be read, in document order, which breaks off where
the document does.  The second goes over that tree from left to right and stops
at the first thing it cannot use, so a document with several faults is always
reported by the first one that matters to whoever reads it.

There are two ways to go over a tree.  *Decoding* makes a value and checks
everything.  *Skipping* only finds the end of a value: it does not mind what a
string holds, how large a number is or how deep arrays are nested, and it says
less about a misplaced comma.

* `Node.decode` — the value of a node;
* `Node.skip` — whether a node can be passed over;
* `Document.toJson` — the value of a whole document.
-/

namespace WorksheetBar.Json

/-- A token: what it decodes to, whether it can be skipped, and where it ends. -/
structure Reading (α : Type) where
  decoded : Except Fault α
  skipped : Option Fault := none
  stop : Nat

/-- Why an array or object does not go on where an item or its end is due. -/
inductive Cut where
  | unclosed
  | unclosedAfterComma
  | danglingComma
  | noComma
  | noKey
  deriving DecidableEq, Repr

namespace Cut

/-- What decoding the items of an array says. -/
def inArray : Cut → Cause
  | unclosed => .eofInArray
  | unclosedAfterComma => .eofInValue
  | danglingComma => .trailingComma
  | noComma | noKey => .expectedArrayEnd

/-- What skipping the items of an array says: after a comma it looks for a value. -/
def skippedInArray : Cut → Cause
  | unclosed => .eofInArray
  | unclosedAfterComma => .eofInValue
  | danglingComma => .expectedValue
  | noComma | noKey => .expectedArrayEnd

/-- What is said where an array should have ended. -/
def atArrayEnd : Cut → Cause
  | unclosed => .eofInArray
  | danglingComma => .trailingComma
  | unclosedAfterComma | noComma | noKey => .trailingCharacters

/-- What decoding the members of an object says. -/
def inObject : Cut → Cause
  | unclosed => .eofInObject
  | unclosedAfterComma => .eofInValue
  | danglingComma => .trailingComma
  | noComma => .expectedObjectEnd
  | noKey => .keyNotString

/-- What skipping the members of an object says: after a comma it looks for a key. -/
def skippedInObject : Cut → Cause
  | unclosed | unclosedAfterComma => .eofInObject
  | danglingComma | noKey => .keyNotString
  | noComma => .expectedObjectEnd

end Cut

mutual

/-- A value, or the fault at the place where one is due.  Arrays and objects
carry the place of their opening bracket. -/
inductive Node where
  | null (stop : Nat)
  | bool (value : Bool) (stop : Nat)
  | number (reading : Reading Number)
  | string (reading : Reading String)
  | array (start : Nat) (items : Items)
  | object (start : Nat) (members : Fields)
  | broken (fault : Fault)

/-- The items of an array from some point on.  A last item is one that breaks
off, so nothing follows it. -/
inductive Items where
  | closed (stop : Nat)
  | cut (offset : Nat) (how : Cut)
  | last (start : Nat) (item : Node)
  | cons (start : Nat) (item : Node) (rest : Items)

/-- The members of an object from some point on.  Each carries the place at which
a reader that gives up after the key stops. -/
inductive Fields where
  | closed (stop : Nat)
  | cut (offset : Nat) (how : Cut)
  | lastKey (key : Reading String)
  | noColon (key : Reading String) (resume : Nat) (fault : Fault)
  | last (key : Reading String) (resume : Nat) (value : Node)
  | cons (key : Reading String) (resume : Nat) (value : Node) (rest : Fields)

end

/-- A document: its value, and the place of the first thing behind it, if there
is one. -/
structure Document where
  root : Node
  trailing : Option Nat

mutual

/-- The value of a node, with room for so many nested arrays and objects less one. -/
def Node.decode (room : Nat) : Node → Except Fault Json
  | .null _ => .ok .null
  | .bool value _ => .ok (.bool value)
  | .number reading => reading.decoded.map .number
  | .string reading => reading.decoded.map .string
  | .array start items =>
    if room ≤ 1 then .error ⟨.tooDeep, start + 1⟩
    else (items.decode (room - 1)).map .array
  | .object start members =>
    if room ≤ 1 then .error ⟨.tooDeep, start + 1⟩
    else (members.decode (room - 1)).map .ofMembers
  | .broken fault => .error fault

/-- The values of the items. -/
def Items.decode (room : Nat) : Items → Except Fault (List Json)
  | .closed _ => .ok []
  | .cut offset how => .error ⟨how.inArray, offset⟩
  | .last _ item => (item.decode room).map fun value => [value]
  | .cons _ item rest =>
    match item.decode room with
    | .error fault => .error fault
    | .ok value => (rest.decode room).map (value :: ·)

/-- The members with their values, in document order. -/
def Fields.decode (room : Nat) : Fields → Except Fault (List (String × Json))
  | .closed _ => .ok []
  | .cut offset how => .error ⟨how.inObject, offset⟩
  | .lastKey key => key.decoded.map fun _ => []
  | .noColon key _ fault =>
    match key.decoded with
    | .error fault => .error fault
    | .ok _ => .error fault
  | .last key _ value =>
    match key.decoded with
    | .error fault => .error fault
    | .ok name => (value.decode room).map fun value => [(name, value)]
  | .cons key _ value rest =>
    match key.decoded with
    | .error fault => .error fault
    | .ok name =>
      match value.decode room with
      | .error fault => .error fault
      | .ok value => (rest.decode room).map ((name, value) :: ·)

end

mutual

/-- The fault that keeps a node from being passed over. -/
def Node.skip : Node → Option Fault
  | .null _ | .bool _ _ => none
  | .number reading => reading.skipped
  | .string reading => reading.skipped
  | .array _ items => items.skip
  | .object _ members => members.skip
  | .broken fault => some fault

/-- The fault that keeps the items from being passed over. -/
def Items.skip : Items → Option Fault
  | .closed _ => none
  | .cut offset how => some ⟨how.skippedInArray, offset⟩
  | .last _ item => item.skip
  | .cons _ item rest => item.skip.or rest.skip

/-- The fault that keeps the members from being passed over. -/
def Fields.skip : Fields → Option Fault
  | .closed _ => none
  | .cut offset how => some ⟨how.skippedInObject, offset⟩
  | .lastKey key => key.skipped
  | .noColon key _ fault => some (key.skipped.getD fault)
  | .last key _ value => key.skipped.or value.skip
  | .cons key _ value rest => (key.skipped.or value.skip).or rest.skip

end

/-- The fault of items that should have ended here: an array of fixed length has
nothing behind its last item. -/
def Items.atEnd : Items → Option Fault
  | .closed _ => none
  | .cut offset how => some ⟨how.atArrayEnd, offset⟩
  | .last start _ | .cons start _ _ => some ⟨.trailingCharacters, start + 1⟩

/-- How deep a document may nest arrays and objects, plus one. -/
def depthLimit : Nat := 128

/-- What a reader of the root makes of a document: its own answer, unless
something follows the value. -/
def Document.read (document : Document) (reader : Node → Except Fault α) : Except Fault α :=
  match reader document.root with
  | .error fault => .error fault
  | .ok value =>
    match document.trailing with
    | none => .ok value
    | some offset => .error ⟨.trailingCharacters, offset⟩

/-- The value of a whole document. -/
def Document.toJson (document : Document) : Except Fault Json :=
  document.read (Node.decode depthLimit)

end WorksheetBar.Json
