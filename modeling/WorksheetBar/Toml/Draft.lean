import WorksheetBar.Toml.Basic

/-!
# Putting a document together

A document is read line by line.  A header opens a table, the lines under it fill it,
and it takes its place in the document when the next header or the end is reached.
Nothing may be said twice: a name has one value and a table one header, but a table
that was only named on the way to another may still get its own.
-/

namespace WorksheetBar.Toml

/-- A change of a table that also yields something, if it is allowed. -/
abbrev Change (α : Type) := Origin → Table → Option (Table × α)

/-- Whether a path may pass through a table.  A dotted key passes only through tables
without a header of their own, and nothing gets into braces from outside. -/
def Origin.letsThrough (isDotted : Bool) : Origin → Bool
  | header => !isDotted
  | implied | dotted => true
  | inline => false

/-- Changes the table that an item is, or the last of an array of tables. -/
def changeInside (isDotted : Bool) (change : Change α) : Item → Option (Item × α)
  | .table origin start table =>
    if origin.letsThrough isDotted then
      (change origin table).map fun (table, result) => (.table origin start table, result)
    else none
  | .tables start items =>
    match items.getLast? with
    | some (.table origin own table) =>
      (change origin table).map fun (table, result) =>
        (.tables start (items.dropLast ++ [.table origin own table]), result)
    | _ => none
  | _ => none

/-- Changes the table at the end of a path.  Tables that are missing on the way are
made. -/
def changeAt (isDotted : Bool) (change : Change α) : List Key → Change α
  | [] => change
  | key :: path => fun _ table =>
    match Table.get? table key.name with
    | none =>
      let origin := if isDotted then Origin.dotted else .implied
      (changeAt isDotted change path origin []).map fun (made, result) =>
        (table ++ [(key, .table origin none made)], result)
    | some item =>
      (changeInside isDotted (changeAt isDotted change path) item).map
        fun (changed, result) => (Table.replace table key.name changed, result)

/-- Gives a value to a name, at the end of the path in front of it.  A table with dots
on the way to it is filled by dotted keys only, and any other by plain ones only. -/
def put? (path : List Key) (key : Key) (item : Item) (origin : Origin) (table : Table) :
    Option Table :=
  let change : Change Unit := fun origin table =>
    if (origin == .dotted) == path.isEmpty then none
    else if (Table.get? table key.name).isSome then none
    else some (table ++ [(key, item)], ())
  (changeAt true change path origin table).map Prod.fst

/-- A header: the path to its table and the last key, whether it opens one of an array
of tables, and where it begins. -/
structure Header where
  path : List Key
  key : Key
  isArray : Bool
  start : Nat

/-- A document while it is read: what is in place, the header that is open, and the
table under it. -/
structure Draft where
  root : Table := []
  header : Option Header := none
  table : Table := []

namespace Draft

/-- Puts the open table in its place. -/
def close? (draft : Draft) : Option Table :=
  match draft.header with
  | none => some draft.table
  | some header =>
    let item : Item := .table .header (some header.start) draft.table
    let change : Change Unit := fun _ table =>
      if header.isArray then
        match Table.get? table header.key.name with
        | none => some (table ++ [(header.key, .tables header.start [item])], ())
        | some (.tables start items) =>
          some (Table.replace table header.key.name (.tables start (items ++ [item])), ())
        | some _ => none
      else if (Table.get? table header.key.name).isSome then none
      else some (table ++ [(header.key, item)], ())
    (changeAt false change header.path .header draft.root).map Prod.fst

/-- Takes a table that was only named so far out of its place, with what is in it. -/
def claim (header : Header) : Change Table := fun _ table =>
  match Table.get? table header.key.name with
  | none => some (table, [])
  | some item =>
    if header.isArray then
      match item with
      | .tables _ _ => some (table, [])
      | _ => none
    else
      match item with
      | .table .implied _ inside => some (Table.erase table header.key.name, inside)
      | _ => none

/-- Opens the table of a header. -/
def openTable? (draft : Draft) (header : Header) : Option Draft := do
  let root ← draft.close?
  let (root, table) ← changeAt false (claim header) header.path .header root
  some ⟨root, some header, table⟩

/-- Takes in a line that gives a value to a key. -/
def assign? (draft : Draft) (path : List Key) (key : Key) (item : Item) : Option Draft :=
  (put? path key item .header draft.table).map fun table => { draft with table := table }

end Draft

end WorksheetBar.Toml
