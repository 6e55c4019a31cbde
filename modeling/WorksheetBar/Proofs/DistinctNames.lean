import Mathlib.Data.List.Nodup
import WorksheetBar.Toml.Reader

/-!
# Names in a document

A document says nothing twice: at every level the names of a table are all different.  Every
change of a table keeps this.  A new name is only given where it is not there yet, an item that
takes the place of another stands under the same name, and whatever is taken out leaves the rest
as it was.

* `Table.Distinct.append`, `Table.Distinct.replace`, `Table.Distinct.erase` — the three changes of
  a table;
* `Table.get?_eq_of_perm` — what is found does not depend on the order;
* `changeAt_keeps` — a change at the end of a path, with the tables that are made on the way;
* `distinct_of_parse` — so the names of a document are different.
-/

namespace WorksheetBar.Toml

/-- The names of a table. -/
def Table.names (table : Table) : List String := table.map fun entry => entry.1.name

/-- An item all of whose tables have different names. -/
inductive Item.Distinct : Item → Prop
  | string (start : Nat) (value : String) : Distinct (.string start value)
  | integer (start : Nat) (value : Int) : Distinct (.integer start value)
  | float (start : Nat) (value : Float) : Distinct (.float start value)
  | boolean (start : Nat) (value : Bool) : Distinct (.boolean start value)
  | datetime (start : Nat) : Distinct (.datetime start)
  | array (start : Nat) {items : List Item} (items_distinct : ∀ item ∈ items, Distinct item) :
      Distinct (.array start items)
  | tables (start : Nat) {items : List Item} (items_distinct : ∀ item ∈ items, Distinct item) :
      Distinct (.tables start items)
  | table (origin : Origin) (start : Option Nat) {entries : List (Key × Item)}
      (names_nodup : (Table.names entries).Nodup)
      (items_distinct : ∀ entry ∈ entries, Distinct entry.2) :
      Distinct (.table origin start entries)

namespace Table

/-- A table whose names are different, at every level. -/
structure Distinct (table : Table) : Prop where
  names_nodup : table.names.Nodup
  items_distinct : ∀ entry ∈ table, entry.2.Distinct

variable {table : Table} {name : String} {key : Key} {item : Item}

theorem nodup_names_cons : (Table.names ((key, item) :: table)).Nodup ↔
    key.name ∉ Table.names table ∧ (Table.names table).Nodup :=
  List.nodup_cons

/-- Nothing is found under a name exactly if it is not there. -/
theorem get?_eq_none_iff : Table.get? table name = none ↔ name ∉ Table.names table := by
  simp [Table.get?, names]

/-- An item that is found stands in the table, under the name. -/
theorem mem_of_get? (hfound : Table.get? table name = some item) :
    ∃ key : Key, (key, item) ∈ table ∧ key.name = name := by
  obtain ⟨⟨key, other⟩, hfind, rfl⟩ := Option.map_eq_some_iff.mp hfound
  exact ⟨key, List.mem_of_find?_eq_some hfind, by simpa using List.find?_some hfind⟩

/-- Where names are different, whatever stands under a name is found under it. -/
theorem get?_of_mem (hnodup : table.names.Nodup) (hmem : (key, item) ∈ table) :
    Table.get? table key.name = some item := by
  induction table with
  | nil => cases hmem
  | cons entry rest ih =>
      obtain ⟨hnew, hrest⟩ := nodup_names_cons.mp hnodup
      rw [get?_cons]
      rcases List.mem_cons.mp hmem with rfl | hmem
      · rw [if_pos rfl]
      · have hname : key.name ∈ Table.names rest :=
          List.mem_map_of_mem (f := fun entry => entry.1.name) hmem
        have hother : entry.1.name ≠ key.name := fun h => hnew (h ▸ hname)
        rw [if_neg hother]
        exact ih hrest hmem

/-- Where names are different, an item is found under a name exactly if it stands there. -/
theorem get?_eq_some_iff (hnodup : table.names.Nodup) :
    Table.get? table name = some item ↔ ∃ key : Key, (key, item) ∈ table ∧ key.name = name :=
  ⟨mem_of_get?, fun ⟨_, hmem, hname⟩ => hname ▸ get?_of_mem hnodup hmem⟩

/-- What is found under a name does not depend on the order of the names. -/
theorem get?_eq_of_perm {other : Table} (hnodup : table.names.Nodup) (hperm : table.Perm other)
    (name : String) : Table.get? table name = Table.get? other name := by
  have hother : (Table.names other).Nodup := (hperm.map _).nodup_iff.mp hnodup
  ext item
  rw [get?_eq_some_iff hnodup, get?_eq_some_iff hother]
  simp only [hperm.mem_iff]

/-! ## Changes of a table -/

theorem distinct_nil : Table.Distinct [] := ⟨List.nodup_nil, by simp⟩

/-- A table with different names is an item with different names. -/
theorem Distinct.toItem (h : table.Distinct) (origin : Origin) (start : Option Nat) :
    (Item.table origin start table).Distinct :=
  .table origin start h.names_nodup h.items_distinct

/-- An item with different names that is a table has different names. -/
theorem Distinct.ofItem {origin : Origin} {start : Option Nat}
    (h : (Item.table origin start table).Distinct) : table.Distinct := by
  cases h with
  | table _ _ hnames hitems => exact ⟨hnames, hitems⟩

/-- Whatever is found in such a table has different names itself. -/
theorem Distinct.get? (h : table.Distinct) (hfound : Table.get? table name = some item) :
    item.Distinct := by
  obtain ⟨key, hmem, _⟩ := mem_of_get? hfound
  exact h.items_distinct _ hmem

/-- **A new name is given** where it is not there yet. -/
theorem Distinct.append (h : table.Distinct) (hfresh : Table.get? table key.name = none)
    (hitem : item.Distinct) : Table.Distinct (table ++ [(key, item)]) := by
  constructor
  · rw [names, List.map_append, List.map_singleton, ← List.concat_eq_append]
    exact h.names_nodup.concat (get?_eq_none_iff.mp hfresh)
  · rw [List.forall_mem_append, List.forall_mem_singleton]
    exact ⟨h.items_distinct, hitem⟩

/-- Putting another item in the place of one does not change the names. -/
theorem names_replace (table : Table) (name : String) (item : Item) :
    Table.names (table.replace name item) = table.names := by
  rw [names, replace, List.map_map]
  refine List.map_congr_left fun entry _ => ?_
  rw [Function.comp_apply]
  split <;> rfl

/-- **An item takes the place of another.** -/
theorem Distinct.replace (h : table.Distinct) (hitem : item.Distinct) (name : String) :
    Table.Distinct (table.replace name item) := by
  constructor
  · rw [names_replace]
    exact h.names_nodup
  · intro entry hmem
    obtain ⟨old, hold, rfl⟩ := List.mem_map.mp hmem
    split
    · exact hitem
    · exact h.items_distinct old hold

/-- **A name is taken out.** -/
theorem Distinct.erase (h : table.Distinct) (name : String) :
    Table.Distinct (table.erase name) := by
  constructor
  · exact h.names_nodup.sublist (List.filter_sublist.map _)
  · exact fun entry hmem => h.items_distinct entry (List.mem_of_mem_filter hmem)

end Table

/-! ## Changes at the end of a path -/

/-- A change that keeps names different, and yields something of a kind. -/
def Change.Keeps {α : Type} (change : Change α) (result : α → Prop) : Prop :=
  ∀ {origin table changed yielded}, Table.Distinct table →
    change origin table = some (changed, yielded) → Table.Distinct changed ∧ result yielded

section Changes

variable {α : Type} {change : Change α} {result : α → Prop}

/-- A change that keeps names different does so inside an item, where it goes on in the last of
several tables. -/
theorem changeInside_distinct (hkeeps : change.Keeps result) {isDotted : Bool}
    {item changed : Item} {yielded : α} (hitem : item.Distinct)
    (h : changeInside isDotted change item = some (changed, yielded)) :
    changed.Distinct ∧ result yielded := by
  cases hitem with
  | table origin start hnames hitems =>
      rw [changeInside] at h
      split at h
      · obtain ⟨⟨inside, _⟩, hinside, hsame⟩ := Option.map_eq_some_iff.mp h
        cases hsame
        obtain ⟨hdistinct, hresult⟩ := hkeeps ⟨hnames, hitems⟩ hinside
        exact ⟨hdistinct.toItem origin start, hresult⟩
      · cases h
  | tables start hitems =>
      rw [changeInside] at h
      split at h
      · next origin own last hlast =>
          obtain ⟨⟨inside, _⟩, hinside, hsame⟩ := Option.map_eq_some_iff.mp h
          cases hsame
          have hlast : Table.Distinct last := .ofItem (hitems _ (List.mem_of_getLast? hlast))
          obtain ⟨hdistinct, hresult⟩ := hkeeps hlast hinside
          refine ⟨.tables start ?_, hresult⟩
          rw [List.forall_mem_append, List.forall_mem_singleton]
          exact ⟨fun item hitem => hitems item (List.dropLast_subset _ hitem),
            hdistinct.toItem origin own⟩
      · cases h
  | string | integer | float | boolean | datetime | array => simp [changeInside] at h

/-- **A change at the end of a path** keeps names different, with the tables that are made on the
way. -/
theorem changeAt_keeps (hkeeps : change.Keeps result) (isDotted : Bool) (path : List Key) :
    (changeAt isDotted change path).Keeps result := by
  induction path with
  | nil => exact hkeeps
  | cons key path ih =>
      intro origin table changed yielded htable h
      rw [changeAt] at h
      dsimp only at h
      split at h
      · next hfresh =>
          obtain ⟨⟨made, _⟩, hmade, hsame⟩ := Option.map_eq_some_iff.mp h
          cases hsame
          obtain ⟨hdistinct, hresult⟩ := ih Table.distinct_nil hmade
          exact ⟨htable.append hfresh (hdistinct.toItem _ none), hresult⟩
      · next item hfound =>
          obtain ⟨⟨inside, _⟩, hinside, hsame⟩ := Option.map_eq_some_iff.mp h
          cases hsame
          obtain ⟨hdistinct, hresult⟩ := changeInside_distinct ih (htable.get? hfound) hinside
          exact ⟨htable.replace hdistinct key.name, hresult⟩

/-- A change at a path keeps the names different, where nothing is asked of what it yields. -/
theorem changeAt_distinct (hkeeps : change.Keeps fun _ => True) {isDotted : Bool}
    {path : List Key} {origin : Origin} {table changed : Table} {yielded : α}
    (htable : table.Distinct)
    (h : changeAt isDotted change path origin table = some (changed, yielded)) :
    changed.Distinct :=
  (changeAt_keeps hkeeps isDotted path htable h).1

end Changes

/-- A value is given to a name that has none. -/
theorem put?_distinct {path : List Key} {key : Key} {item : Item} {origin : Origin}
    {table changed : Table} (htable : table.Distinct) (hitem : item.Distinct)
    (h : put? path key item origin table = some changed) : changed.Distinct := by
  obtain ⟨⟨_, yielded⟩, hchange, rfl⟩ := Option.map_eq_some_iff.mp h
  refine changeAt_distinct ?_ htable hchange
  intro origin table changed yielded htable h
  dsimp only at h
  split at h
  · cases h
  split at h
  · cases h
  · next hfresh =>
      cases h
      exact ⟨htable.append (by simpa using hfresh) hitem, trivial⟩

/-! ## Putting a document together -/

namespace Draft

/-- A draft whose tables have different names. -/
structure Distinct (draft : Draft) : Prop where
  root : draft.root.Distinct
  table : draft.table.Distinct

variable {draft changed : Draft}

/-- Putting the table under way into its place keeps the names of the document different. -/
theorem close?_distinct (hdraft : draft.Distinct) {table : Table}
    (h : draft.close? = some table) : table.Distinct := by
  rw [close?] at h
  split at h
  · cases h
    exact hdraft.table
  · next header _ =>
      have hopen := hdraft.table.toItem .header (some header.start)
      obtain ⟨⟨_, yielded⟩, hchange, rfl⟩ := Option.map_eq_some_iff.mp h
      refine changeAt_distinct ?_ hdraft.root hchange
      intro origin table changed yielded htable h
      dsimp only at h
      split at h
      · split at h
        · next hfresh =>
            cases h
            exact ⟨htable.append hfresh (.tables _ (by simpa using hopen)), trivial⟩
        · next start items hfound =>
            cases h
            refine ⟨htable.replace (.tables start ?_) _, trivial⟩
            cases htable.get? hfound with
            | tables _ hitems =>
                rw [List.forall_mem_append, List.forall_mem_singleton]
                exact ⟨hitems, hopen⟩
        · cases h
      split at h
      · cases h
      · next hfresh =>
          cases h
          exact ⟨htable.append (by simpa using hfresh) hopen, trivial⟩

/-- A header makes a table, or goes on with one that it takes out for as long. -/
theorem claim_keeps (header : Header) : (claim header).Keeps Table.Distinct := by
  intro origin table changed yielded htable h
  rw [claim] at h
  split at h
  · cases h
    exact ⟨htable, Table.distinct_nil⟩
  · next item hfound =>
      split at h
      · split at h
        · cases h
          exact ⟨htable, Table.distinct_nil⟩
        · cases h
      split at h
      · next start inside =>
          cases h
          exact ⟨htable.erase _, .ofItem (htable.get? hfound)⟩
      · cases h

/-- A draft keeps different names when a header opens a table. -/
theorem openTable?_distinct (hdraft : draft.Distinct) {header : Header}
    (h : draft.openTable? header = some changed) : changed.Distinct := by
  obtain ⟨root, hclose, hopen⟩ := Option.bind_eq_some_iff.mp h
  obtain ⟨⟨rest, table⟩, hchange, hsame⟩ := Option.bind_eq_some_iff.mp hopen
  cases hsame
  obtain ⟨hroot, htable⟩ :=
    changeAt_keeps (claim_keeps header) false header.path (close?_distinct hdraft hclose) hchange
  exact ⟨hroot, htable⟩

/-- The names stay different when an assignment is put into the table that is open. -/
theorem assign?_distinct (hdraft : draft.Distinct) {path : List Key} {key : Key} {item : Item}
    (hitem : item.Distinct) (h : draft.assign? path key item = some changed) :
    changed.Distinct := by
  obtain ⟨table, hput, rfl⟩ := Option.map_eq_some_iff.mp h
  exact ⟨hdraft.root, put?_distinct hdraft.table hitem hput⟩

end Draft

/-! ## Reading -/

/-- What a step of the reader yields is of a kind, if it yields anything. -/
structure Scan.Yields {α : Type} (scan : Scan α) (kind : α → Prop) : Prop where
  of_ok : ∀ {cursor yielded behind}, scan cursor = .ok (yielded, behind) → kind yielded

namespace Scan.Yields

variable {α β : Type} {kind : α → Prop} {other : β → Prop}

/-- What is yielded at once is of a kind if the yielded value is. -/
theorem pure {yielded : α} (h : kind yielded) : Yields (Pure.pure yielded) kind := by
  constructor
  intro cursor _ _ hyields
  cases hyields
  exact h

/-- A step that only says where it went wrong yields nothing. -/
theorem error (offset : Cursor → Nat) : Yields (fun cursor => .error (offset cursor)) kind := by
  constructor
  intro cursor _ _ hyields
  cases hyields

/-- A step that fails yields nothing of a wrong kind. -/
theorem fail : Yields Scan.fail kind := error Cursor.offset

/-- One step after another: the second may count on what the first yields. -/
theorem bind {scan : Scan α} {next : α → Scan β} (hscan : Yields scan kind)
    (hnext : ∀ yielded, kind yielded → Yields (next yielded) other) :
    Yields (scan >>= next) other := by
  constructor
  intro cursor result behind hyields
  have hsteps : (scan cursor >>= fun (yielded, behind) => next yielded behind) =
      .ok (result, behind) := hyields
  cases hfirst : scan cursor with
  | error _ =>
      rw [hfirst] at hsteps
      cases hsteps
  | ok reached =>
      rw [hfirst] at hsteps
      exact (hnext reached.1 (hscan.of_ok hfirst)).of_ok hsteps

/-- One step after another, where nothing is asked of the first. -/
theorem after {scan : Scan α} {next : α → Scan β} (hnext : ∀ yielded, Yields (next yielded) other) :
    Yields (scan >>= next) other := by
  have hscan : Yields scan fun _ => True := ⟨fun _ => trivial⟩
  exact hscan.bind fun yielded _ => hnext yielded

end Scan.Yields

open Scan

/-- A scalar has no names. -/
theorem readScalar_distinct : Yields readScalar Item.Distinct := by
  have hitem (start : Nat) (scalar : Scalar) :
      Yields (Pure.pure (scalar.item start)) Item.Distinct := by
    refine .pure ?_
    cases scalar <;> constructor
  rw [readScalar]
  refine .after fun start => .after fun token => .after fun behind => ?_
  dsimp only
  split
  · split
    · refine .after fun _ => .after fun time => .after fun whole => ?_
      split
      · exact hitem start _
      · exact .error fun _ => start
    · refine .after fun whole => ?_
      split
      · exact hitem start _
      · exact .error fun _ => start
  · refine .after fun whole => ?_
    split
    · exact hitem start _
    · exact .error fun _ => start

/-- What is read at a depth: values, the items of an array and the entries of a table. -/
structure ReadsDistinct (fuel : Nat) : Prop where
  value : ∀ room, Yields (readValue fuel room) Item.Distinct
  items : ∀ room, Yields (readItems fuel room) fun items => ∀ item ∈ items, item.Distinct
  pairs : ∀ room table, Table.Distinct table → Yields (readPairs fuel room table) Table.Distinct

namespace ReadsDistinct

variable {fuel : Nat}

/-- A value one level up is a scalar, an array or a table of what is read at the level below. -/
theorem value_succ (h : ReadsDistinct fuel) (room : Nat) :
    Yields (readValue (fuel + 1) room) Item.Distinct := by
  have harray (start : Nat) : Yields (do
      expect '['
      return .array start (← readItems fuel (room - 1))) Item.Distinct :=
    .after fun _ => .bind (h.items (room - 1)) fun items hitems => .pure (.array start hitems)
  have htable (start : Nat) : Yields (do
      expect '\x7b'
      blanks
      if ← takes '\x7d' then return .table .inline (some start) []
      return .table .inline (some start) (← readPairs fuel (room - 1) [])) Item.Distinct := by
    refine .after fun _ => .after fun _ => .after fun isEmpty => ?_
    split
    · exact .pure (Table.distinct_nil.toItem _ _)
    · exact .bind (h.pairs (room - 1) [] Table.distinct_nil) fun table htable =>
        .pure (htable.toItem _ _)
  rw [readValue]
  refine .after fun start => .after fun text => ?_
  split
  · exact .after fun text => .pure (.string start _)
  · exact .after fun text => .pure (.string start _)
  · dsimp only
    split
    · exact .after fun _ => harray start
    · exact harray start
  · dsimp only
    split
    · exact .after fun _ => htable start
    · exact htable start
  · exact readScalar_distinct

theorem items_succ (h : ReadsDistinct fuel) (room : Nat) :
    Yields (readItems (fuel + 1) room) fun items => ∀ item ∈ items, item.Distinct := by
  rw [readItems]
  refine .after fun text => .after fun _ => .after fun isOver => ?_
  split
  · exact .pure (by simp)
  refine .bind (h.value room) fun item hitem => ?_
  refine .after fun text => .after fun _ => .after fun isMore => ?_
  split
  · exact .bind (h.items room) fun items hitems =>
      .pure (List.forall_mem_cons.mpr ⟨hitem, hitems⟩)
  · exact .after fun _ => .pure (List.forall_mem_singleton.mpr hitem)

/-- The entries of a table in braces are put in one by one, each under a name that is new. -/
theorem pairs_succ (h : ReadsDistinct fuel) (room : Nat) {table : Table}
    (htable : table.Distinct) : Yields (readPairs (fuel + 1) room table) Table.Distinct := by
  rw [readPairs]
  refine .after fun key => .after fun _ => .after fun _ => ?_
  refine .bind (h.value room) fun item hitem => .after fun _ => ?_
  split
  · exact .fail
  · next changed hput =>
      have hchanged := put?_distinct htable hitem hput
      refine .after fun isMore => ?_
      split
      · exact h.pairs room changed hchanged
      · exact .after fun _ => .pure hchanged

end ReadsDistinct

/-- **The names of what is read are different**, at every depth. -/
theorem readsDistinct (fuel : Nat) : ReadsDistinct fuel := by
  induction fuel with
  | zero =>
      refine ⟨fun room => ?_, fun room => ?_, fun room table _ => ?_⟩
      · rw [readValue]
        exact .fail
      · rw [readItems]
        exact .fail
      · rw [readPairs]
        exact .fail
  | succ fuel ih => exact ⟨ih.value_succ, ih.items_succ, fun room _ => ih.pairs_succ room⟩

/-- The value of an assignment has different names. -/
theorem readAssignment_distinct : Yields readAssignment fun line => line.2.2.Distinct := by
  rw [readAssignment]
  refine .after fun key => .after fun _ => .after fun _ => .after fun text => ?_
  exact .bind ((readsDistinct _).value _) fun item hitem => .after fun _ => .pure hitem

/-- A change of the draft that may fail yields a draft of a kind, if all drafts it can come to are.
-/
theorem keep_yields {draft? : Option Draft} {kind : Draft → Prop}
    (h : ∀ draft, draft? = some draft → kind draft) : Yields (keep draft?) kind := by
  cases draft? with
  | none => exact .fail
  | some draft => exact .pure (h draft rfl)

/-- **Every line keeps the names of a draft different.** -/
theorem readLines_distinct (lines : Nat) {draft : Draft} (hdraft : draft.Distinct) :
    Yields (readLines lines draft) Draft.Distinct := by
  induction lines generalizing draft with
  | zero =>
      rw [readLines]
      exact .fail
  | succ lines ih =>
      have hblank : Yields (do
          comment
          if ← lineBreak then readLines lines draft
          else if (← rest).isEmpty then return draft
          else fail) Draft.Distinct := by
        refine .after fun _ => .after fun isBroken => ?_
        split
        · exact ih hdraft
        refine .after fun text => ?_
        split
        · exact .pure hdraft
        · exact .fail
      rw [readLines]
      refine .after fun _ => .after fun text => ?_
      split
      · exact .pure hdraft
      · exact hblank
      · exact hblank
      · exact hblank
      · exact .after fun header =>
          .bind (keep_yields fun _ hopen => Draft.openTable?_distinct hdraft hopen)
            fun opened hopened => ih hopened
      · exact .bind readAssignment_distinct fun line hitem =>
          .bind (keep_yields fun _ hassign => Draft.assign?_distinct hdraft hitem hassign)
            fun changed hchanged => ih hchanged

/-- The names of a document that is read are different. -/
theorem readDocument_distinct : Yields readDocument Table.Distinct := by
  have hempty : Draft.Distinct {} := ⟨Table.distinct_nil, Table.distinct_nil⟩
  rw [readDocument]
  refine .after fun _ => .after fun text => ?_
  refine .bind (readLines_distinct _ hempty) fun draft hdraft => ?_
  split
  · next table hclose => exact .pure (Draft.close?_distinct hdraft hclose)
  · exact .fail

/-- **The names of a document are different.** -/
theorem distinct_of_parse {text : String} {table : Table} (h : parse text = .ok table) :
    table.Distinct := by
  rw [parse] at h
  cases hread : readDocument ⟨0, text.toList⟩ with
  | error _ =>
      rw [hread] at h
      cases h
  | ok reached =>
      rw [hread] at h
      cases h
      exact readDocument_distinct.of_ok hread

end WorksheetBar.Toml
