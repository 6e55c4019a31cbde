import WorksheetBar.Number.Shortest

/-!
# TOML documents

A document is a table, and a table is a list of entries in the order in which they
came about.  Values know where they begin, counted in characters from the start of the
document; a table that nobody wrote down, because it is only named on the way to
another, begins nowhere.

* `Table.get?_cons` — the first entry of a name is the one that counts.
-/

namespace WorksheetBar.Toml

/-- A key and where it begins. -/
structure Key where
  name : String
  start : Nat
  deriving DecidableEq, Repr

/-- A floating-point value. -/
inductive Float where
  | finite (value : Binary64)
  | infinite (negative : Bool)
  | nan
  deriving DecidableEq, Repr

/-- The text of a floating-point value, without an exponent. -/
def Float.text : Float → String
  | finite value => value.text fun _ => true
  | infinite true => "-inf"
  | infinite false => "inf"
  | nan => "NaN"

/-- How a table came about: under its own header, on the way to another header, as
the front of a dotted key, or between braces. -/
inductive Origin where
  | header
  | implied
  | dotted
  | inline
  deriving DecidableEq, Repr

/-- A value of a document.  Tables under headers with double brackets make an array of
their own kind. -/
inductive Item where
  | string (start : Nat) (value : String)
  | integer (start : Nat) (value : Int)
  | float (start : Nat) (value : Float)
  | boolean (start : Nat) (value : Bool)
  | datetime (start : Nat)
  | array (start : Nat) (items : List Item)
  | tables (start : Nat) (items : List Item)
  | table (origin : Origin) (start : Option Nat) (entries : List (Key × Item))

/-- The entries of a table. -/
abbrev Table := List (Key × Item)

/-- Where an item begins. -/
def Item.start? : Item → Option Nat
  | string start _ | integer start _ | float start _ | boolean start _ | datetime start
  | array start _ | tables start _ => some start
  | table _ start _ => start

/-! ## Comparing documents -/

mutual

/-- Whether two items are the same. -/
def Item.same : Item → Item → Bool
  | .string start value, .string start' value' => start == start' && value == value'
  | .integer start value, .integer start' value' => start == start' && value == value'
  | .float start value, .float start' value' => start == start' && value == value'
  | .boolean start value, .boolean start' value' => start == start' && value == value'
  | .datetime start, .datetime start' => start == start'
  | .array start items, .array start' items' => start == start' && sameItems items items'
  | .tables start items, .tables start' items' => start == start' && sameItems items items'
  | .table origin start entries, .table origin' start' entries' =>
    origin == origin' && start == start' && sameEntries entries entries'
  | _, _ => false

/-- Whether two lists of items are the same. -/
def sameItems : List Item → List Item → Bool
  | [], [] => true
  | item :: rest, item' :: rest' => item.same item' && sameItems rest rest'
  | _, _ => false

/-- Whether two lists of entries are the same. -/
def sameEntries : List (Key × Item) → List (Key × Item) → Bool
  | [], [] => true
  | (key, item) :: rest, (key', item') :: rest' =>
    key == key' && item.same item' && sameEntries rest rest'
  | _, _ => false

end

mutual

/-- Items that compare as the same are equal. -/
theorem Item.eq_of_same : ∀ {a b : Item}, a.same b = true → a = b
  | .string .., b, h | .integer .., b, h | .float .., b, h | .boolean .., b, h
  | .datetime .., b, h => by cases b <;> simp_all [Item.same]
  | .array _ items, b, h => by
      cases b with
      | array _ items' =>
          simp only [Item.same, Bool.and_eq_true, beq_iff_eq] at h
          rw [h.1, eq_of_sameItems h.2]
      | _ => simp [Item.same] at h
  | .tables _ items, b, h => by
      cases b with
      | tables _ items' =>
          simp only [Item.same, Bool.and_eq_true, beq_iff_eq] at h
          rw [h.1, eq_of_sameItems h.2]
      | _ => simp [Item.same] at h
  | .table _ _ entries, b, h => by
      cases b with
      | table _ _ entries' =>
          simp only [Item.same, Bool.and_eq_true, beq_iff_eq] at h
          rw [h.1.1, h.1.2, eq_of_sameEntries h.2]
      | _ => simp [Item.same] at h

/-- Lists of items that are found to be the same are equal. -/
theorem eq_of_sameItems : ∀ {a b : List Item}, sameItems a b = true → a = b
  | [], b, h => by cases b <;> simp_all [sameItems]
  | item :: rest, b, h => by
      cases b with
      | nil => simp [sameItems] at h
      | cons item' rest' =>
          simp only [sameItems, Bool.and_eq_true] at h
          rw [Item.eq_of_same h.1, eq_of_sameItems h.2]

/-- Lists of entries that are found to be the same are equal. -/
theorem eq_of_sameEntries : ∀ {a b : List (Key × Item)}, sameEntries a b = true → a = b
  | [], b, h => by cases b <;> simp_all [sameEntries]
  | (key, item) :: rest, b, h => by
      cases b with
      | nil => simp [sameEntries] at h
      | cons entry' rest' =>
          obtain ⟨key', item'⟩ := entry'
          simp only [sameEntries, Bool.and_eq_true, beq_iff_eq] at h
          rw [h.1.1, Item.eq_of_same h.1.2, eq_of_sameEntries h.2]

end

mutual

/-- An item compares as the same as itself. -/
theorem Item.same_self : ∀ item : Item, item.same item = true
  | .string .. | .integer .. | .float .. | .boolean .. | .datetime .. => by simp [Item.same]
  | .array _ items | .tables _ items => by simp [Item.same, sameItems_self items]
  | .table _ _ entries => by simp [Item.same, sameEntries_self entries]

theorem sameItems_self : ∀ items : List Item, sameItems items items = true
  | [] => rfl
  | item :: rest => by simp [sameItems, item.same_self, sameItems_self rest]

theorem sameEntries_self : ∀ entries : List (Key × Item), sameEntries entries entries = true
  | [] => rfl
  | (_, item) :: rest => by simp [sameEntries, item.same_self, sameEntries_self rest]

end

instance : DecidableEq Item := fun a b =>
  decidable_of_iff (a.same b = true) ⟨Item.eq_of_same, fun equal => equal ▸ a.same_self⟩

namespace Table

/-- The item under a name. -/
def get? (table : Table) (name : String) : Option Item :=
  (table.find? fun entry => entry.1.name == name).map Prod.snd

/-- Puts another item under a name that is there. -/
def replace (table : Table) (name : String) (item : Item) : Table :=
  table.map fun entry => if entry.1.name == name then (entry.1, item) else entry

/-- Takes a name out. -/
def erase (table : Table) (name : String) : Table :=
  table.filter fun entry => entry.1.name != name

theorem get?_cons (key : Key) (item : Item) (rest : Table) (name : String) :
    get? ((key, item) :: rest) name = if key.name = name then some item else get? rest name := by
  by_cases h : key.name = name <;> simp [get?, h]

end Table

end WorksheetBar.Toml
