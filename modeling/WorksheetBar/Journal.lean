/-!
# The journal

The last few diagnostics entries, numbered from one.  The number of an entry is
its place among all entries ever appended, so it survives the eviction of older
ones, and a reader can ask for everything after the newest number it has seen.
Numbers are counted without an end; they are those of a counter in a word of 64 bits
as long as fewer than 2 ^ 64 - 1 entries have been appended.

* `next_append` — the counter moves by one per entry, also at capacity zero.
-/

namespace WorksheetBar

namespace Journal

/-- How serious an entry is. -/
inductive Level where
  | trace
  | debug
  | info
  | warn
  | error
  deriving DecidableEq, Repr

/-- The part of the bar an entry speaks about. -/
inductive Topic where
  | session
  | dialog
  | shell
  deriving DecidableEq, Repr

def Topic.label : Topic → String
  | session => "session"
  | dialog => "dialog"
  | shell => "shell"

/-- A numbered entry. -/
structure Entry where
  seq : Nat := 0
  level : Level
  topic : Topic
  message : String
  deriving DecidableEq, Repr

end Journal

/-- A bounded journal: the number of the next entry, and the entries still
held, oldest first. -/
structure Journal where
  capacity : Nat := 200
  next : Nat := 1
  entries : List Journal.Entry := []
  deriving DecidableEq, Repr

namespace Journal

/-- Numbers an entry and appends it, evicting from the old end what no longer
fits.  The number the entry came with is overwritten. -/
def append (journal : Journal) (entry : Entry) : Journal :=
  let numbered := { entry with seq := journal.next }
  { journal with
    next := journal.next + 1
    entries :=
      if journal.capacity = 0 then journal.entries
      else
        journal.entries.drop (journal.entries.length + 1 - journal.capacity) ++ [numbered] }

/-- Appends a new entry. -/
def log (journal : Journal) (level : Level) (topic : Topic) (message : String) : Journal :=
  journal.append { level, topic, message }

/-- The entries numbered above `seq`, oldest first. -/
def since (journal : Journal) (seq : Nat) : List Entry :=
  journal.entries.filter (fun entry => seq < entry.seq)

/-- The newest entry still held. -/
def newest? (journal : Journal) : Option Entry :=
  journal.entries.getLast?

@[simp] theorem next_append (journal : Journal) (entry : Entry) :
    (journal.append entry).next = journal.next + 1 := rfl

@[simp] theorem capacity_append (journal : Journal) (entry : Entry) :
    (journal.append entry).capacity = journal.capacity := rfl

end Journal

end WorksheetBar
