import Mathlib.Data.List.Basic
import WorksheetBar.Journal

/-!
# The history of a journal

A journal is made by appending entries to an empty one.  The entries that were ever
appended, in order, are its **history**.  Of these it holds the last ones, as many as it
has room for, each under the number of its place in the history.

* `Holds.append` — appending an entry makes the history longer by it;
* `Holds.since` — what stands behind a number that a reader has seen;
* `Holds.since_append` — a reader that has seen everything misses nothing of what is
  appended next, unless that is more than the journal has room for.
-/

namespace WorksheetBar.Journal

/-- Entries under the numbers from the first one on. -/
def numberFrom (first : Nat) : List Entry → List Entry
  | [] => []
  | entry :: rest => { entry with seq := first } :: numberFrom (first + 1) rest

/-- Appends entries, one after another. -/
def appendAll (journal : Journal) (entries : List Entry) : Journal :=
  entries.foldl append journal

@[simp] theorem numberFrom_nil (first : Nat) : numberFrom first [] = [] := rfl

@[simp] theorem length_numberFrom (first : Nat) (entries : List Entry) :
    (numberFrom first entries).length = entries.length := by
  induction entries generalizing first with
  | nil => rfl
  | cons entry rest ih => simp [numberFrom, ih]

theorem numberFrom_append (first : Nat) (entries more : List Entry) :
    numberFrom first (entries ++ more) =
      numberFrom first entries ++ numberFrom (first + entries.length) more := by
  induction entries generalizing first with
  | nil => rfl
  | cons entry rest ih =>
      have hlength : first + 1 + rest.length = first + (entry :: rest).length := by
        rw [List.length_cons]
        omega
      rw [List.cons_append, numberFrom, ih, numberFrom, hlength, List.cons_append]

/-- What is left when the first entries are dropped keeps its numbers. -/
theorem drop_numberFrom (first count : Nat) (entries : List Entry) :
    (numberFrom first entries).drop count = numberFrom (first + count) (entries.drop count) := by
  induction entries generalizing first count with
  | nil => simp
  | cons entry rest ih =>
      cases count with
      | zero => rfl
      | succ count =>
          have hfirst : first + 1 + count = first + (count + 1) := by omega
          rw [numberFrom, List.drop_succ_cons, ih, hfirst, List.drop_succ_cons]

/-- The numbers are consecutive. -/
theorem map_seq_numberFrom (first : Nat) (entries : List Entry) :
    (numberFrom first entries).map Entry.seq = List.range' first entries.length := by
  induction entries generalizing first with
  | nil => rfl
  | cons entry rest ih => simp [numberFrom, ih, List.range'_succ]

/-- The entries above a number are those that stand behind it. -/
theorem filter_numberFrom (first seq : Nat) (entries : List Entry) :
    (numberFrom first entries).filter (fun entry => seq < entry.seq) =
      (numberFrom first entries).drop (seq + 1 - first) := by
  induction entries generalizing first with
  | nil => simp
  | cons entry rest ih =>
      rw [numberFrom]
      by_cases hbehind : seq < first
      · have hall : seq + 1 - first = 0 := by omega
        have hrest : seq + 1 - (first + 1) = 0 := by omega
        rw [List.filter_cons_of_pos (by simpa using hbehind), ih, hall, hrest]
        rfl
      · have hmore : seq + 1 - first = seq + 1 - (first + 1) + 1 := by omega
        rw [List.filter_cons_of_neg (by simpa using hbehind), ih, hmore, List.drop_succ_cons]

@[simp] theorem appendAll_nil (journal : Journal) : journal.appendAll [] = journal := rfl

theorem appendAll_append (journal : Journal) (entries more : List Entry) :
    journal.appendAll (entries ++ more) = (journal.appendAll entries).appendAll more :=
  List.foldl_append

/-- Appending does not change the capacity. -/
@[simp] theorem capacity_appendAll (journal : Journal) (entries : List Entry) :
    (journal.appendAll entries).capacity = journal.capacity := by
  induction entries generalizing journal with
  | nil => rfl
  | cons entry rest ih => exact ih (journal.append entry)

/-- The journal has come about by appending a history to an empty one. -/
structure Holds (journal : Journal) (history : List Entry) : Prop where
  next : journal.next = history.length + 1
  entries : journal.entries =
    (numberFrom 1 history).drop (history.length - journal.capacity)

variable {journal : Journal} {history more : List Entry}

theorem holds_empty (capacity : Nat) : Holds { capacity } [] := ⟨rfl, by simp⟩

/-- What is held is numbered up to the length of the history. -/
theorem Holds.length (h : journal.Holds history) :
    journal.entries.length = min history.length journal.capacity := by
  rw [h.entries, List.length_drop, length_numberFrom]
  omega

/-- **Appending an entry makes the history longer by it.** -/
theorem Holds.append (h : journal.Holds history) (entry : Entry) :
    (journal.append entry).Holds (history ++ [entry]) := by
  have hnumbered : numberFrom 1 (history ++ [entry]) =
      numberFrom 1 history ++ [{ entry with seq := journal.next }] := by
    rw [numberFrom_append, h.next, Nat.add_comm 1]
    rfl
  refine ⟨by rw [next_append, h.next, List.length_append]; rfl, ?_⟩
  rw [capacity_append, hnumbered, List.length_append, List.length_singleton]
  unfold Journal.append
  dsimp only
  split
  · next hzero =>
      -- a journal without room holds nothing, before as after
      rw [h.entries, hzero, List.drop_eq_nil_of_le (by simp), List.drop_eq_nil_of_le (by simp)]
  · next hroom =>
      have hdrop : history.length - journal.capacity +
          (min history.length journal.capacity + 1 - journal.capacity) =
            history.length + 1 - journal.capacity := by omega
      rw [h.length, h.entries, List.drop_drop, hdrop,
        List.drop_append_of_le_length (by rw [length_numberFrom]; omega)]

/-- **A journal that is appended to holds the longer history.** -/
theorem Holds.appendAll (h : journal.Holds history) (entries : List Entry) :
    (journal.appendAll entries).Holds (history ++ entries) := by
  induction entries generalizing journal history with
  | nil => simpa using h
  | cons entry rest ih =>
      have hrest := ih (h.append entry)
      rwa [List.append_assoc] at hrest

/-- **What stands behind a number** is that part of the history, as far as it is still
held. -/
theorem Holds.since (h : journal.Holds history) (seq : Nat) :
    journal.since seq =
      (numberFrom 1 history).drop (max seq (history.length - journal.capacity)) := by
  have hcount : history.length - journal.capacity +
      (seq + 1 - (1 + (history.length - journal.capacity))) =
        max seq (history.length - journal.capacity) := by omega
  rw [Journal.since, h.entries, drop_numberFrom, filter_numberFrom, ← drop_numberFrom,
    List.drop_drop, hcount]

/-- **A reader that has seen the whole history misses nothing of what is appended next**,
unless that is more than the journal has room for. -/
theorem Holds.since_append (h : journal.Holds (history ++ more))
    (hroom : more.length ≤ journal.capacity) :
    journal.since history.length = numberFrom (history.length + 1) more := by
  have hlength : (history ++ more).length - journal.capacity ≤ history.length := by
    rw [List.length_append]
    omega
  rw [h.since, Nat.max_eq_left hlength, drop_numberFrom, List.drop_left, Nat.add_comm]

/-- The newest entry has the number of the last place in the history. -/
theorem Holds.seq_newest (h : journal.Holds history) {entry : Entry}
    (hnewest : journal.newest? = some entry) : entry.seq = history.length := by
  have hseqs : journal.entries.map Entry.seq =
      List.range' (1 + (history.length - journal.capacity))
        (min history.length journal.capacity) := by
    have hcount : history.length - (history.length - journal.capacity) =
        min history.length journal.capacity := by omega
    rw [h.entries, drop_numberFrom, map_seq_numberFrom, List.length_drop, hcount]
  have hlast := congrArg List.getLast? hseqs
  rw [List.getLast?_map, ← newest?, hnewest, List.getLast?_range'] at hlast
  split at hlast
  · cases hlast
  · have hseq : entry.seq = _ := Option.some.inj hlast
    omega

/-- A journal with room holds nothing only if nothing was ever appended. -/
theorem Holds.eq_nil_of_newest? (h : journal.Holds history) (hroom : journal.capacity ≠ 0)
    (hnone : journal.newest? = none) : history = [] := by
  have hempty : journal.entries.length = 0 := by
    rw [List.getLast?_eq_none_iff.mp hnone, List.length_nil]
  rw [h.length] at hempty
  exact List.eq_nil_of_length_eq_zero (by omega)

end WorksheetBar.Journal
