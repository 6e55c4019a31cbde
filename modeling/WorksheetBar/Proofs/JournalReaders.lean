import WorksheetBar.Proofs.JournalHistory

/-!
# Readers of a journal

A reader asks a journal for what stands behind the newest number it has seen.  Between two
questions any number of entries may be appended, and of these the journal may have room for the
last ones only.

What the reader receives on a question is what is left of the entries appended since the last one.
For a journal with room this is because the reader has then seen the newest number there is; a
journal without room never shows it anything.

* `getElem?_entries` — what stands at a place of the journal, and under which number;
* `UpToDate.since` — what is received on a question;
* `attend_spec` — what is received in all;
* `each_entry_read_once` — nothing is received twice, and only what is evicted is missed.
-/

namespace WorksheetBar.Journal

/-! ## What is held -/

section Held

variable {journal : Journal} {history : List Entry}

theorem getElem?_numberFrom (first place : Nat) (entries : List Entry) :
    (numberFrom first entries)[place]? =
      entries[place]?.map fun entry => { entry with seq := first + place } := by
  induction entries generalizing first place with
  | nil => simp
  | cons entry rest ih =>
      cases place with
      | zero => rfl
      | succ place =>
          rw [numberFrom, List.getElem?_cons_succ, List.getElem?_cons_succ, ih,
            Nat.add_right_comm, Nat.add_assoc]

/-- The numbers of entries that were numbered from the first one on. -/
theorem seq_of_mem_numberFrom {first : Nat} {entries : List Entry} {entry : Entry}
    (hmem : entry ∈ numberFrom first entries) :
    first ≤ entry.seq ∧ entry.seq < first + entries.length := by
  have hseq : entry.seq ∈ (numberFrom first entries).map Entry.seq := List.mem_map_of_mem hmem
  rw [map_seq_numberFrom, List.mem_range'_1] at hseq
  exact hseq

/-- **What stands at a place of the journal**, and under which number. -/
theorem Holds.getElem?_entries (h : journal.Holds history) (place : Nat) :
    let gone := history.length - min history.length journal.capacity
    journal.entries[place]? =
      history[gone + place]?.map fun entry => { entry with seq := gone + place + 1 } := by
  intro gone
  have hgone : history.length - journal.capacity = gone := by omega
  rw [h.entries, hgone, List.getElem?_drop, getElem?_numberFrom, Nat.add_comm 1]

/-- The numbers in a journal follow each other up to the last one. -/
theorem Holds.map_seq (h : journal.Holds history) :
    journal.entries.map Entry.seq =
      List.range' (history.length - min history.length journal.capacity + 1)
        (min history.length journal.capacity) := by
  have hgone : history.length - journal.capacity =
      history.length - min history.length journal.capacity := by omega
  have hcount : history.length - (history.length - min history.length journal.capacity) =
      min history.length journal.capacity := by omega
  rw [h.entries, hgone, drop_numberFrom, map_seq_numberFrom, List.length_drop, hcount,
    Nat.add_comm 1]

/-- What stands behind a number is the end of what is held. -/
theorem Holds.since_eq_drop (h : journal.Holds history) (seq : Nat) :
    journal.since seq =
      journal.entries.drop (seq - (history.length - min history.length journal.capacity)) := by
  rw [h.since, h.entries, List.drop_drop]
  congr 1
  omega

end Held

/-! ## Readers -/

/-- A reader: the newest number it has seen, and all that it has received. -/
structure Reader where
  seen : Nat := 0
  received : List Entry := []

/-- Asks for everything behind the newest number that was seen. -/
def Reader.ask (reader : Reader) (journal : Journal) : Reader :=
  let news := journal.since reader.seen
  { seen := (news.getLast?.map Entry.seq).getD reader.seen
    received := reader.received ++ news }

/-- Appends batches of entries; the reader asks after each of them. -/
def attend (journal : Journal) (reader : Reader) : List (List Entry) → Journal × Reader
  | [] => (journal, reader)
  | batch :: rest => attend (journal.appendAll batch) (reader.ask (journal.appendAll batch)) rest

/-- What is left of a batch under its numbers, as far as there is room. -/
def left (capacity first : Nat) (batch : List Entry) : List Entry :=
  (numberFrom first batch).drop (batch.length - capacity)

/-- What is left of batches, each right after it was appended. -/
def leftOfEach (capacity first : Nat) : List (List Entry) → List Entry
  | [] => []
  | batch :: rest => left capacity first batch ++ leftOfEach capacity (first + batch.length) rest

/-- The reader has seen the newest number, unless there is no room for any. -/
def UpToDate (journal : Journal) (reader : Reader) (history : List Entry) : Prop :=
  journal.capacity = 0 ∨ reader.seen = history.length

variable {journal : Journal} {reader : Reader} {history batch : List Entry}

/-- A journal holds what is left of the last batch, and before it what is left of the rest. -/
theorem Holds.entries_append (h : journal.Holds (history ++ batch)) :
    journal.entries =
      (numberFrom 1 history).drop ((history ++ batch).length - journal.capacity) ++
        left journal.capacity (history.length + 1) batch := by
  have hcount : (history ++ batch).length - journal.capacity - (numberFrom 1 history).length =
      batch.length - journal.capacity := by
    rw [length_numberFrom, List.length_append]
    omega
  rw [h.entries, numberFrom_append, List.drop_append, hcount, left, Nat.add_comm 1]

/-- What is left of a batch is what the journal holds of it. -/
theorem Holds.mem_entries_iff (h : journal.Holds (history ++ batch)) {entry : Entry}
    (hmem : entry ∈ numberFrom (history.length + 1) batch) :
    entry ∈ journal.entries ↔ entry ∈ left journal.capacity (history.length + 1) batch := by
  have hbefore : entry ∉
      (numberFrom 1 history).drop ((history ++ batch).length - journal.capacity) := by
    intro hdrop
    have hold := (seq_of_mem_numberFrom (List.mem_of_mem_drop hdrop)).2
    have hnew := (seq_of_mem_numberFrom hmem).1
    omega
  rw [h.entries_append, List.mem_append, or_iff_right hbefore]

/-- **What is received on a question** is what is left of the batch that was appended since the
last one. -/
theorem UpToDate.since (hupToDate : UpToDate journal reader history)
    (h : journal.Holds (history ++ batch)) :
    journal.since reader.seen = left journal.capacity (history.length + 1) batch := by
  rw [h.since, left]
  rcases hupToDate with hzero | hseen
  · have hall : (numberFrom 1 (history ++ batch)).length ≤
        max reader.seen ((history ++ batch).length - 0) := by
      rw [length_numberFrom]
      exact Nat.le_max_right _ _
    rw [hzero, List.drop_eq_nil_of_le hall, List.drop_eq_nil_of_le (by simp)]
  · have hbehind : (numberFrom 1 history).length ≤
        max history.length ((history ++ batch).length - journal.capacity) := by
      rw [length_numberFrom]
      exact Nat.le_max_left _ _
    have hcount : max history.length ((history ++ batch).length - journal.capacity) -
        (numberFrom 1 history).length = batch.length - journal.capacity := by
      rw [length_numberFrom, List.length_append]
      omega
    rw [hseen, numberFrom_append, List.drop_append, List.drop_eq_nil_of_le hbehind, hcount,
      List.nil_append, Nat.add_comm 1]

/-- A reader that has asked is up to date again. -/
theorem UpToDate.ask (hupToDate : UpToDate journal reader history)
    (h : journal.Holds (history ++ batch)) :
    UpToDate journal (reader.ask journal) (history ++ batch) := by
  rcases hupToDate with hzero | hseen
  · exact .inl hzero
  by_cases hzero : journal.capacity = 0
  · exact .inl hzero
  have hnews := UpToDate.since (.inr hseen) h
  rw [left, drop_numberFrom] at hnews
  have hnext : (reader.ask journal).seen =
      ((journal.since reader.seen).getLast?.map Entry.seq).getD reader.seen := rfl
  rw [UpToDate, hnext, hnews, ← List.getLast?_map, map_seq_numberFrom, List.getLast?_range',
    List.length_drop, List.length_append]
  refine .inr ?_
  split
  · next hnone =>
      -- with room, nothing is left of a batch only if there was nothing in it
      rw [Option.getD_none, hseen]
      omega
  · rw [Option.getD_some]
    omega

/-- **What is received in all** is what is left of each batch, right after it was appended. -/
theorem attend_spec (batches : List (List Entry)) (h : journal.Holds history)
    (hupToDate : UpToDate journal reader history) :
    (attend journal reader batches).1 = journal.appendAll batches.flatten ∧
      (attend journal reader batches).2.received =
        reader.received ++ leftOfEach journal.capacity (history.length + 1) batches := by
  induction batches generalizing journal reader history with
  | nil => simp [attend, leftOfEach]
  | cons batch rest ih =>
      have hholds := h.appendAll batch
      have hcapacity := capacity_appendAll journal batch
      have hready : UpToDate (journal.appendAll batch) reader history := by
        rwa [UpToDate, hcapacity]
      obtain ⟨hjournal, hreceived⟩ := ih hholds (hready.ask hholds)
      constructor
      · rw [attend, hjournal, List.flatten_cons, appendAll_append]
      · rw [attend, hreceived, Reader.ask, hready.since hholds, leftOfEach, hcapacity,
          List.length_append, List.append_assoc, Nat.add_right_comm]

/-! ## What is received -/

/-- What is left of a batch was in it. -/
theorem left_sublist (capacity first : Nat) (batch : List Entry) :
    (left capacity first batch).Sublist (numberFrom first batch) :=
  List.drop_sublist _ _

/-- What is left of several batches was in them. -/
theorem leftOfEach_sublist (capacity first : Nat) (batches : List (List Entry)) :
    (leftOfEach capacity first batches).Sublist (numberFrom first batches.flatten) := by
  induction batches generalizing first with
  | nil => exact .slnil
  | cons batch rest ih =>
      rw [leftOfEach, List.flatten_cons, numberFrom_append]
      exact (left_sublist capacity first batch).append (ih _)

theorem leftOfEach_append (capacity first : Nat) (front behind : List (List Entry)) :
    leftOfEach capacity first (front ++ behind) =
      leftOfEach capacity first front ++
        leftOfEach capacity (first + front.flatten.length) behind := by
  induction front generalizing first with
  | nil => simp [leftOfEach]
  | cons batch rest ih =>
      rw [List.cons_append, leftOfEach, ih, leftOfEach, List.append_assoc, List.flatten_cons,
        List.length_append, Nat.add_assoc]

/-- An entry of a batch is received exactly if it is left of its batch: the numbers of all other
batches are lower or higher. -/
theorem mem_leftOfEach_iff {capacity first : Nat} {front behind : List (List Entry)}
    {entry : Entry} (hmem : entry ∈ numberFrom (first + front.flatten.length) batch) :
    entry ∈ leftOfEach capacity first (front ++ batch :: behind) ↔
      entry ∈ left capacity (first + front.flatten.length) batch := by
  have hnumber := seq_of_mem_numberFrom hmem
  have hfront : entry ∉ leftOfEach capacity first front := by
    intro hlower
    have hfar := seq_of_mem_numberFrom ((leftOfEach_sublist _ _ _).subset hlower)
    omega
  have hbehind : entry ∉
      leftOfEach capacity (first + front.flatten.length + batch.length) behind := by
    intro hhigher
    have hfar := seq_of_mem_numberFrom ((leftOfEach_sublist _ _ _).subset hhigher)
    omega
  rw [leftOfEach_append, leftOfEach, List.mem_append, List.mem_append, or_iff_right hfront,
    or_iff_left hbehind]

/-- The numbers of entries that were numbered one after the other go up. -/
theorem pairwise_seq_numberFrom (first : Nat) (entries : List Entry) :
    ((numberFrom first entries).map Entry.seq).Pairwise (· < ·) := by
  rw [map_seq_numberFrom]
  exact List.pairwise_lt_range'

/-- **Each entry is read once.**  Of all entries that were ever appended to a journal, under
whatever numbers they came, it holds the last ones, as many as it has room for, in their order and
under consecutive numbers up to the number of all; what stands behind a number is that part of
them which is numbered above it.  The numbers fit into a word, the next one included.

So take a reader that asks after each of any number of batches for what stands behind the newest
number it has seen.  All that it receives was appended, and comes in order and under rising
numbers, so nothing comes twice; and an entry of a batch is received exactly if the journal still
holds it when the reader asks after that batch. -/
theorem each_entry_read_once (capacity : Nat) :
    (∀ history : List Entry, history.length < UInt64.size - 1 →
      let journal := Journal.appendAll { capacity } history
      let count := min history.length capacity
      let gone := history.length - count
      (∀ place, journal.entries[place]? =
        history[gone + place]?.map fun entry => { entry with seq := gone + place + 1 }) ∧
      journal.entries.map Entry.seq = List.range' (gone + 1) count ∧
      journal.entries.length = count ∧ count ≤ capacity ∧
      (∀ seq, journal.since seq = journal.entries.drop (seq - gone) ∧
        ∀ entry, entry ∈ journal.since seq ↔ entry ∈ journal.entries ∧ seq < entry.seq) ∧
      journal.next = history.length + 1 ∧ journal.next < UInt64.size) ∧
    ∀ batches : List (List Entry), batches.flatten.length < UInt64.size - 1 →
      let received := (attend { capacity } {} batches).2.received
      received.Sublist (numberFrom 1 batches.flatten) ∧
      (received.map Entry.seq).Pairwise (· < ·) ∧
      ∀ front batch behind, batches = front ++ batch :: behind →
        ∀ entry ∈ numberFrom (front.flatten.length + 1) batch,
          entry ∈ received ↔
            entry ∈ (Journal.appendAll { capacity } (front.flatten ++ batch)).entries := by
  have hempty : Journal.Holds { capacity } [] := holds_empty capacity
  constructor
  · intro history hfits journal count gone
    have hholds : journal.Holds history := hempty.appendAll history
    have hcapacity : journal.capacity = capacity := capacity_appendAll _ history
    refine ⟨fun place => ?_, ?_, ?_, Nat.min_le_right _ _, fun seq => ⟨?_, fun entry => ?_⟩,
      hholds.next, ?_⟩
    · simpa only [hcapacity] using hholds.getElem?_entries place
    · simpa only [hcapacity] using hholds.map_seq
    · simpa only [hcapacity] using hholds.length
    · simpa only [hcapacity] using hholds.since_eq_drop seq
    · rw [Journal.since, List.mem_filter, decide_eq_true_eq]
    · rw [hholds.next]
      omega
  · intro batches _ received
    have hreceived : received = leftOfEach capacity 1 batches := by
      have hfresh : UpToDate { capacity } {} [] := .inr rfl
      have hall := (attend_spec batches hempty hfresh).2
      exact hall.trans (List.nil_append _)
    have hsublist : received.Sublist (numberFrom 1 batches.flatten) := by
      rw [hreceived]
      exact leftOfEach_sublist capacity 1 batches
    refine ⟨hsublist, (pairwise_seq_numberFrom 1 _).sublist (hsublist.map _), ?_⟩
    rintro front batch behind rfl entry hmem
    have hholds := hempty.appendAll (front.flatten ++ batch)
    rw [List.nil_append] at hholds
    rw [hreceived, hholds.mem_entries_iff hmem, capacity_appendAll]
    rw [Nat.add_comm] at hmem ⊢
    exact mem_leftOfEach_iff hmem

/-- A journal with room for two entries, which come with numbers of their own.  The first of
three is evicted before the reader asks, and never received. -/
theorem each_entry_read_once_evicted :
    let entry (message : String) : Entry := { seq := 7, level := .info, topic := .shell, message }
    let batches := [[entry "a", entry "b", entry "c"], [], [entry "d"]]
    let received := (attend { capacity := 2 } {} batches).2.received
    batches.flatten.length < UInt64.size - 1 ∧
      (Journal.appendAll { capacity := 2 } batches.flatten).entries.map Entry.seq = [3, 4] ∧
      (received.map Entry.seq).Pairwise (· < ·) ∧
      { entry "a" with seq := 1 } ∉ received ∧ { entry "c" with seq := 3 } ∈ received := by
  intro entry batches received
  have hfits : batches.flatten.length < UInt64.size - 1 := by decide
  obtain ⟨hheld, hread⟩ := each_entry_read_once 2
  obtain ⟨_, hseqs, _⟩ := hheld batches.flatten hfits
  obtain ⟨_, hrising, hall⟩ := hread batches hfits
  have hfirst := hall [] [entry "a", entry "b", entry "c"] [[], [entry "d"]] rfl
  refine ⟨hfits, hseqs, hrising, ?_, ?_⟩
  · rw [hfirst _ (by decide)]
    decide
  · rw [hfirst _ (by decide)]
    decide

end WorksheetBar.Journal
