import WorksheetBar.Json.Reader

/-!
# What can be read can be passed over

Every token is read twice, for a decoder that makes a value of it and for a skipper that only
looks for its end.  The skipper is the more lenient one: where the decoder makes a value, the
skipper finds the end.  The two do not go in step.  A pair of surrogates is one character to the
decoder and two escapes to the skipper.

So in a document that can be read in full any member can be passed over, whatever its value is.

* `skipString_of_decodeString` — a text that can be decoded can be skipped;
* `readersAgree` — this is so for every token that is read;
* `Node.skip_of_decode` — and so for every value of a document.
-/

/-! ## Attempts

What is read comes to a value or to what is wrong with it.  An attempt that goes on with what an
earlier one came to succeeds exactly if both do. -/

namespace WorksheetBar.Attempt

variable {ε α β : Type} {first : Except ε α}

/-- An attempt succeeds exactly if it does with another value made of what it came to. -/
theorem map_eq_ok_iff {change : α → β} {value : β} :
    first.map change = .ok value ↔ ∃ given, first = .ok given ∧ change given = value := by
  cases first <;> simp [Except.map]

/-- One attempt after another succeeds exactly if both do. -/
theorem bind_eq_ok_iff {second : α → Except ε β} {value : β} :
    first >>= second = .ok value ↔ ∃ given, first = .ok given ∧ second given = .ok value := by
  cases first <;> simp [bind, Except.bind]

end WorksheetBar.Attempt

/-! ## Decoders and skippers -/

namespace WorksheetBar.Json

open Text (Piece)

/-- What can be decoded can be passed over. -/
def Reading.Agrees {α : Type} (reading : Reading α) : Prop :=
  ∀ value, reading.decoded = .ok value → reading.skipped = none

mutual

/-- What can be decoded can be passed over, for every token of a node. -/
def Node.Agrees : Node → Prop
  | .null _ | .bool _ _ | .broken _ => True
  | .number reading => reading.Agrees
  | .string reading => reading.Agrees
  | .array _ items => items.Agrees
  | .object _ members => members.Agrees

/-- What can be decoded can be passed over, for every token of the items. -/
def Items.Agrees : Items → Prop
  | .closed _ | .cut _ _ => True
  | .last _ item => item.Agrees
  | .cons _ item rest => item.Agrees ∧ rest.Agrees

/-- What can be decoded can be passed over, for every token of the members. -/
def Fields.Agrees : Fields → Prop
  | .closed _ | .cut _ _ => True
  | .lastKey key | .noColon key _ _ => key.Agrees
  | .last key _ value => key.Agrees ∧ value.Agrees
  | .cons key _ value rest => key.Agrees ∧ value.Agrees ∧ rest.Agrees

end

/-! ## Passing over a value -/

mutual

/-- **A value that can be decoded can be passed over.** -/
theorem Node.skip_of_decode {room : Nat} {value : Json} :
    ∀ {node : Node}, node.Agrees → node.decode room = .ok value → node.skip = none
  | .null _, _, _ | .bool _ _, _, _ => rfl
  | .number reading, hagrees, hdecode => by
      obtain ⟨number, hnumber, _⟩ := Attempt.map_eq_ok_iff.mp hdecode
      exact hagrees number hnumber
  | .string reading, hagrees, hdecode => by
      obtain ⟨text, htext, _⟩ := Attempt.map_eq_ok_iff.mp hdecode
      exact hagrees text htext
  | .array start items, hagrees, hdecode => by
      rw [Node.decode] at hdecode
      split at hdecode
      · cases hdecode
      · obtain ⟨values, hvalues, _⟩ := Attempt.map_eq_ok_iff.mp hdecode
        exact Items.skip_of_decode hagrees hvalues
  | .object start members, hagrees, hdecode => by
      rw [Node.decode] at hdecode
      split at hdecode
      · cases hdecode
      · obtain ⟨values, hvalues, _⟩ := Attempt.map_eq_ok_iff.mp hdecode
        exact Fields.skip_of_decode hagrees hvalues
  | .broken fault, _, hdecode => nomatch hdecode

/-- Items that can be decoded can be passed over. -/
theorem Items.skip_of_decode {room : Nat} {values : List Json} :
    ∀ {items : Items}, items.Agrees → items.decode room = .ok values → items.skip = none
  | .closed _, _, _ => rfl
  | .cut _ _, _, hdecode => nomatch hdecode
  | .last _ item, hagrees, hdecode => by
      obtain ⟨value, hvalue, _⟩ := Attempt.map_eq_ok_iff.mp hdecode
      exact Node.skip_of_decode hagrees hvalue
  | .cons _ item rest, hagrees, hdecode => by
      rw [Items.decode] at hdecode
      split at hdecode
      · cases hdecode
      · next value hvalue =>
          obtain ⟨values, hvalues, _⟩ := Attempt.map_eq_ok_iff.mp hdecode
          rw [Items.skip, Node.skip_of_decode hagrees.1 hvalue,
            Items.skip_of_decode hagrees.2 hvalues]
          rfl

/-- Members that can be decoded can be passed over. -/
theorem Fields.skip_of_decode {room : Nat} {values : List (String × Json)} :
    ∀ {members : Fields}, members.Agrees → members.decode room = .ok values →
      members.skip = none
  | .closed _, _, _ => rfl
  | .cut _ _, _, hdecode => nomatch hdecode
  | .lastKey key, hagrees, hdecode => by
      obtain ⟨name, hname, _⟩ := Attempt.map_eq_ok_iff.mp hdecode
      exact hagrees name hname
  | .noColon key _ fault, _, hdecode => by
      rw [Fields.decode] at hdecode
      split at hdecode <;> cases hdecode
  | .last key _ value, hagrees, hdecode => by
      rw [Fields.decode] at hdecode
      split at hdecode
      · cases hdecode
      · next name hname =>
          obtain ⟨decoded, hdecoded, _⟩ := Attempt.map_eq_ok_iff.mp hdecode
          rw [Fields.skip, hagrees.1 name hname, Node.skip_of_decode hagrees.2 hdecoded]
          rfl
  | .cons key _ value rest, hagrees, hdecode => by
      rw [Fields.decode] at hdecode
      split at hdecode
      · cases hdecode
      · next name hname =>
          split at hdecode
          · cases hdecode
          · next decoded hdecoded =>
              obtain ⟨values, hvalues, _⟩ := Attempt.map_eq_ok_iff.mp hdecode
              rw [Fields.skip, hagrees.1 name hname, Node.skip_of_decode hagrees.2.1 hdecoded,
                Fields.skip_of_decode hagrees.2.2 hvalues]
              rfl

end

/-! ## Strings -/

section

variable {cursor after : Cursor}

/-- A piece is a character if it is seen as one. -/
theorem eq_char_of_is {piece : Piece} {c : Char} (h : piece.is c = true) : piece = .char c := by
  cases piece with
  | char d => rw [eq_of_beq h]
  | stray byte => cases h

/-- Where a character is seen there is one more piece. -/
theorem length_next_of_sees {c : Char} (h : cursor.sees c = true) :
    cursor.next.rest.length + 1 = cursor.rest.length := by
  obtain ⟨offset, rest⟩ := cursor
  cases rest with
  | nil => cases h
  | cons piece rest => rfl

theorem length_readHex {number : Nat} (h : readHex cursor = .ok (number, after)) :
    after.rest.length + 4 = cursor.rest.length := by
  unfold readHex at h
  split at h
  · next hrest =>
      rw [hrest]
      split at h
      · cases h
        rfl
      · cases h
  · split at h <;> cases h

/-- Inside a pair of surrogates a character is expected and taken. -/
theorem expectInPair_eq_ok {c : Char} (h : expectInPair c cursor = .ok after) :
    cursor.sees c = true ∧ after = cursor.next := by
  unfold expectInPair at h
  split at h
  · cases h
  · split at h
    · next hsees =>
        cases h
        exact ⟨hsees, rfl⟩
    · cases h

/-- A numbered escape is skipped as far as its digits go. -/
theorem skipEscape_of_sees (h : cursor.sees 'u' = true) :
    skipEscape cursor = (readHex cursor.next).map Prod.snd := by
  obtain ⟨offset, rest⟩ := cursor
  cases rest with
  | nil => cases h
  | cons piece rest =>
      have hnumbered : piece.is 'u' = true := h
      simp [skipEscape, hnumbered]

/-- A numbered escape that can be decoded is one escape to the skipper, or two if it makes a pair
of surrogates. -/
theorem skipEscape_of_readPoint {c : Char} (hsees : cursor.sees 'u' = true)
    (h : readPoint cursor.next = .ok (c, after)) :
    (skipEscape cursor = .ok after ∧ after.rest.length < cursor.rest.length) ∨
      ∃ half : Cursor, skipEscape cursor = .ok half ∧ half.sees '\\' = true ∧
        skipEscape half.next = .ok after ∧ after.rest.length + 2 < cursor.rest.length := by
  obtain ⟨⟨first, half⟩, hfirst, h⟩ := Attempt.bind_eq_ok_iff.mp h
  have hskipped : skipEscape cursor = .ok half := by
    rw [skipEscape_of_sees hsees, hfirst]
    rfl
  have hlength := length_next_of_sees hsees
  have hdigits := length_readHex hfirst
  dsimp only at h
  split at h
  · cases h
  · split at h
    · cases h
      exact Or.inl ⟨hskipped, by omega⟩
    · obtain ⟨letter, hletter, h⟩ := Attempt.bind_eq_ok_iff.mp h
      obtain ⟨hbackslash, rfl⟩ := expectInPair_eq_ok hletter
      obtain ⟨digits, hnumber, h⟩ := Attempt.bind_eq_ok_iff.mp h
      obtain ⟨hnumbered, rfl⟩ := expectInPair_eq_ok hnumber
      obtain ⟨⟨second, behind⟩, hsecond, h⟩ := Attempt.bind_eq_ok_iff.mp h
      have hfollows := length_next_of_sees hbackslash
      have hletters := length_next_of_sees hnumbered
      have hmore := length_readHex hsecond
      dsimp only at h
      split at h
      · cases h
      · obtain rfl : behind = after := congrArg Prod.snd (Except.ok.inj h)
        refine Or.inr ⟨half, hskipped, hbackslash, ?_, by omega⟩
        rw [skipEscape_of_sees hnumbered, hsecond]
        rfl

/-- **An escape that can be decoded** can be skipped, as one escape or as two. -/
theorem skipEscape_of_readEscape {c : Char} (h : readEscape cursor = .ok (c, after)) :
    (skipEscape cursor = .ok after ∧ after.rest.length < cursor.rest.length) ∨
      ∃ half : Cursor, skipEscape cursor = .ok half ∧ half.sees '\\' = true ∧
        skipEscape half.next = .ok after ∧ after.rest.length + 2 < cursor.rest.length := by
  obtain ⟨offset, rest⟩ := cursor
  cases rest with
  | nil => cases h
  | cons piece rest =>
      simp only [readEscape] at h
      split at h
      · next hnumbered => exact skipEscape_of_readPoint hnumbered h
      · next hother =>
          split at h
          · next letter hletter =>
              cases h
              exact Or.inl ⟨by simp [skipEscape, hother, hletter], Nat.lt_succ_self _⟩
          · cases h

/-- An escape is skipped in one step. -/
theorem skipString_of_sees (more : Nat) (h : cursor.sees '\\' = true) {behind : Cursor}
    (hescape : skipEscape cursor.next = .ok behind) :
    skipString (more + 1) cursor = skipString more behind := by
  obtain ⟨offset, rest⟩ := cursor
  cases rest with
  | nil => cases h
  | cons piece rest =>
      obtain rfl : piece = .char '\\' := eq_char_of_is h
      simp only [skipString, hescape]
      rfl

/-- **A text that can be decoded can be skipped**, by a skipper that may take as many steps as
there are pieces. -/
theorem skipString_of_decodeString {fuel : Nat} {stray : Option Nat} {text : List Char}
    {result : String × Cursor} (h : decodeString fuel cursor stray text = .ok result) {more : Nat}
    (hmore : cursor.rest.length < more) : ∃ after, skipString more cursor = .ok after := by
  induction fuel generalizing cursor stray text more with
  | zero => cases h
  | succ fuel ih =>
      obtain ⟨more, rfl⟩ : ∃ fewer, more = fewer + 1 := ⟨more - 1, by omega⟩
      obtain ⟨offset, rest⟩ := cursor
      cases rest with
      | nil => cases h
      | cons piece rest =>
          have hrest : rest.length < more := by simpa using hmore
          simp only [decodeString] at h
          split at h
          · next hquote =>
              exact ⟨⟨offset + piece.size, rest⟩, by simp [skipString, hquote, Cursor.next]⟩
          · next hquote =>
              split at h
              · next hbackslash =>
                  have hsees : Cursor.sees ⟨offset, piece :: rest⟩ '\\' = true := hbackslash
                  -- one step of the decoder may be two of the skipper
                  split at h
                  · cases h
                  · next c behind hescape =>
                      rcases skipEscape_of_readEscape hescape with ⟨hskipped, hlength⟩ |
                        ⟨half, hskipped, hpair, hagain, hlength⟩
                      · rw [skipString_of_sees more hsees hskipped]
                        exact ih h (Nat.lt_trans hlength hrest)
                      · obtain ⟨fewer, rfl⟩ : ∃ fewer, more = fewer + 1 := ⟨more - 1, by omega⟩
                        rw [skipString_of_sees (fewer + 1) hsees hskipped,
                          skipString_of_sees fewer hpair hagain]
                        have hleft : behind.rest.length + 2 < rest.length := hlength
                        exact ih h (by omega)
              · next hbackslash =>
                  split at h
                  · cases h
                  · next hcontrol =>
                      have hstep : skipString (more + 1) ⟨offset, piece :: rest⟩ =
                          skipString more ⟨offset + piece.size, rest⟩ := by
                        simp [skipString, hquote, hbackslash, hcontrol, Cursor.next]
                      rw [hstep]
                      split at h <;> exact ih h hrest

theorem readString_agrees (cursor : Cursor) : (readString cursor).1.Agrees := by
  intro value hdecoded
  unfold readString at hdecoded ⊢
  dsimp only at hdecoded ⊢
  split at hdecoded
  · next fault hfault =>
      obtain ⟨result, hresult, _⟩ := Attempt.map_eq_ok_iff.mp hdecoded
      obtain ⟨after, hafter⟩ := skipString_of_decodeString hresult (Nat.lt_succ_self _)
      rw [hfault] at hafter
      cases hafter
  · rfl

end

/-! ## Numbers -/

theorem brokenNumber_agrees (decoding skipping : Fault) :
    (brokenNumber decoding skipping).1.Agrees :=
  fun _ hdecoded => nomatch hdecoded

theorem wholeNumber_agrees (negative : Bool) (whole : List Char) (fraction : Option (List Char))
    (exponent : Option (Bool × List Char)) (rangeStop : Nat) (cursor : Cursor) :
    (wholeNumber negative whole fraction exponent rangeStop cursor).1.Agrees :=
  fun _ _ => rfl

theorem readExponent_agrees (negative : Bool) (whole : List Char) (fraction : Option (List Char))
    (cursor : Cursor) : (readExponent negative whole fraction cursor).1.Agrees := by
  unfold readExponent
  extract_lets down after
  split
  · exact brokenNumber_agrees _ _
  · dsimp only
    split
    · exact brokenNumber_agrees _ _
    · exact wholeNumber_agrees _ _ _ _ _ _

theorem readScale_agrees (negative : Bool) (whole : List Char) (fraction : Option (List Char))
    (cursor : Cursor) : (readScale negative whole fraction cursor).1.Agrees := by
  unfold readScale
  split
  · exact readExponent_agrees _ _ _ _
  · exact wholeNumber_agrees _ _ _ _ _ _

theorem readNumber_agrees (negative : Bool) (cursor : Cursor) :
    (readNumber negative cursor).1.Agrees := by
  unfold readNumber
  split
  · exact brokenNumber_agrees _ _
  · dsimp only
    split
    · exact brokenNumber_agrees _ _
    · exact brokenNumber_agrees _ _
    · unfold readFraction
      split
      · dsimp only
        split
        · exact brokenNumber_agrees _ _
        · exact readScale_agrees _ _ _ _
      · exact readScale_agrees _ _ _ _

/-! ## Values -/

/-- On every token that a reader reads in so many steps decoding and skipping agree. -/
structure ReadersAgree (fuel : Nat) : Prop where
  value : ∀ cursor, (readValue fuel cursor).1.Agrees
  items : ∀ cursor, (readItems fuel cursor).1.Agrees
  item : ∀ cursor, (readItem fuel cursor).1.Agrees
  moreItems : ∀ cursor, (readMoreItems fuel cursor).1.Agrees
  fields : ∀ cursor, (readFields fuel cursor).1.Agrees
  field : ∀ cursor, (readField fuel cursor).1.Agrees
  moreFields : ∀ cursor, (readMoreFields fuel cursor).1.Agrees

theorem wordNode_agrees (rest : List Char) (node : Nat → Node) (hnode : ∀ stop, (node stop).Agrees)
    (cursor : Cursor) : (wordNode rest node cursor).1.Agrees := by
  unfold wordNode
  split
  · exact trivial
  · exact hnode _

namespace ReadersAgree

variable {fuel : Nat} (h : ReadersAgree fuel) (cursor : Cursor)

include h

/-- A value one level up is a word, a number, a string, or brackets around what is read at the level
below. -/
theorem value_succ : (readValue (fuel + 1) cursor).1.Agrees := by
  unfold readValue
  dsimp only
  split
  · exact wordNode_agrees ['u', 'l', 'l'] .null (fun _ => trivial) _
  · exact wordNode_agrees ['r', 'u', 'e'] (.bool true) (fun _ => trivial) _
  · exact wordNode_agrees ['a', 'l', 's', 'e'] (.bool false) (fun _ => trivial) _
  · exact readNumber_agrees true _
  · exact readString_agrees _
  · exact h.items _
  · exact h.fields _
  · split
    · exact readNumber_agrees false _
    · exact trivial
  · split <;> exact trivial

theorem items_succ : (readItems (fuel + 1) cursor).1.Agrees := by
  unfold readItems
  dsimp only
  split
  · exact trivial
  · split
    · exact trivial
    · exact h.item _

theorem item_succ : (readItem (fuel + 1) cursor).1.Agrees := by
  have hvalue := h.value cursor
  unfold readItem
  split
  · next item hread =>
      rw [hread] at hvalue
      exact hvalue
  · next item after hread =>
      rw [hread] at hvalue
      exact ⟨hvalue, h.moreItems after⟩

theorem moreItems_succ : (readMoreItems (fuel + 1) cursor).1.Agrees := by
  unfold readMoreItems
  dsimp only
  split
  · exact trivial
  · split
    · exact trivial
    · split
      · split
        · exact trivial
        · split
          · exact trivial
          · exact h.item _
      · exact trivial

theorem fields_succ : (readFields (fuel + 1) cursor).1.Agrees := by
  unfold readFields
  dsimp only
  split
  · exact trivial
  · split
    · exact trivial
    · split
      · exact h.field _
      · exact trivial

theorem field_succ : (readField (fuel + 1) cursor).1.Agrees := by
  have hkey := readString_agrees cursor
  unfold readField
  split
  · next key hread =>
      rw [hread] at hkey
      exact hkey
  · next key after hread =>
      rw [hread] at hkey
      dsimp only
      split
      · exact hkey
      · split
        · have hvalue := h.value after.skipBlanks.next
          split
          · next value hvalued =>
              rw [hvalued] at hvalue
              exact ⟨hkey, hvalue⟩
          · next value behind hvalued =>
              rw [hvalued] at hvalue
              exact ⟨hkey, hvalue, h.moreFields behind⟩
        · exact hkey

theorem moreFields_succ : (readMoreFields (fuel + 1) cursor).1.Agrees := by
  unfold readMoreFields
  dsimp only
  split
  · exact trivial
  · split
    · exact trivial
    · split
      · split
        · exact trivial
        · split
          · exact h.field _
          · split <;> exact trivial
      · exact trivial

end ReadersAgree

/-- **Whatever is read, what can be decoded can be passed over.** -/
theorem readersAgree (fuel : Nat) : ReadersAgree fuel := by
  induction fuel with
  | zero => constructor <;> exact fun _ => trivial
  | succ fuel ih =>
      exact ⟨ih.value_succ, ih.items_succ, ih.item_succ, ih.moreItems_succ, ih.fields_succ,
        ih.field_succ, ih.moreFields_succ⟩

/-- **In every document the two readings agree.** -/
theorem Document.root_agrees (pieces : List Piece) : (Document.ofPieces pieces).root.Agrees := by
  have hvalue := (readersAgree (4 * pieces.length + 4)).value ⟨0, pieces⟩
  unfold Document.ofPieces
  split
  · next root hread =>
      rw [hread] at hvalue
      exact hvalue
  · next root after hread =>
      rw [hread] at hvalue
      exact hvalue

end WorksheetBar.Json
