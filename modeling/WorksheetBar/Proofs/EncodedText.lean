import Mathlib.Data.List.Basic
import WorksheetBar.Text.Utf8

/-!
# Texts as bytes

A text is put on the wire as bytes, and whoever reads it starts from these.  Every character
takes one to four bytes.  The first of them tells how many there are, and together they give
the code point back, so the pieces of the bytes of a text are its characters and there is no
stray byte among them.

* `front?_encoded` — the character at the front of its own bytes is read;
* `pieces_toUTF8` — the pieces of the bytes of a text are its characters.
-/

namespace WorksheetBar.Text.Utf8

/-! ## The bytes of a code point -/

/-- The number a byte is made of, as long as it fits. -/
private theorem toNat_byte {n : Nat} (h : n < 256) : (UInt8.ofNat n).toNat = n := by
  rw [UInt8.toNat_ofNat']
  exact Nat.mod_eq_of_lt h

private theorem byte_le {n : Nat} (h : n < 256) (bound : UInt8) :
    UInt8.ofNat n ≤ bound ↔ n ≤ bound.toNat := by
  rw [UInt8.le_iff_toNat_le, toNat_byte h]

private theorem le_byte {n : Nat} (h : n < 256) (bound : UInt8) :
    bound ≤ UInt8.ofNat n ↔ bound.toNat ≤ n := by
  rw [UInt8.le_iff_toNat_le, toNat_byte h]

/-- The low six bits of a number make a byte that goes on with a character. -/
theorem isTail_byte (n : Nat) : isTail (UInt8.ofNat (n % 64 + 128)) = true := by
  have hfits : n % 64 + 128 < 256 := by omega
  rw [isTail, Bool.and_eq_true, decide_eq_true_eq, decide_eq_true_eq, le_byte hfits,
    byte_le hfits]
  exact ⟨Nat.le_add_left 128 _, show n % 64 + 128 ≤ 191 by omega⟩

/-- The two bytes of a number up to U+07FF stand for it. -/
theorem two?_bytes {n : Nat} (hleast : 0x80 ≤ n) (hgreatest : n ≤ 0x7FF) :
    two? (UInt8.ofNat (n / 64 % 32 + 192)) (UInt8.ofNat (n % 64 + 128)) = some n := by
  have hfits : n / 64 % 32 + 192 < 256 := by omega
  have hlead : 0xC2 ≤ UInt8.ofNat (n / 64 % 32 + 192) ∧ UInt8.ofNat (n / 64 % 32 + 192) ≤ 0xDF := by
    rw [le_byte hfits, byte_le hfits]
    exact ⟨show 194 ≤ _ by omega, show _ ≤ 223 by omega⟩
  have hpoint : (n / 64 % 32 + 192 - 0xC0) * 64 + (n % 64 + 128 - 0x80) = n := by omega
  simp only [two?, hlead, isTail_byte, decide_true, Bool.and_self, if_true, toNat_byte hfits,
    toNat_byte (show n % 64 + 128 < 256 by omega), hpoint]

/-- A byte that leads three or four is not one that leads two. -/
theorem two?_eq_none {lead : UInt8} (h : 0xE0 ≤ lead.toNat) (second : UInt8) :
    two? lead second = none := by
  have hgreat : ¬ lead ≤ 0xDF := by
    rw [UInt8.le_iff_toNat_le]
    exact Nat.not_le_of_lt h
  simp [two?, hgreat]

theorem three?_bytes {n : Nat} (hleast : 0x800 ≤ n) (hgreatest : n ≤ 0xFFFF)
    (hvalid : n < 0xD800 ∨ 0xDFFF < n) :
    three? (UInt8.ofNat (n / 4096 % 16 + 224)) (UInt8.ofNat (n / 64 % 64 + 128))
      (UInt8.ofNat (n % 64 + 128)) = some n := by
  have hfits : n / 4096 % 16 + 224 < 256 := by omega
  have hlead : 0xE0 ≤ UInt8.ofNat (n / 4096 % 16 + 224) ∧
      UInt8.ofNat (n / 4096 % 16 + 224) ≤ 0xEF := by
    rw [le_byte hfits, byte_le hfits]
    exact ⟨show 224 ≤ _ by omega, show _ ≤ 239 by omega⟩
  have hpoint : (n / 4096 % 16 + 224 - 0xE0) * 4096 + (n / 64 % 64 + 128 - 0x80) * 64 +
      (n % 64 + 128 - 0x80) = n := by omega
  have hscalar : ¬ (n < 0x800 ∨ 0xD800 ≤ n ∧ n ≤ 0xDFFF) := by omega
  simp only [three?, hlead, isTail_byte, decide_true, Bool.and_self, if_true, toNat_byte hfits,
    toNat_byte (show n / 64 % 64 + 128 < 256 by omega),
    toNat_byte (show n % 64 + 128 < 256 by omega), hpoint, Bool.or_eq_true, Bool.and_eq_true,
    decide_eq_true_eq, if_neg hscalar]

/-- A byte that leads four is not one that leads three. -/
theorem three?_eq_none {lead : UInt8} (h : 0xF0 ≤ lead.toNat) (second third : UInt8) :
    three? lead second third = none := by
  have hgreat : ¬ lead ≤ 0xEF := by
    rw [UInt8.le_iff_toNat_le]
    exact Nat.not_le_of_lt h
  simp [three?, hgreat]

theorem four?_bytes {n : Nat} (hleast : 0x10000 ≤ n) (hgreatest : n ≤ 0x10FFFF) :
    four? (UInt8.ofNat (n / 262144 % 8 + 240)) (UInt8.ofNat (n / 4096 % 64 + 128))
      (UInt8.ofNat (n / 64 % 64 + 128)) (UInt8.ofNat (n % 64 + 128)) = some n := by
  have hfits : n / 262144 % 8 + 240 < 256 := by omega
  have hlead : 0xF0 ≤ UInt8.ofNat (n / 262144 % 8 + 240) ∧
      UInt8.ofNat (n / 262144 % 8 + 240) ≤ 0xF4 := by
    rw [le_byte hfits, byte_le hfits]
    exact ⟨show 240 ≤ _ by omega, show _ ≤ 244 by omega⟩
  have hpoint : (n / 262144 % 8 + 240 - 0xF0) * 262144 + (n / 4096 % 64 + 128 - 0x80) * 4096 +
      (n / 64 % 64 + 128 - 0x80) * 64 + (n % 64 + 128 - 0x80) = n := by omega
  have hscalar : ¬ (n < 0x10000 ∨ 0x10FFFF < n) := by omega
  simp only [four?, hlead, isTail_byte, decide_true, Bool.and_self, if_true, toNat_byte hfits,
    toNat_byte (show n / 4096 % 64 + 128 < 256 by omega),
    toNat_byte (show n / 64 % 64 + 128 < 256 by omega),
    toNat_byte (show n % 64 + 128 < 256 by omega), hpoint, Bool.or_eq_true,
    decide_eq_true_eq, if_neg hscalar]

/-! ## One character -/

section

variable {a b c d : UInt8} {rest : List UInt8} {point : Nat}

/-- A byte that leads more than one is not a character by itself. -/
private theorem not_lt_ascii (h : 0x80 ≤ a.toNat) : ¬ a < 0x80 := Nat.not_lt_of_le h

/-- A byte below 0x80 is a character by itself. -/
theorem front?_of_one (h : a < 0x80) : front? (a :: rest) = some (Char.ofNat a.toNat, 0) := by
  simp [front?, h]

theorem front?_of_two (ha : 0x80 ≤ a.toNat) (h : two? a b = some point) :
    front? (a :: b :: rest) = some (Char.ofNat point, 1) := by
  simp [front?, not_lt_ascii ha, h]

theorem front?_of_three (ha : 0xE0 ≤ a.toNat) (h : three? a b c = some point) :
    front? (a :: b :: c :: rest) = some (Char.ofNat point, 2) := by
  simp [front?, not_lt_ascii (show 0x80 ≤ a.toNat by omega), two?_eq_none ha, h]

theorem front?_of_four (ha : 0xF0 ≤ a.toNat) (h : four? a b c d = some point) :
    front? (a :: b :: c :: d :: rest) = some (Char.ofNat point, 3) := by
  have htwo : two? a b = none := two?_eq_none (by omega) b
  simp [front?, not_lt_ascii (show 0x80 ≤ a.toNat by omega), htwo, three?_eq_none ha, h]

end

/-- **The character at the front of its own bytes is read**, whatever comes behind them. -/
theorem front?_encoded (c : Char) (rest : List UInt8) :
    ∃ lead tail, String.utf8EncodeChar c = lead :: tail ∧
      front? (lead :: (tail ++ rest)) = some (c, tail.length) := by
  have hvalid : c.toNat < 0xD800 ∨ 0xDFFF < c.toNat ∧ c.toNat < 0x110000 := c.valid
  have hback : Char.ofNat c.toNat = c := Char.ofNat_toNat c
  unfold String.utf8EncodeChar
  dsimp only
  rw [show c.val.toNat = c.toNat from rfl]
  split
  · next hone =>
      have hbyte := toNat_byte (show c.toNat < 256 by omega)
      have hascii : UInt8.ofNat c.toNat < 0x80 := by
        rw [UInt8.lt_iff_toNat_lt, hbyte]
        exact Nat.lt_succ_of_le hone
      refine ⟨_, [], rfl, ?_⟩
      rw [front?_of_one hascii, hbyte, hback]
      rfl
  split
  · next hone htwo =>
      have hlead := toNat_byte (show c.toNat / 64 % 32 + 192 < 256 by omega)
      have hpoint := two?_bytes (n := c.toNat) (by omega) htwo
      refine ⟨_, [_], rfl, ?_⟩
      rw [List.singleton_append, front?_of_two (by omega) hpoint, hback]
      rfl
  split
  · next hone htwo hthree =>
      have hlead := toNat_byte (show c.toNat / 4096 % 16 + 224 < 256 by omega)
      have hpoint := three?_bytes (n := c.toNat) (by omega) hthree (by omega)
      refine ⟨_, [_, _], rfl, ?_⟩
      rw [List.cons_append, List.singleton_append, front?_of_three (by omega) hpoint, hback]
      rfl
  · next hone htwo hthree =>
      have hlead := toNat_byte (show c.toNat / 262144 % 8 + 240 < 256 by omega)
      have hpoint := four?_bytes (n := c.toNat) (by omega) (by omega)
      refine ⟨_, [_, _, _], rfl, ?_⟩
      rw [List.cons_append, List.cons_append, List.singleton_append,
        front?_of_four (by omega) hpoint, hback]
      rfl

/-- **A byte of one character by itself** stands in the bytes of no other character. -/
theorem mem_utf8EncodeChar_iff {c : Char} {byte : UInt8} (hascii : byte < 0x80) :
    byte ∈ String.utf8EncodeChar c ↔ c.toNat = byte.toNat := by
  rw [UInt8.lt_iff_toNat_lt] at hascii
  have hgreat {n : Nat} (hleast : 128 ≤ n) (hfits : n < 256) : byte ≠ UInt8.ofNat n := by
    intro h
    rw [h, toNat_byte hfits] at hascii
    exact absurd hascii (Nat.not_lt_of_le hleast)
  unfold String.utf8EncodeChar
  dsimp only
  rw [show c.val.toNat = c.toNat from rfl]
  split
  · next hone =>
      rw [List.mem_singleton, ← UInt8.toNat_inj, toNat_byte (by omega), eq_comm]
  · next hone =>
      -- every byte of a longer character is marked as one of several
      have hother : c.toNat ≠ byte.toNat := fun h => hone (h ▸ Nat.le_of_lt_succ hascii)
      refine iff_of_false ?_ hother
      split
      · simp only [List.mem_cons, List.not_mem_nil, or_false, not_or]
        exact ⟨hgreat (by omega) (by omega), hgreat (by omega) (by omega)⟩
      split
      · simp only [List.mem_cons, List.not_mem_nil, or_false, not_or]
        exact ⟨hgreat (by omega) (by omega), hgreat (by omega) (by omega),
          hgreat (by omega) (by omega)⟩
      · simp only [List.mem_cons, List.not_mem_nil, or_false, not_or]
        exact ⟨hgreat (by omega) (by omega), hgreat (by omega) (by omega),
          hgreat (by omega) (by omega), hgreat (by omega) (by omega)⟩

/-! ## A text -/

/-- Bytes of a character that was read already are passed over. -/
theorem piecesAfter_append (owed rest : List UInt8) :
    piecesAfter owed.length (owed ++ rest) = piecesAfter 0 rest := by
  induction owed with
  | nil => rfl
  | cons byte owed ih => exact ih

/-- **A character that was encoded is read back**, whatever follows. -/
theorem pieces_encoded_append (c : Char) (rest : List UInt8) :
    pieces (String.utf8EncodeChar c ++ rest) = .char c :: pieces rest := by
  obtain ⟨lead, tail, hbytes, hfront⟩ := front?_encoded c rest
  rw [hbytes, List.cons_append, pieces, piecesAfter, hfront]
  dsimp only
  rw [piecesAfter_append, pieces]

/-- The bytes of a text, as a list. -/
theorem toList_toUTF8 (text : String) :
    text.toUTF8.toList = text.toList.flatMap String.utf8EncodeChar := by
  have hloop : ∀ (bytes : ByteArray) (place : Nat) (read : List UInt8),
      ByteArray.toList.loop bytes place read = read.reverse ++ bytes.data.toList.drop place := by
    intro bytes place read
    fun_induction ByteArray.toList.loop bytes place read with
    | case1 place read hlt ih =>
        have hplace : place < bytes.data.toList.length := by simpa using hlt
        rw [ih, List.drop_eq_getElem_cons hplace]
        simp [ByteArray.get!, hlt]
    | case2 place read hge =>
        rw [List.drop_eq_nil_of_le (by simpa using Nat.le_of_not_lt hge), List.append_nil]
  have hbytes : text.toUTF8 = (text.toList.flatMap String.utf8EncodeChar).toByteArray := by
    conv_lhs => rw [← String.ofList_toList (s := text)]
    rw [String.toUTF8_eq_toByteArray, String.toByteArray_ofList]
    rfl
  rw [ByteArray.toList, hloop, hbytes, List.data_toByteArray]
  rfl

/-- **The pieces of the bytes of a text are its characters.** -/
theorem pieces_toUTF8 (text : String) : pieces text.toUTF8.toList = text.toList.map .char := by
  rw [toList_toUTF8]
  induction text.toList with
  | nil => rfl
  | cons c rest ih => rw [List.flatMap_cons, pieces_encoded_append, ih, List.map_cons]

end WorksheetBar.Text.Utf8
