import Mathlib.Data.List.Basic
import WorksheetBar.Json.Printer
import WorksheetBar.Json.Reader

/-!
# Strings are read back

A character is written into a string either as it is or as an escape, and an escape begins
with a backslash.  So the reader knows at every character what it is looking at: a closing
quotation mark that was not written by the text itself, an escape, which it reads back to the
one character it stands for, or a character that stands for itself.  Both ways of reading, the
one that decodes and the one that only passes over, come to the same place.

* `escapeChar_cases` — how a character is written, and that its escape is read back;
* `readString_quoted` — a quoted text is read back, whatever comes behind it;
* `readValue_quoted` — and so it is where a value is due.
-/

namespace WorksheetBar.Json

open Text (Piece)

/-- A text as the pieces it is read from. -/
def spelled (text : List Char) : List Piece := text.map .char

@[simp] theorem spelled_nil : spelled [] = [] := rfl

@[simp] theorem spelled_cons (c : Char) (text : List Char) :
    spelled (c :: text) = .char c :: spelled text := rfl

@[simp] theorem spelled_append (first second : List Char) :
    spelled (first ++ second) = spelled first ++ spelled second := List.map_append

@[simp] theorem length_spelled (text : List Char) : (spelled text).length = text.length :=
  List.length_map _

/-- How many bytes a text takes. -/
def width (text : List Char) : Nat := Cursor.sizes (spelled text)

@[simp] theorem width_nil : width [] = 0 := rfl

@[simp] theorem width_cons (c : Char) (text : List Char) :
    width (c :: text) = c.utf8Size + width text := rfl

@[simp] theorem width_append (first second : List Char) :
    width (first ++ second) = width first + width second := by
  induction first with
  | nil => simp
  | cons c first ih => rw [List.cons_append, width_cons, width_cons, ih, Nat.add_assoc]

/-! ## Escapes -/

section

variable (offset : Nat) (rest : List Piece)

/-- An escape with a letter of its own. -/
theorem readEscape_letter {letter c : Char} (hletter : letterEscape? letter = some c) :
    readEscape ⟨offset, .char letter :: rest⟩ = .ok (c, ⟨offset + letter.utf8Size, rest⟩) ∧
      skipEscape ⟨offset, .char letter :: rest⟩ = .ok ⟨offset + letter.utf8Size, rest⟩ := by
  have hnumbered : ('u' == letter) = false := by
    rw [beq_eq_false_iff_ne]
    rintro rfl
    cases hletter
  constructor <;>
    simp [readEscape, skipEscape, Piece.is, Piece.char?, hnumbered, hletter, Cursor.next,
      Piece.size]

/-- Two digits behind two zeros. -/
theorem readHex_byte {n : Nat} (h : n < 256) :
    readHex ⟨offset, spelled ['0', '0', Text.Hex.lower (n / 16), Text.Hex.lower (n % 16)] ++ rest⟩ =
      .ok (n, ⟨offset + 4, rest⟩) := by
  have hzero : hexPiece? (.char '0') = some 0 := rfl
  have hhigh : hexPiece? (.char (Text.Hex.lower (n / 16))) = some (n / 16) :=
    Text.Hex.value?_lower (by omega)
  have hlow : hexPiece? (.char (Text.Hex.lower (n % 16))) = some (n % 16) :=
    Text.Hex.value?_lower (by omega)
  have hvalue : ((0 * 16 + 0) * 16 + n / 16) * 16 + n % 16 = n := by omega
  simp only [spelled, List.map_cons, List.map_nil, List.cons_append, List.nil_append, readHex,
    hzero, hhigh, hlow, hvalue]

/-- A digit takes one byte. -/
theorem utf8Size_lower {n : Nat} (h : n < 16) : (Text.Hex.lower n).utf8Size = 1 := by
  have every : ∀ m ∈ List.range 16, (Text.Hex.lower m).utf8Size = 1 := by decide
  exact every n (List.mem_range.mpr h)

/-- A numbered escape of a control character. -/
theorem readEscape_numbered {c : Char} (h : c.toNat < 0x20) :
    let digits := ['0', '0', Text.Hex.lower (c.toNat / 16), Text.Hex.lower (c.toNat % 16)]
    readEscape ⟨offset, spelled ('u' :: digits) ++ rest⟩ =
        .ok (c, ⟨offset + width ('u' :: digits), rest⟩) ∧
      skipEscape ⟨offset, spelled ('u' :: digits) ++ rest⟩ =
        .ok ⟨offset + width ('u' :: digits), rest⟩ := by
  intro digits
  have hhex := readHex_byte (offset + 1) rest (n := c.toNat) (by omega)
  have hwidth : offset + width ('u' :: digits) = offset + 1 + 4 := by
    simp only [digits, width_cons, width_nil, utf8Size_lower (show c.toNat / 16 < 16 by omega),
      utf8Size_lower (show c.toNat % 16 < 16 by omega)]
    rfl
  have hnext : Cursor.next ⟨offset, .char 'u' :: (spelled digits ++ rest)⟩ =
      ⟨offset + 1, spelled digits ++ rest⟩ := rfl
  have htrailing : ¬ (0xDC00 ≤ c.toNat ∧ c.toNat ≤ 0xDFFF) := by omega
  have hplain : c.toNat < 0xD800 ∨ 0xDBFF < c.toNat := by omega
  rw [hwidth, spelled_cons, List.cons_append]
  constructor
  · simp only [readEscape, Piece.is, beq_self_eq_true, if_true, hnext, readPoint, hhex, bind,
      Except.bind, if_neg htrailing, if_pos hplain, digits, Char.ofNat_toNat]
  · simp only [skipEscape, Piece.is, beq_self_eq_true, if_true, hnext, hhex, digits, Except.map]

end

/-- **How a character is written into a string**: as an escape, which is read back, or as it
is. -/
theorem escapeChar_cases (c : Char) :
    (∃ tail, escapeChar c = '\\' :: tail ∧ ∀ offset rest,
      readEscape ⟨offset, spelled tail ++ rest⟩ = .ok (c, ⟨offset + width tail, rest⟩) ∧
        skipEscape ⟨offset, spelled tail ++ rest⟩ = .ok ⟨offset + width tail, rest⟩) ∨
      (escapeChar c = [c] ∧ c ≠ '"' ∧ c ≠ '\\' ∧ 0x20 ≤ c.toNat) := by
  have hletter : ∀ letter, letterEscape? letter = some c → escapeChar c = ['\\', letter] →
      ∃ tail, escapeChar c = '\\' :: tail ∧ ∀ offset rest,
        readEscape ⟨offset, spelled tail ++ rest⟩ = .ok (c, ⟨offset + width tail, rest⟩) ∧
          skipEscape ⟨offset, spelled tail ++ rest⟩ = .ok ⟨offset + width tail, rest⟩ :=
    fun letter hmeans hwritten =>
      ⟨[letter], hwritten, fun offset rest => readEscape_letter offset rest hmeans⟩
  by_cases hquote : c = '"'
  · subst hquote
    exact Or.inl (hletter '"' rfl rfl)
  by_cases hslash : c = '\\'
  · subst hslash
    exact Or.inl (hletter '\\' rfl rfl)
  by_cases hline : c = '\n'
  · subst hline
    exact Or.inl (hletter 'n' rfl rfl)
  by_cases hreturn : c = '\r'
  · subst hreturn
    exact Or.inl (hletter 'r' rfl rfl)
  by_cases htab : c = '\t'
  · subst htab
    exact Or.inl (hletter 't' rfl rfl)
  by_cases hback : c = '\x08'
  · subst hback
    exact Or.inl (hletter 'b' rfl rfl)
  by_cases hform : c = '\x0c'
  · subst hform
    exact Or.inl (hletter 'f' rfl rfl)
  by_cases hcontrol : c.toNat < 0x20
  · refine Or.inl ⟨_, ?_, fun offset rest => readEscape_numbered offset rest hcontrol⟩
    simp only [escapeChar, hquote, hslash, hline, hreturn, htab, hback, hform, hcontrol, if_true,
      if_false]
  · refine Or.inr ⟨?_, hquote, hslash, Nat.le_of_not_lt hcontrol⟩
    simp only [escapeChar, hquote, hslash, hline, hreturn, htab, hback, hform, hcontrol, if_false]

theorem escapeChar_ne_nil (c : Char) : escapeChar c ≠ [] := by
  rcases escapeChar_cases c with ⟨tail, hwritten, _⟩ | ⟨hwritten, _⟩ <;> simp [hwritten]

/-- A text is never shorter when it is written. -/
theorem length_le_escape (text : List Char) : text.length ≤ (escape text).length := by
  induction text with
  | nil => exact Nat.le_refl 0
  | cons c text ih =>
      have hsome := List.length_pos_of_ne_nil (escapeChar_ne_nil c)
      rw [escape_cons, List.length_append, List.length_cons]
      omega

/-! ## Strings -/

section

variable (fuel offset : Nat) (rest : List Piece) (read : List Char)

/-- Either reader takes one step for a character, however it is written. -/
theorem decodeString_escapeChar (c : Char) :
    decodeString (fuel + 1) ⟨offset, spelled (escapeChar c) ++ rest⟩ none read =
        decodeString fuel ⟨offset + width (escapeChar c), rest⟩ none (c :: read) ∧
      skipString (fuel + 1) ⟨offset, spelled (escapeChar c) ++ rest⟩ =
        skipString fuel ⟨offset + width (escapeChar c), rest⟩ := by
  rcases escapeChar_cases c with ⟨tail, hwritten, hback⟩ | ⟨hwritten, hquote, hslash, hgreat⟩
  · obtain ⟨hdecoded, hskipped⟩ := hback (offset + 1) rest
    have hnext : Cursor.next ⟨offset, .char '\\' :: (spelled tail ++ rest)⟩ =
        ⟨offset + 1, spelled tail ++ rest⟩ := rfl
    have hplace : offset + width ('\\' :: tail) = offset + 1 + width tail := by
      rw [width_cons, Nat.add_assoc]
      rfl
    rw [hwritten, spelled_cons, List.cons_append, decodeString, skipString, hplace]
    constructor
    · simp only [Piece.is, hnext, hdecoded]
      rfl
    · simp only [Piece.is, hnext, hskipped]
      rfl
  · have hquoted : ('"' == c) = false := beq_eq_false_iff_ne.mpr hquote.symm
    have hslashed : ('\\' == c) = false := beq_eq_false_iff_ne.mpr hslash.symm
    have hcontrol : isControl (.char c) = false := by simpa [isControl] using hgreat
    rw [hwritten, spelled_cons, List.cons_append, decodeString, skipString]
    constructor <;> simp [Piece.is, hquoted, hslashed, hcontrol, Cursor.next, Piece.size]

/-- **The written text, up to and with its closing quotation mark, is read back.** -/
theorem decodeString_escape (text : List Char) (hfuel : text.length < fuel) :
    decodeString fuel ⟨offset, spelled (escape text) ++ .char '"' :: rest⟩ none read =
        .ok (String.ofList (read.reverse ++ text), ⟨offset + width (escape text) + 1, rest⟩) ∧
      skipString fuel ⟨offset, spelled (escape text) ++ .char '"' :: rest⟩ =
        .ok ⟨offset + width (escape text) + 1, rest⟩ := by
  induction text generalizing fuel offset read with
  | nil =>
      obtain ⟨fuel, rfl⟩ := Nat.exists_eq_add_one_of_ne_zero (Nat.ne_of_gt hfuel)
      have hsize : '"'.utf8Size = 1 := rfl
      constructor <;> simp [decodeString, skipString, Piece.is, Cursor.next, Piece.size, hsize]
  | cons c text ih =>
      obtain ⟨fuel, rfl⟩ :=
        Nat.exists_eq_add_one_of_ne_zero (Nat.ne_of_gt (Nat.zero_lt_of_lt hfuel))
      obtain ⟨hdecoded, hskipped⟩ := ih fuel (offset + width (escapeChar c)) (c :: read)
        (Nat.lt_of_succ_lt_succ hfuel)
      obtain ⟨hdecodes, hskips⟩ := decodeString_escapeChar fuel offset
        (spelled (escape text) ++ .char '"' :: rest) read c
      rw [escape_cons, spelled_append, List.append_assoc, hdecodes, hskips, hdecoded, hskipped,
        width_append, Nat.add_assoc offset, List.reverse_cons, List.append_assoc]
      exact ⟨rfl, rfl⟩

end

section

variable (offset : Nat) (rest : List Piece) (text : String)

/-- What either reader makes of a quoted text, if it begins at a place. -/
def quotedReading : Reading String :=
  ⟨.ok text, none, offset + width (escape text.toList) + 1⟩

/-- **A quoted text is read back**, after its opening quotation mark. -/
theorem readString_quoted :
    readString ⟨offset, spelled (escape text.toList ++ ['"']) ++ rest⟩ =
      (quotedReading offset text, some ⟨offset + width (escape text.toList) + 1, rest⟩) := by
  have hsplit : spelled (escape text.toList ++ ['"']) ++ rest =
      spelled (escape text.toList) ++ .char '"' :: rest := by simp
  have hfuel : text.toList.length <
      (spelled (escape text.toList) ++ .char '"' :: rest).length + 1 := by
    have hlong := length_le_escape text.toList
    rw [List.length_append, length_spelled]
    omega
  obtain ⟨hdecoded, hskipped⟩ := decodeString_escape _ offset rest [] text.toList hfuel
  rw [List.reverse_nil, List.nil_append, String.ofList_toList] at hdecoded
  rw [hsplit, readString]
  simp only [hdecoded, hskipped]
  rfl

/-- **A quoted text is read back where a value is due.** -/
theorem readValue_quoted (fuel : Nat) :
    readValue (fuel + 1) ⟨offset, spelled (quoted text) ++ rest⟩ =
      (.string (quotedReading (offset + 1) text),
        some ⟨offset + 1 + width (escape text.toList) + 1, rest⟩) := by
  have hnext : Cursor.next ⟨offset, spelled (quoted text) ++ rest⟩ =
      ⟨offset + 1, spelled (escape text.toList ++ ['"']) ++ rest⟩ := rfl
  have hblanks : Cursor.skipBlanks ⟨offset, spelled (quoted text) ++ rest⟩ =
      ⟨offset, spelled (quoted text) ++ rest⟩ := rfl
  have hchar : Cursor.char? ⟨offset, spelled (quoted text) ++ rest⟩ = some '"' := rfl
  rw [readValue, hblanks]
  simp only [hchar, hnext, readString_quoted]

end

end WorksheetBar.Json
