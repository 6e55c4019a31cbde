/-!
# Bytes in digits

The ways to write bytes in characters of ASCII: hexadecimal digits, percent encoding and
base 64.

* `Hex.value?_lower` — a written digit reads back;
* `Percent.encode_of_plain` — a text of plain characters is its own encoding.
-/

namespace WorksheetBar.Text.Hex

/-- A lower-case digit. -/
def lower (n : Nat) : Char := if n < 10 then Char.ofNat (48 + n) else Char.ofNat (87 + n)

/-- An upper-case digit. -/
def upper (n : Nat) : Char := if n < 10 then Char.ofNat (48 + n) else Char.ofNat (55 + n)

/-- The value of a digit of either case. -/
def value? (c : Char) : Option Nat :=
  if c.isDigit then some (c.toNat - 48)
  else if 'a' ≤ c ∧ c ≤ 'f' then some (c.toNat - 87)
  else if 'A' ≤ c ∧ c ≤ 'F' then some (c.toNat - 55)
  else none

/-- A digit is read back. -/
theorem value?_lower {n : Nat} (h : n < 16) : value? (lower n) = some n := by
  have every : ∀ m ∈ List.range 16, value? (lower m) = some m := by decide
  exact every n (List.mem_range.mpr h)

end WorksheetBar.Text.Hex

/-! ## Percent encoding

A byte written as a percent sign and two hexadecimal digits.  Which ASCII characters
are written that way depends on where they stand; all others always are. -/

namespace WorksheetBar.Text.Percent

/-- A byte in its written form. -/
def encodeByte (byte : UInt8) : List Char :=
  ['%', Hex.upper (byte.toNat / 16), Hex.upper (byte.toNat % 16)]

/-- Whether a character can stand for itself: an ASCII character that is not among
the encoded ones. -/
def isPlain (isEncoded : Char → Bool) (c : Char) : Bool := c.toNat < 0x80 && !isEncoded c

/-- A character, encoded if need be. -/
def encodeChar (isEncoded : Char → Bool) (c : Char) : List Char :=
  if isPlain isEncoded c then [c] else (String.utf8EncodeChar c).flatMap encodeByte

/-- A text with the given characters encoded. -/
def encode (isEncoded : Char → Bool) (text : List Char) : List Char :=
  text.flatMap (encodeChar isEncoded)

/-- The byte that two characters after a percent sign stand for. -/
def byte? (high low : Char) : Option UInt8 :=
  match Hex.value? high, Hex.value? low with
  | some high, some low => some (high * 16 + low).toUInt8
  | _, _ => none

/-- The bytes that are meant, where `owed` characters belong to a byte that has been
taken already.  A percent sign without digits stands for itself. -/
def decodeAfter : Nat → List Char → List UInt8
  | _, [] => []
  | owed + 1, _ :: rest => decodeAfter owed rest
  | 0, '%' :: high :: low :: rest =>
    match byte? high low with
    | some byte => byte :: decodeAfter 2 (high :: low :: rest)
    | none => 37 :: decodeAfter 0 (high :: low :: rest)
  | 0, c :: rest => String.utf8EncodeChar c ++ decodeAfter 0 rest

/-- The bytes that a text stands for. -/
def decode (text : List Char) : List UInt8 := decodeAfter 0 text

/-- **A text of plain characters is its own encoding.** -/
theorem encode_of_plain {isEncoded : Char → Bool} {text : List Char}
    (h : ∀ c ∈ text, isPlain isEncoded c = true) : encode isEncoded text = text := by
  induction text with
  | nil => rfl
  | cons c rest ih =>
      have first : encodeChar isEncoded c = [c] := by simp [encodeChar, h c (by simp)]
      have others : encode isEncoded rest = rest := ih fun d member => h d (by simp [member])
      simp only [encode] at others ⊢
      simp [first, others]

end WorksheetBar.Text.Percent

/-! ## Base 64

Three bytes as four characters, with padding at the end. -/

namespace WorksheetBar.Text.Base64

/-- The character for six bits. -/
def digit (n : Nat) : Char :=
  if n < 26 then Char.ofNat (65 + n)
  else if n < 52 then Char.ofNat (71 + n)
  else if n < 62 then Char.ofNat (n - 4)
  else if n = 62 then '+'
  else '/'

/-- The characters for bytes. -/
def encode : List UInt8 → List Char
  | [] => []
  | [a] => [digit (a.toNat / 4), digit (a.toNat % 4 * 16), '=', '=']
  | [a, b] =>
    [digit (a.toNat / 4), digit (a.toNat % 4 * 16 + b.toNat / 16), digit (b.toNat % 16 * 4),
      '=']
  | a :: b :: c :: rest =>
    digit (a.toNat / 4) :: digit (a.toNat % 4 * 16 + b.toNat / 16) ::
      digit (b.toNat % 16 * 4 + c.toNat / 64) :: digit (c.toNat % 64) :: encode rest

end WorksheetBar.Text.Base64
