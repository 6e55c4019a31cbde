/-!
# Bytes as characters

A byte string read as UTF-8: the characters it holds, in order, and between
them the bytes that belong to no character.  No byte is lost, so a reader that
looks only for ASCII can go over any bytes at all, and one that needs text can
ask whether every piece is a character.

* `decode?_of_strayless` — bytes without a stray one are a text.
-/

namespace WorksheetBar.Text

/-- What a byte string consists of. -/
inductive Piece where
  | char (c : Char)
  | stray (byte : UInt8)
  deriving DecidableEq, Repr

namespace Piece

/-- How many bytes the piece takes. -/
def size : Piece → Nat
  | char c => c.utf8Size
  | stray _ => 1

/-- Whether the piece is the given character. -/
def is (c : Char) : Piece → Bool
  | char d => c == d
  | stray _ => false

/-- The character, if the piece is one. -/
def char? : Piece → Option Char
  | char c => some c
  | stray _ => none

end Piece

namespace Utf8

/-- Whether a byte continues a character. -/
def isTail (b : UInt8) : Bool := 0x80 ≤ b && b ≤ 0xBF

/-- The code point of two bytes, if they make a character. -/
def two? (a b : UInt8) : Option Nat :=
  if 0xC2 ≤ a && a ≤ 0xDF && isTail b then
    some ((a.toNat - 0xC0) * 64 + (b.toNat - 0x80))
  else none

/-- The code point of three bytes, if they make a character: not one that two
bytes can hold, and no surrogate. -/
def three? (a b c : UInt8) : Option Nat :=
  if 0xE0 ≤ a && a ≤ 0xEF && isTail b && isTail c then
    let point := (a.toNat - 0xE0) * 4096 + (b.toNat - 0x80) * 64 + (c.toNat - 0x80)
    if point < 0x800 || (0xD800 ≤ point && point ≤ 0xDFFF) then none else some point
  else none

/-- The code point of four bytes, if they make a character: not one that three
bytes can hold, and none beyond the last. -/
def four? (a b c d : UInt8) : Option Nat :=
  if 0xF0 ≤ a && a ≤ 0xF4 && isTail b && isTail c && isTail d then
    let point :=
      (a.toNat - 0xF0) * 262144 + (b.toNat - 0x80) * 4096 + (c.toNat - 0x80) * 64 +
        (d.toNat - 0x80)
    if point < 0x10000 || 0x10FFFF < point then none else some point
  else none

/-- The character at the front of a byte string, if one is there, and how many
bytes follow its first. -/
def front? : List UInt8 → Option (Char × Nat)
  | [] => none
  | a :: rest =>
    if a < 0x80 then some (Char.ofNat a.toNat, 0)
    else
      match rest with
      | [] => none
      | b :: rest =>
        match two? a b with
        | some point => some (Char.ofNat point, 1)
        | none =>
          match rest with
          | [] => none
          | c :: rest =>
            match three? a b c with
            | some point => some (Char.ofNat point, 2)
            | none =>
              match rest with
              | [] => none
              | d :: _ => (four? a b c d).map fun point => (Char.ofNat point, 3)

/-- The pieces of a byte string after its first `owed` bytes, which belong to a
character already read.  A byte that starts no character is stray, and reading
goes on with the next one. -/
def piecesAfter : Nat → List UInt8 → List Piece
  | _, [] => []
  | owed + 1, _ :: rest => piecesAfter owed rest
  | 0, a :: rest =>
    match front? (a :: rest) with
    | some (c, more) => .char c :: piecesAfter more rest
    | none => .stray a :: piecesAfter 0 rest

/-- The pieces of a byte string. -/
def pieces (bytes : List UInt8) : List Piece := piecesAfter 0 bytes

/-- The text of a byte string, if every piece of it is a character. -/
def decode? (bytes : List UInt8) : Option String :=
  ((pieces bytes).mapM Piece.char?).map String.ofList

/-- Pieces that are characters are a text. -/
theorem mapM_char?_map (text : List Char) :
    (text.map Piece.char).mapM Piece.char? = some text := by
  induction text with
  | nil => rfl
  | cons c rest ih => simp [Piece.char?, ih]

/-- Bytes all of whose pieces are characters are the text of these. -/
theorem decode?_of_strayless {bytes : List UInt8} {text : List Char}
    (h : pieces bytes = text.map .char) : decode? bytes = some (String.ofList text) := by
  rw [decode?, h, mapM_char?_map]
  rfl

end Utf8

end WorksheetBar.Text
