import WorksheetBar.Json.Node
import WorksheetBar.Text.Digits

/-!
# Reading JSON

From the pieces of a byte string to the document they hold, as far as it goes.
The reader looks at one piece after the other and never goes back; every token is
read both ways, for a decoder and for a skipper.

Numbers are read the way they are written when they fit into 64 bits, and as
real numbers otherwise.  A real number is its first digits, as many as 64 bits
hold, scaled by a power of ten in one rounded step; that step is not always the
nearest number to the decimal text.

* `Cursor.peek_le` — no fault is reported behind the end of the document;
* `Document.ofBytes` — the whole reader.
-/

namespace WorksheetBar.Json

open Text (Piece)

/-- A place in a document: the bytes before it and the pieces after it. -/
structure Cursor where
  offset : Nat := 0
  rest : List Piece

namespace Cursor

/-- How many bytes some pieces take. -/
def sizes : List Piece → Nat
  | [] => 0
  | piece :: rest => piece.size + sizes rest

/-- The bytes that are left. -/
def left (cursor : Cursor) : Nat := sizes cursor.rest

/-- The end of the document. -/
def finish (cursor : Cursor) : Nat := cursor.offset + cursor.left

/-- The place after the next byte, or this one at the end of the document. -/
def peek (cursor : Cursor) : Nat :=
  match cursor.rest with
  | [] => cursor.offset
  | _ :: _ => cursor.offset + 1

/-- The place after the next piece. -/
def next (cursor : Cursor) : Cursor :=
  match cursor.rest with
  | [] => cursor
  | piece :: rest => ⟨cursor.offset + piece.size, rest⟩

/-- Whether the next piece is the given character. -/
def sees (cursor : Cursor) (c : Char) : Bool :=
  match cursor.rest with
  | [] => false
  | piece :: _ => piece.is c

/-- The next character, if there is one. -/
def char? (cursor : Cursor) : Option Char :=
  cursor.rest.head?.bind Piece.char?

/-- A fault at this place. -/
def fault (cursor : Cursor) (cause : Cause) : Fault := ⟨cause, cursor.offset⟩

/-- A fault after the next byte. -/
def peekFault (cursor : Cursor) (cause : Cause) : Fault := ⟨cause, cursor.peek⟩

/-- A fault noticed by taking the next byte. -/
def takeFault (cursor : Cursor) (cause : Cause) : Fault := ⟨cause, cursor.offset + 1⟩

/-- Skips white space over pieces. -/
def blanksFrom (offset : Nat) : List Piece → Cursor
  | [] => ⟨offset, []⟩
  | piece :: rest =>
    match piece with
    | .char ' ' | .char '\n' | .char '\t' | .char '\r' => blanksFrom (offset + 1) rest
    | _ => ⟨offset, piece :: rest⟩

/-- The place after white space. -/
def skipBlanks (cursor : Cursor) : Cursor := blanksFrom cursor.offset cursor.rest

theorem left_pos {cursor : Cursor} (h : cursor.rest ≠ []) : 0 < cursor.left := by
  obtain ⟨offset, rest⟩ := cursor
  cases rest with
  | nil => exact absurd rfl h
  | cons piece rest =>
      have := Position.size_pos piece
      simp [left, sizes]
      omega

/-- **No fault is noticed behind the end of the document.** -/
theorem peek_le (cursor : Cursor) : cursor.peek ≤ cursor.finish := by
  unfold peek finish
  split
  · exact Nat.le_add_right _ _
  · next h =>
      have := @left_pos cursor (by simp [h])
      omega

end Cursor

/-! ## Numbers -/

/-- The greatest number that 64 bits hold. -/
def greatestWord : Nat := 0xFFFFFFFFFFFFFFFF

/-- The greatest exponent that is read; a longer one is no longer a number to
scale by. -/
def greatestScale : Nat := 0x7FFFFFFF

/-- The value of a decimal digit. -/
def digitValue (c : Char) : Nat := c.toNat - 48

/-- A real number while it is read: its first digits and the power of ten they
are to be scaled by. -/
structure Scaled where
  digits : Nat := 0
  power : Int := 0

namespace Scaled

/-- Takes the digits before the point.  Those that no longer fit only count. -/
def takeWhole (scaled : Scaled) : List Char → Scaled
  | [] => scaled
  | digit :: rest =>
    let digits := scaled.digits * 10 + digitValue digit
    if digits ≤ greatestWord then takeWhole { scaled with digits := digits } rest
    else { scaled with power := scaled.power + ((rest.length : Int) + 1) }

/-- Takes the digits behind the point, as many as fit. -/
def takeFraction (scaled : Scaled) : List Char → Scaled
  | [] => scaled
  | digit :: rest =>
    let digits := scaled.digits * 10 + digitValue digit
    if digits ≤ greatestWord then takeFraction ⟨digits, scaled.power - 1⟩ rest
    else scaled

/-- The greatest power of ten that is a finite number. -/
def greatestPower : Nat := 308

/-- A power of ten as a number. -/
def powerOfTen? (power : Nat) : Option Binary64 := Binary64.ofNat? false (Binary64.tenTo power)

/-- Divides by powers of ten, each as great as can be, until nothing is left of
the scale or of the number.  The argument counts the divisions that are still
allowed: a finite number does not survive three of them. -/
def shrink : Nat → Binary64 → Nat → Option Binary64
  | 0, value, _ => some value
  | more + 1, value, scale =>
    if value.isZero then some value
    else if scale ≤ greatestPower then (powerOfTen? scale).bind value.div?
    else
      match (powerOfTen? greatestPower).bind value.div? with
      | none => none
      | some smaller => shrink more smaller (scale - greatestPower)

/-- The real number, or `none` if it is out of range. -/
def value? (scaled : Scaled) (negative : Bool) : Option Binary64 :=
  (Binary64.ofNat? negative scaled.digits).bind fun value =>
    if 0 ≤ scaled.power then
      if scaled.power ≤ greatestPower then
        (powerOfTen? scaled.power.toNat).bind value.mul?
      else if value.isZero then some value
      else none
    else shrink 4 value (-scaled.power).toNat

end Scaled

/-- Splits the digits off a run of pieces. -/
def takeDigits : List Piece → List Char × List Piece
  | [] => ([], [])
  | piece :: rest =>
    match piece with
    | .char c =>
      if c.isDigit then
        let (digits, rest) := takeDigits rest
        (c :: digits, rest)
      else ([], piece :: rest)
    | .stray _ => ([], piece :: rest)

/-- The digits at a place and the place after them. -/
def Cursor.digits (cursor : Cursor) : List Char × Cursor :=
  let (digits, rest) := takeDigits cursor.rest
  (digits, ⟨cursor.offset + digits.length, rest⟩)

/-- The number that its parts make.  Without a point or an exponent it is an
integer if 64 bits hold it, and `-0` is not an integer. -/
def Number.ofParts (negative : Bool) (whole : List Char) (fraction : Option (List Char))
    (exponent : Option (Bool × List Char)) : Option Number :=
  let scaled := Scaled.takeWhole {} whole
  match fraction, exponent with
  | none, none =>
    if scaled.power = 0 ∧ !negative then some (.int scaled.digits)
    else if scaled.power = 0 ∧ negative ∧ 0 < scaled.digits ∧
        scaled.digits ≤ 0x8000000000000000 then
      some (.int (-(scaled.digits : Int)))
    else (scaled.value? negative).map .real
  | _, _ =>
    let scaled := scaled.takeFraction (fraction.getD [])
    match exponent with
    | none => (scaled.value? negative).map .real
    | some (down, digits) =>
      let scale := digits.foldl (fun scale digit => scale * 10 + digitValue digit) 0
      if greatestScale < scale then
        if scaled.digits = 0 ∨ down then some (.real ⟨negative, 0, Binary64.leastExponent⟩)
        else none
      else
        let power := if down then scaled.power - scale else scaled.power + scale
        ((⟨scaled.digits, power⟩ : Scaled).value? negative).map .real

/-- Where an exponent stops being a number to scale by: after the digit that
makes it too great. -/
def scaleStop (offset : Nat) : Nat → List Char → Nat
  | _, [] => offset
  | scale, digit :: rest =>
    let scale := scale * 10 + digitValue digit
    if greatestScale < scale then offset + 1 else scaleStop (offset + 1) scale rest

/-- A number that breaks off, with what either reader says. -/
def brokenNumber (decoding skipping : Fault) : Reading Number × Option Cursor :=
  (⟨.error decoding, some skipping, skipping.offset⟩, none)

/-- A whole number token. -/
def wholeNumber (negative : Bool) (whole : List Char) (fraction : Option (List Char))
    (exponent : Option (Bool × List Char)) (rangeStop : Nat) (cursor : Cursor) :
    Reading Number × Option Cursor :=
  let decoded :=
    match Number.ofParts negative whole fraction exponent with
    | some value => .ok value
    | none => .error ⟨.numberOutOfRange, rangeStop⟩
  (⟨decoded, none, cursor.offset⟩, some cursor)

/-- Reads the exponent, after its letter. -/
def readExponent (negative : Bool) (whole : List Char) (fraction : Option (List Char))
    (cursor : Cursor) : Reading Number × Option Cursor :=
  let down := cursor.sees '-'
  let cursor := if down || cursor.sees '+' then cursor.next else cursor
  match cursor.rest with
  | [] => brokenNumber (cursor.fault .eofInValue) (cursor.fault .invalidNumber)
  | _ :: _ =>
    let (digits, after) := cursor.digits
    if digits.isEmpty then
      brokenNumber (cursor.takeFault .invalidNumber) (cursor.takeFault .invalidNumber)
    else
      wholeNumber negative whole fraction (some (down, digits))
        (scaleStop cursor.offset 0 digits) after

/-- Reads what may follow the digits of a number: an exponent, or nothing. -/
def readScale (negative : Bool) (whole : List Char) (fraction : Option (List Char))
    (cursor : Cursor) : Reading Number × Option Cursor :=
  if cursor.sees 'e' || cursor.sees 'E' then
    readExponent negative whole fraction cursor.next
  else wholeNumber negative whole fraction none cursor.offset cursor

/-- Reads what may follow the digits before the point. -/
def readFraction (negative : Bool) (whole : List Char) (cursor : Cursor) :
    Reading Number × Option Cursor :=
  if cursor.sees '.' then
    let cursor := cursor.next
    let (digits, after) := cursor.digits
    if digits.isEmpty then
      let decoding := if cursor.rest.isEmpty then Cause.eofInValue else .invalidNumber
      brokenNumber (cursor.peekFault decoding) (cursor.peekFault .invalidNumber)
    else readScale negative whole (some digits) after
  else readScale negative whole none cursor

/-- Reads a number, after its sign.  A zero is not followed by another digit. -/
def readNumber (negative : Bool) (cursor : Cursor) : Reading Number × Option Cursor :=
  match cursor.rest with
  | [] => brokenNumber (cursor.fault .eofInValue) (cursor.fault .invalidNumber)
  | _ :: _ =>
    let (digits, after) := cursor.digits
    match digits with
    | [] => brokenNumber (cursor.takeFault .invalidNumber) (cursor.takeFault .invalidNumber)
    | '0' :: _ :: _ =>
      let fault := cursor.next.peekFault .invalidNumber
      brokenNumber fault fault
    | _ => readFraction negative digits after

/-! ## Strings -/

/-- The value of a hexadecimal digit that stands for itself. -/
def hexPiece? (piece : Piece) : Option Nat := piece.char?.bind Text.Hex.value?

/-- The number that four hexadecimal digits make, and the place after them. -/
def readHex (cursor : Cursor) : Except Fault (Nat × Cursor) :=
  match cursor.rest with
  | a :: b :: c :: d :: rest =>
    match hexPiece? a, hexPiece? b, hexPiece? c, hexPiece? d with
    | some a, some b, some c, some d =>
      .ok (((a * 16 + b) * 16 + c) * 16 + d, ⟨cursor.offset + 4, rest⟩)
    | _, _, _, _ => .error ⟨.invalidEscape, cursor.offset + 4⟩
  | _ =>
    if cursor.left < 4 then .error ⟨.eofInString, cursor.finish⟩
    else .error ⟨.invalidEscape, cursor.offset + 4⟩

/-- The character that a one-letter escape stands for. -/
def letterEscape? : Char → Option Char
  | '"' => some '"'
  | '\\' => some '\\'
  | '/' => some '/'
  | 'b' => some '\x08'
  | 'f' => some '\x0c'
  | 'n' => some '\n'
  | 'r' => some '\r'
  | 't' => some '\t'
  | _ => none

/-- Takes a character that the second half of a pair cannot do without. -/
def expectInPair (c : Char) (cursor : Cursor) : Except Fault Cursor :=
  match cursor.rest with
  | [] => .error (cursor.fault .eofInString)
  | _ :: _ =>
    if cursor.sees c then .ok cursor.next else .error (cursor.takeFault .unfinishedPair)

/-- Reads a numbered escape, after its letter.  A leading surrogate needs a
trailing one in a second escape, and a trailing one cannot stand alone. -/
def readPoint (cursor : Cursor) : Except Fault (Char × Cursor) := do
  let (first, cursor) ← readHex cursor
  if 0xDC00 ≤ first ∧ first ≤ 0xDFFF then
    .error (cursor.fault .loneSurrogate)
  else if first < 0xD800 ∨ 0xDBFF < first then
    .ok (Char.ofNat first, cursor)
  else
    let cursor ← expectInPair '\\' cursor
    let cursor ← expectInPair 'u' cursor
    let (second, cursor) ← readHex cursor
    if second < 0xDC00 ∨ 0xDFFF < second then
      .error (cursor.fault .loneSurrogate)
    else
      .ok (Char.ofNat (0x10000 + (first - 0xD800) * 0x400 + (second - 0xDC00)), cursor)

/-- Reads an escape, after its backslash. -/
def readEscape (cursor : Cursor) : Except Fault (Char × Cursor) :=
  match cursor.rest with
  | [] => .error (cursor.fault .eofInString)
  | piece :: _ =>
    if piece.is 'u' then readPoint cursor.next
    else
      match piece.char?.bind letterEscape? with
      | some c => .ok (c, cursor.next)
      | none => .error (cursor.takeFault .invalidEscape)

/-- Whether a piece is a control character, which a string cannot hold. -/
def isControl (piece : Piece) : Bool :=
  match piece with
  | .char c => c.toNat < 0x20
  | .stray _ => false

/-- Decodes a string, after its opening quotation mark.  Bytes that are no
characters are minded only once the string has ended; `stray` is the place of the
first of them. -/
def decodeString : Nat → Cursor → Option Nat → List Char → Except Fault (String × Cursor)
  | 0, cursor, _, _ => .error (cursor.fault .eofInString)
  | fuel + 1, cursor, stray, text =>
    match cursor.rest with
    | [] => .error (cursor.fault .eofInString)
    | piece :: _ =>
      if piece.is '"' then
        match stray with
        | none => .ok (String.ofList text.reverse, cursor.next)
        | some offset => .error ⟨.invalidCodePoint, offset + 1⟩
      else if piece.is '\\' then
        match readEscape cursor.next with
        | .error fault => .error fault
        | .ok (c, after) => decodeString fuel after stray (c :: text)
      else if isControl piece then .error (cursor.takeFault .controlCharacter)
      else
        match piece with
        | .char c => decodeString fuel cursor.next stray (c :: text)
        | .stray _ => decodeString fuel cursor.next (stray.or (some cursor.offset)) text

/-- Passes over an escape, after its backslash. -/
def skipEscape (cursor : Cursor) : Except Fault Cursor :=
  match cursor.rest with
  | [] => .error (cursor.fault .eofInString)
  | piece :: _ =>
    if piece.is 'u' then (readHex cursor.next).map Prod.snd
    else if (piece.char?.bind letterEscape?).isSome then .ok cursor.next
    else .error (cursor.takeFault .invalidEscape)

/-- Passes over a string, after its opening quotation mark. -/
def skipString : Nat → Cursor → Except Fault Cursor
  | 0, cursor => .error (cursor.fault .eofInString)
  | fuel + 1, cursor =>
    match cursor.rest with
    | [] => .error (cursor.fault .eofInString)
    | piece :: _ =>
      if piece.is '"' then .ok cursor.next
      else if piece.is '\\' then
        match skipEscape cursor.next with
        | .error fault => .error fault
        | .ok after => skipString fuel after
      else if isControl piece then .error (cursor.fault .controlCharacter)
      else skipString fuel cursor.next

/-- Reads a string, after its opening quotation mark. -/
def readString (cursor : Cursor) : Reading String × Option Cursor :=
  let fuel := cursor.rest.length + 1
  let decoded := (decodeString fuel cursor none []).map Prod.fst
  match skipString fuel cursor with
  | .error fault => (⟨decoded, some fault, fault.offset⟩, none)
  | .ok after => (⟨decoded, none, after.offset⟩, some after)

/-! ## Values -/

/-- Reads the rest of a word such as `null`, after its first letter. -/
def readWord : List Char → Cursor → Except Fault Cursor
  | [], cursor => .ok cursor
  | letter :: rest, cursor =>
    match cursor.rest with
    | [] => .error (cursor.fault .eofInValue)
    | _ :: _ =>
      if cursor.sees letter then readWord rest cursor.next
      else .error (cursor.takeFault .expectedWord)

/-- A node for a word, if the rest of it is there. -/
def wordNode (rest : List Char) (node : Nat → Node) (cursor : Cursor) :
    Node × Option Cursor :=
  match readWord rest cursor with
  | .error fault => (.broken fault, none)
  | .ok after => (node after.offset, some after)

/-- Where a reader stops that gives up after a key: before what follows the key,
unless that closes the object. -/
def resumeOffset (cursor : Cursor) : Nat :=
  if cursor.sees '\x7d' then cursor.offset + 1 else cursor.offset

mutual

/-- Reads a value. -/
def readValue : Nat → Cursor → Node × Option Cursor
  | 0, cursor => (.broken (cursor.fault .eofInValue), none)
  | fuel + 1, cursor =>
    let cursor := cursor.skipBlanks
    match cursor.char? with
    | some 'n' => wordNode ['u', 'l', 'l'] .null cursor.next
    | some 't' => wordNode ['r', 'u', 'e'] (.bool true) cursor.next
    | some 'f' => wordNode ['a', 'l', 's', 'e'] (.bool false) cursor.next
    | some '-' =>
      let (reading, after) := readNumber true cursor.next
      (.number reading, after)
    | some '"' =>
      let (reading, after) := readString cursor.next
      (.string reading, after)
    | some '[' =>
      let (items, after) := readItems fuel cursor.next
      (.array cursor.offset items, after)
    | some '\x7b' =>
      let (fields, after) := readFields fuel cursor.next
      (.object cursor.offset fields, after)
    | some c =>
      if c.isDigit then
        let (reading, after) := readNumber false cursor
        (.number reading, after)
      else (.broken (cursor.peekFault .expectedValue), none)
    | none =>
      if cursor.rest.isEmpty then (.broken (cursor.fault .eofInValue), none)
      else (.broken (cursor.peekFault .expectedValue), none)

/-- Reads the items of an array, after its bracket. -/
def readItems : Nat → Cursor → Items × Option Cursor
  | 0, cursor => (.cut cursor.offset .unclosed, none)
  | fuel + 1, cursor =>
    let cursor := cursor.skipBlanks
    if cursor.rest.isEmpty then (.cut cursor.offset .unclosed, none)
    else if cursor.sees ']' then (.closed (cursor.offset + 1), some cursor.next)
    else readItem fuel cursor

/-- Reads an item and those after it. -/
def readItem : Nat → Cursor → Items × Option Cursor
  | 0, cursor => (.cut cursor.offset .unclosed, none)
  | fuel + 1, cursor =>
    match readValue fuel cursor with
    | (item, none) => (.last cursor.offset item, none)
    | (item, some after) =>
      let (rest, after) := readMoreItems fuel after
      (.cons cursor.offset item rest, after)

/-- Reads the items after one. -/
def readMoreItems : Nat → Cursor → Items × Option Cursor
  | 0, cursor => (.cut cursor.offset .unclosed, none)
  | fuel + 1, cursor =>
    let cursor := cursor.skipBlanks
    if cursor.rest.isEmpty then (.cut cursor.offset .unclosed, none)
    else if cursor.sees ']' then (.closed (cursor.offset + 1), some cursor.next)
    else if cursor.sees ',' then
      let cursor := cursor.next.skipBlanks
      if cursor.rest.isEmpty then (.cut cursor.offset .unclosedAfterComma, none)
      else if cursor.sees ']' then (.cut cursor.peek .danglingComma, none)
      else readItem fuel cursor
    else (.cut cursor.peek .noComma, none)

/-- Reads the members of an object, after its brace. -/
def readFields : Nat → Cursor → Fields × Option Cursor
  | 0, cursor => (.cut cursor.offset .unclosed, none)
  | fuel + 1, cursor =>
    let cursor := cursor.skipBlanks
    if cursor.rest.isEmpty then (.cut cursor.offset .unclosed, none)
    else if cursor.sees '\x7d' then (.closed (cursor.offset + 1), some cursor.next)
    else if cursor.sees '"' then readField fuel cursor.next
    else (.cut cursor.peek .noKey, none)

/-- Reads a member, after the quotation mark of its key, and those after it. -/
def readField : Nat → Cursor → Fields × Option Cursor
  | 0, cursor => (.cut cursor.offset .unclosed, none)
  | fuel + 1, cursor =>
    match readString cursor with
    | (key, none) => (.lastKey key, none)
    | (key, some after) =>
      let cursor := after.skipBlanks
      let resume := resumeOffset cursor
      if cursor.rest.isEmpty then (.noColon key resume (cursor.fault .eofInObject), none)
      else if cursor.sees ':' then
        match readValue fuel cursor.next with
        | (value, none) => (.last key resume value, none)
        | (value, some after) =>
          let (rest, after) := readMoreFields fuel after
          (.cons key resume value rest, after)
      else (.noColon key resume (cursor.peekFault .expectedColon), none)

/-- Reads the members after one. -/
def readMoreFields : Nat → Cursor → Fields × Option Cursor
  | 0, cursor => (.cut cursor.offset .unclosed, none)
  | fuel + 1, cursor =>
    let cursor := cursor.skipBlanks
    if cursor.rest.isEmpty then (.cut cursor.offset .unclosed, none)
    else if cursor.sees '\x7d' then (.closed (cursor.offset + 1), some cursor.next)
    else if cursor.sees ',' then
      let cursor := cursor.next.skipBlanks
      if cursor.rest.isEmpty then (.cut cursor.offset .unclosedAfterComma, none)
      else if cursor.sees '"' then readField fuel cursor.next
      else if cursor.sees '\x7d' then (.cut cursor.peek .danglingComma, none)
      else (.cut cursor.peek .noKey, none)
    else (.cut cursor.peek .noComma, none)

end

namespace Document

/-- Reads a document from its pieces.  Every nested call has fewer pieces before
it, so four steps for each piece are enough. -/
def ofPieces (pieces : List Piece) : Document :=
  match readValue (4 * pieces.length + 4) ⟨0, pieces⟩ with
  | (root, none) => ⟨root, none⟩
  | (root, some after) =>
    let after := after.skipBlanks
    ⟨root, if after.rest.isEmpty then none else some after.peek⟩

/-- Reads a document from its bytes. -/
def ofBytes (bytes : List UInt8) : Document := ofPieces (Text.Utf8.pieces bytes)

end Document

/-- The value of a text, or what is wrong with it. -/
def parse (text : String) : Except String Json :=
  let pieces := text.toList.map Piece.char
  match (Document.ofPieces pieces).toJson with
  | .ok value => .ok value
  | .error fault => .error (fault.message pieces)

end WorksheetBar.Json
