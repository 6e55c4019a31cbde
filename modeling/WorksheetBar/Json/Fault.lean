import WorksheetBar.Text.Utf8

/-!
# What is wrong with a JSON document

A fault is a cause and the place where it was noticed.  Places are counted in
bytes from the start of the document and shown as a line and a column; the
column is the number of bytes since the last line break, so a document starts at
column 0 of line 1.
-/

namespace WorksheetBar.Json

open Text (Piece)

/-- Why a document cannot be read, or does not say what it should. -/
inductive Cause where
  | eofInValue
  | eofInArray
  | eofInObject
  | eofInString
  | expectedColon
  | expectedArrayEnd
  | expectedObjectEnd
  | expectedWord
  | expectedValue
  | invalidEscape
  | invalidNumber
  | numberOutOfRange
  | invalidCodePoint
  | controlCharacter
  | keyNotString
  | loneSurrogate
  | unfinishedPair
  | trailingComma
  | trailingCharacters
  | tooDeep
  | wrongType (found expected : String)
  | wrongLength (found : Nat) (expected : String)
  | missingField (name : String)
  | duplicateField (name : String)
  deriving DecidableEq, Repr

/-- The wording of a cause. -/
def Cause.message : Cause → String
  | eofInValue => "EOF while parsing a value"
  | eofInArray => "EOF while parsing a list"
  | eofInObject => "EOF while parsing an object"
  | eofInString => "EOF while parsing a string"
  | expectedColon => "expected \x60:\x60"
  | expectedArrayEnd => "expected \x60,\x60 or \x60]\x60"
  | expectedObjectEnd => "expected \x60,\x60 or \x60\x7d\x60"
  | expectedWord => "expected ident"
  | expectedValue => "expected value"
  | invalidEscape => "invalid escape"
  | invalidNumber => "invalid number"
  | numberOutOfRange => "number out of range"
  | invalidCodePoint => "invalid unicode code point"
  | controlCharacter =>
    "control character (\\u0000-\\u001F) found while parsing a string"
  | keyNotString => "key must be a string"
  | loneSurrogate => "lone leading surrogate in hex escape"
  | unfinishedPair => "unexpected end of hex escape"
  | trailingComma => "trailing comma"
  | trailingCharacters => "trailing characters"
  | tooDeep => "recursion limit exceeded"
  | wrongType found expected => "invalid type: " ++ found ++ ", expected " ++ expected
  | wrongLength found expected =>
    "invalid length " ++ toString found ++ ", expected " ++ expected
  | missingField name => "missing field \x60" ++ name ++ "\x60"
  | duplicateField name => "duplicate field \x60" ++ name ++ "\x60"

/-- A cause and the number of bytes before the place where it was noticed. -/
structure Fault where
  cause : Cause
  offset : Nat
  deriving DecidableEq, Repr

/-- A line, counted from one, and the bytes before the place on that line. -/
structure Position where
  line : Nat := 1
  column : Nat := 0
  deriving DecidableEq, Repr

namespace Position

/-- The position `offset` bytes after the given one. -/
def after (here : Position) : List Piece → Nat → Position
  | [], offset => { here with column := here.column + offset }
  | piece :: rest, offset =>
    if offset < piece.size then { here with column := here.column + offset }
    else if piece.is '\n' then after ⟨here.line + 1, 0⟩ rest (offset - piece.size)
    else after { here with column := here.column + piece.size } rest (offset - piece.size)

/-- The position of an offset in a document. -/
def «at» (document : List Piece) (offset : Nat) : Position :=
  after {} document offset

/-- Every piece of a document takes up a byte at least. -/
theorem size_pos (piece : Piece) : 0 < piece.size := by
  cases piece with
  | char c => exact c.utf8Size_pos
  | stray _ => exact Nat.one_pos

end Position

/-- The text of a fault in a document. -/
def Fault.message (fault : Fault) (document : List Piece) : String :=
  let position := Position.at document fault.offset
  fault.cause.message ++ " at line " ++ toString position.line ++ " column " ++
    toString position.column

end WorksheetBar.Json
