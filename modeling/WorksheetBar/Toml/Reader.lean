import WorksheetBar.Toml.Draft
import WorksheetBar.Toml.Quote
import WorksheetBar.Toml.Scalar

/-!
# Reading TOML

From a text to the table it describes, or the place where it stops being a document.
The reader goes through the text once; every step takes characters off the front.
-/

namespace WorksheetBar.Toml

/-- A place in a text: the characters before it and those after it. -/
structure Cursor where
  offset : Nat := 0
  rest : List Char

/-- A step of the reader; it fails with the place where it cannot go on. -/
abbrev Scan := StateT Cursor (Except Nat)

namespace Scan

/-- Gives up. -/
def fail : Scan α := fun cursor => .error cursor.offset

/-- What is left of the text. -/
def rest : Scan (List Char) := fun cursor => .ok (cursor.rest, cursor)

/-- The place in the text. -/
def place : Scan Nat := fun cursor => .ok (cursor.offset, cursor)

/-- Goes on where only the given characters are left. -/
def goOn (rest : List Char) : Scan Unit := fun cursor =>
  .ok ((), ⟨cursor.offset + (cursor.rest.length - rest.length), rest⟩)

/-- Whether the next character is the given one. -/
def sees (c : Char) : Scan Bool := do return (← rest).head? == some c

/-- Takes the next character if it is the given one. -/
def takes (c : Char) : Scan Bool := fun cursor =>
  match cursor.rest with
  | [] => .ok (false, cursor)
  | d :: rest => if c = d then .ok (true, ⟨cursor.offset + 1, rest⟩) else .ok (false, cursor)

/-- Takes the given character. -/
def expect (c : Char) : Scan Unit := do
  if !(← takes c) then fail

/-- Takes characters while they are of a kind. -/
def takeWhile (isWanted : Char → Bool) : Scan (List Char) := fun cursor =>
  let taken := cursor.rest.takeWhile isWanted
  .ok (taken, ⟨cursor.offset + taken.length, cursor.rest.drop taken.length⟩)

/-- Takes what a function finds at the front of the text. -/
def take (find : List Char → Option (α × List Char)) : Scan α := do
  match find (← rest) with
  | some (found, left) =>
    goOn left
    return found
  | none => fail

/-- Takes blanks. -/
def blanks : Scan Unit := do
  let _ ← takeWhile fun c => c == ' ' || c == '\t'

/-- Takes a comment, if there is one. -/
def comment : Scan Unit := do
  if ← sees '#' then
    let _ ← takeWhile isPrintable

/-- Takes a line break, if there is one. -/
def lineBreak : Scan Bool := do
  match takeBreak? (← rest) with
  | some left =>
    goOn left
    return true
  | none => return false

/-- Takes the rest of a line, which says nothing more. -/
def endLine : Scan Unit := do
  blanks
  comment
  if !(← lineBreak) then
    if !(← rest).isEmpty then fail

/-- Takes blanks, comments and line breaks.  The argument bounds the lines. -/
def blankLines : Nat → Scan Unit
  | 0 => return
  | lines + 1 => do
    blanks
    comment
    if ← lineBreak then blankLines lines

end Scan

open Scan

/-! ## Keys -/

/-- Whether a character can stand in a key without quotation marks. -/
def isKeyChar (c : Char) : Bool := c.isAlphanum || c == '_' || c == '-'

/-- Reads one part of a key. -/
def readPart : Scan Key := do
  let start ← place
  if (← sees '"') || (← sees '\'') then
    return ⟨String.ofList (← take shortText?), start⟩
  else
    let name ← takeWhile isKeyChar
    if name.isEmpty then fail
    return ⟨String.ofList name, start⟩

/-- How many parts a key may have, and how deep values may be nested, plus one. -/
def depthLimit : Nat := 80

/-- Reads the parts of a key, with dots between them, and the blanks around it: the
parts in front of the last one, and the last one. -/
def readKey : Nat → Scan (List Key × Key)
  | 0 => fail
  | parts + 1 => do
    blanks
    let part ← readPart
    blanks
    if ← takes '.' then
      let (path, key) ← readKey parts
      return (part :: path, key)
    else return ([], part)

/-! ## Values -/

/-- Whether a character can stand in a value without quotation marks. -/
def isScalarChar (c : Char) : Bool := c.isAlphanum || ['_', '+', '-', '.', ':'].contains c

/-- Reads a value without quotation marks.  A date may be followed by a blank and a
time of day. -/
def readScalar : Scan Item := do
  let start ← place
  let token ← takeWhile isScalarChar
  let token ←
    match takeDate? token, ← rest with
    | some [], ' ' :: digit :: _ =>
      if digit.isDigit then
        expect ' '
        pure (token ++ ' ' :: (← takeWhile isScalarChar))
      else pure token
    | _, _ => pure token
  match scalar? token with
  | some scalar => return scalar.item start
  | none => fun _ => .error start

mutual

/-- Reads a value.  `room` is how deep it may be nested, plus one. -/
def readValue : Nat → Nat → Scan Item
  | 0, _ => fail
  | fuel + 1, room => do
    let start ← place
    match (← rest).head? with
    | some '"' | some '\'' => return .string start (String.ofList (← take text?))
    | some '[' =>
      if room ≤ 1 then fail
      expect '['
      return .array start (← readItems fuel (room - 1))
    | some '\x7b' =>
      if room ≤ 1 then fail
      expect '\x7b'
      blanks
      if ← takes '\x7d' then return .table .inline (some start) []
      return .table .inline (some start) (← readPairs fuel (room - 1) [])
    | _ => readScalar

/-- Reads the items of an array, behind its bracket. -/
def readItems : Nat → Nat → Scan (List Item)
  | 0, _ => fail
  | fuel + 1, room => do
    blankLines (← rest).length
    if ← takes ']' then return []
    let item ← readValue fuel room
    blankLines (← rest).length
    if ← takes ',' then return item :: (← readItems fuel room)
    expect ']'
    return [item]

/-- Reads the entries of a table between braces, behind the brace or a comma. -/
def readPairs : Nat → Nat → Table → Scan Table
  | 0, _, _ => fail
  | fuel + 1, room, table => do
    let (path, key) ← readKey (depthLimit - 1)
    expect '='
    blanks
    let item ← readValue fuel room
    blanks
    match put? path key item .inline table with
    | none => fail
    | some table =>
      if ← takes ',' then readPairs fuel room table
      else
        expect '\x7d'
        return table

end

/-! ## Lines -/

/-- Reads a header, up to the end of its line. -/
def readHeader : Scan Header := do
  let start ← place
  expect '['
  let isArray ← takes '['
  let (path, key) ← readKey (depthLimit - 1)
  expect ']'
  if isArray then expect ']'
  endLine
  return ⟨path, key, isArray, start⟩

/-- Reads a line that gives a value to a key. -/
def readAssignment : Scan (List Key × Key × Item) := do
  let (path, key) ← readKey (depthLimit - 1)
  expect '='
  blanks
  let item ← readValue (2 * ((← rest).length + 1)) depthLimit
  endLine
  return (path, key, item)

/-- Takes a draft, if there is one. -/
def keep : Option Draft → Scan Draft
  | some draft => return draft
  | none => fail

/-- Reads lines.  The first argument bounds their number. -/
def readLines : Nat → Draft → Scan Draft
  | 0, _ => fail
  | lines + 1, draft => do
    blanks
    match (← rest).head? with
    | none => return draft
    | some '#' | some '\n' | some '\r' =>
      comment
      if ← lineBreak then readLines lines draft
      else if (← rest).isEmpty then return draft
      else fail
    | some '[' =>
      let header ← readHeader
      readLines lines (← keep (draft.openTable? header))
    | some _ =>
      let (path, key, item) ← readAssignment
      readLines lines (← keep (draft.assign? path key item))

/-- Reads a document. -/
def readDocument : Scan Table := do
  let _ ← takes '\uFEFF'
  let draft ← readLines ((← rest).length + 1) {}
  match draft.close? with
  | some table => return table
  | none => fail

/-- The table a text describes, or the number of characters before the place where it
stops being a document. -/
def parse (text : String) : Except Nat Table :=
  (readDocument ⟨0, text.toList⟩).map Prod.fst

end WorksheetBar.Toml
