import WorksheetBar.Json.Basic
import WorksheetBar.Number.Shortest
import WorksheetBar.Text.Digits

/-!
# Compact JSON text

Writes a value with no white space.  In a string the quotation mark, the
backslash and the control characters are escaped, and nothing else is; an escape
with a letter of its own uses that letter.

* `escapeChar_ne_quote` — no escape ends a string early.
-/

namespace WorksheetBar.Json

/-- The point positions at which a number is written without an exponent: up to
16 digits before the point, up to four zeros behind it. -/
def isPlainPoint (point : Int) : Bool := -5 < point && point ≤ 16

/-- The text of a number.  A real number always has a point or an exponent. -/
def Number.text : Number → String
  | .int value => toString value
  | .real value => value.text isPlainPoint

/-- The characters that stand for one character inside a string. -/
def escapeChar (c : Char) : List Char :=
  if c = '"' then ['\\', '"']
  else if c = '\\' then ['\\', '\\']
  else if c = '\n' then ['\\', 'n']
  else if c = '\r' then ['\\', 'r']
  else if c = '\t' then ['\\', 't']
  else if c = '\x08' then ['\\', 'b']
  else if c = '\x0c' then ['\\', 'f']
  else if c.toNat < 0x20 then
    ['\\', 'u', '0', '0', Text.Hex.lower (c.toNat / 16), Text.Hex.lower (c.toNat % 16)]
  else [c]

/-- The characters that stand for a text inside a string. -/
def escape (text : List Char) : List Char := text.flatMap escapeChar

/-- A text as a string, with its quotation marks. -/
def quoted (text : String) : List Char := '"' :: escape text.toList ++ ['"']

@[simp] theorem escape_nil : escape [] = [] := rfl

@[simp] theorem escape_cons (c : Char) (rest : List Char) :
    escape (c :: rest) = escapeChar c ++ escape rest := rfl

/-- An escape never begins with a quotation mark. -/
theorem escapeChar_ne_quote (c : Char) : (escapeChar c).head? ≠ some '"' := by
  unfold escapeChar
  repeat' split
  all_goals simp_all

mutual

/-- The characters of a value. -/
def chars : Json → List Char
  | .null => "null".toList
  | .bool true => "true".toList
  | .bool false => "false".toList
  | .number value => value.text.toList
  | .string value => quoted value
  | .array items => '[' :: itemChars items ++ [']']
  | .object members => '\x7b' :: memberChars members ++ ['\x7d']

/-- The characters of the items of an array, with commas between them. -/
def itemChars : List Json → List Char
  | [] => []
  | [item] => chars item
  | item :: next :: rest => chars item ++ ',' :: itemChars (next :: rest)

/-- The characters of the members of an object, with commas between them. -/
def memberChars : List (String × Json) → List Char
  | [] => []
  | [(name, value)] => quoted name ++ ':' :: chars value
  | (name, value) :: next :: rest =>
    quoted name ++ ':' :: chars value ++ ',' :: memberChars (next :: rest)

end

/-- The compact text of a value. -/
def text (value : Json) : String := String.ofList (chars value)

end WorksheetBar.Json
