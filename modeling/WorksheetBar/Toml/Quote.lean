import WorksheetBar.Text.Digits

/-!
# Text between quotation marks

Four ways to write a text: in single or double marks, on one line or, with tripled
marks, on several.  Only double marks know escapes.  A line break inside tripled marks
is always a single line feed, and one right behind the opening marks does not count.
-/

namespace WorksheetBar.Toml

/-- A character that can stand in a comment: no control character but the tab. -/
def isPrintable (c : Char) : Bool := c == '\t' || (0x20 ≤ c.toNat && c.toNat != 0x7F)

/-- The character an escape with one letter stands for. -/
def letterEscape? : Char → Option Char
  | 'b' => some '\x08'
  | 't' => some '\t'
  | 'n' => some '\n'
  | 'f' => some '\x0c'
  | 'r' => some '\r'
  | '"' => some '"'
  | '\\' => some '\\'
  | _ => none

/-- The character with a number that is written in hexadecimal digits. -/
def numbered? (digits : List Char) : Option Char :=
  match digits.foldlM (fun value c => (Text.Hex.value? c).map (value * 16 + ·)) 0 with
  | none => none
  | some point => if point.isValidChar then some (Char.ofNat point) else none

/-- An escape behind its backslash: the character and what follows. -/
def escape? : List Char → Option (Char × List Char)
  | 'u' :: rest =>
    if (rest.take 4).length = 4 then (numbered? (rest.take 4)).map fun c => (c, rest.drop 4)
    else none
  | 'U' :: rest =>
    if (rest.take 8).length = 8 then (numbered? (rest.take 8)).map fun c => (c, rest.drop 8)
    else none
  | c :: rest => (letterEscape? c).map fun c => (c, rest)
  | [] => none

/-- A text in double marks, behind the opening one, and what follows it.  `text` holds
the characters so far in reverse order; the first argument bounds the characters that
are looked at. -/
def basicBody (text : List Char) : Nat → List Char → Option (List Char × List Char)
  | 0, _ => none
  | _ + 1, [] => none
  | more + 1, c :: rest =>
    if c = '"' then some (text.reverse, rest)
    else if c = '\\' then
      match escape? rest with
      | some (c, rest) => basicBody (c :: text) more rest
      | none => none
    else if isPrintable c then basicBody (c :: text) more rest
    else none

/-- A text in single marks, behind the opening one, and what follows it. -/
def literalBody (text : List Char) : List Char → Option (List Char × List Char)
  | [] => none
  | c :: rest =>
    if c = '\'' then some (text.reverse, rest)
    else if isPrintable c then literalBody (c :: text) rest
    else none

/-- Takes a line break off. -/
def takeBreak? : List Char → Option (List Char)
  | '\n' :: rest => some rest
  | '\r' :: '\n' :: rest => some rest
  | _ => none

/-- Drops blanks and line breaks. -/
def dropBlank : List Char → List Char
  | ' ' :: rest | '\t' :: rest | '\n' :: rest | '\r' :: '\n' :: rest => dropBlank rest
  | rest => rest

/-- What follows a backslash at the end of a line: the next character that is no
blank, on whatever line. -/
def dropFold? (text : List Char) : Option (List Char) :=
  (takeBreak? (text.dropWhile fun c => c == ' ' || c == '\t')).map dropBlank

/-- The marks at the front of a text: how many, but at most five, and what follows
them. -/
def takeMarks (mark : Char) (text : List Char) : Nat × List Char :=
  let count := ((text.take 5).takeWhile (· == mark)).length
  (count, text.drop count)

/-- A text in tripled marks, behind the opening ones, and what follows it.  Up to two
marks may stand right before the closing ones. -/
def longBody (mark : Char) (text : List Char) :
    Nat → List Char → Option (List Char × List Char)
  | 0, _ => none
  | _ + 1, [] => none
  | more + 1, c :: rest =>
    if c = mark then
      let (count, after) := takeMarks mark (c :: rest)
      if 3 ≤ count then some ((List.replicate (count - 3) mark ++ text).reverse, after)
      else longBody mark (mark :: text) more rest
    else if c = '\\' ∧ mark = '"' then
      match dropFold? rest with
      | some rest => longBody mark text more rest
      | none =>
        match escape? rest with
        | some (c, rest) => longBody mark (c :: text) more rest
        | none => none
    else
      match takeBreak? (c :: rest) with
      | some rest => longBody mark ('\n' :: text) more rest
      | none => if isPrintable c then longBody mark (c :: text) more rest else none

/-- A text on one line, and what follows it. -/
def shortText? : List Char → Option (List Char × List Char)
  | '"' :: rest => basicBody [] (rest.length + 1) rest
  | '\'' :: rest => literalBody [] rest
  | _ => none

/-- A text in any of the four ways, and what follows it. -/
def text? (text : List Char) : Option (List Char × List Char) :=
  match text with
  | '"' :: '"' :: '"' :: rest =>
    longBody '"' [] (rest.length + 1) ((takeBreak? rest).getD rest)
  | '\'' :: '\'' :: '\'' :: rest =>
    longBody '\'' [] (rest.length + 1) ((takeBreak? rest).getD rest)
  | _ => shortText? text

end WorksheetBar.Toml
