import WorksheetBar.Text.Digits
import WorksheetBar.Text.Punycode
import WorksheetBar.Text.Utf8

/-!
# The host of a URL

A host is a number address of either kind or a name.  A name that ends in a number
has to be an address.  Names are put into lower case, and their labels into ASCII.
-/

namespace WorksheetBar.Http.Url

/-- Splits a text at every character of a kind. -/
def splitAll (isMark : Char → Bool) : List Char → List (List Char)
  | [] => [[]]
  | c :: rest =>
    if isMark c then [] :: splitAll isMark rest
    else
      match splitAll isMark rest with
      | [] => [[c]]
      | part :: parts => (c :: part) :: parts

/-- Parts with a character between them. -/
def joinWith (mark : Char) : List (List Char) → List Char
  | [] => []
  | [part] => part
  | part :: parts => part ++ mark :: joinWith mark parts

/-- The digits of a number in a base. -/
def inBase (base n : Nat) : List Char := Nat.toDigits base n

/-- A number with digits in a base. -/
def number? (base : Nat) (digits : List Char) : Option Nat :=
  digits.foldlM
    (fun value c =>
      match Text.Hex.value? c with
      | some digit => if digit < base then some (value * base + digit) else none
      | none => none)
    0

/-! ## Addresses of four bytes -/

/-- A number of an address: hexadecimal behind `0x`, octal behind `0`. -/
def addressNumber? : List Char → Option Nat
  | [] => none
  | '0' :: 'x' :: digits | '0' :: 'X' :: digits => number? 16 digits
  | '0' :: digit :: digits => number? 8 (digit :: digits)
  | digits => number? 10 digits

/-- The numbers of a name, without an empty one at the end. -/
def addressParts (name : List Char) : List (List Char) :=
  let parts := splitAll (· == '.') name
  if 1 < parts.length ∧ parts.getLast? = some [] then parts.dropLast else parts

/-- Whether a name ends in a number, so that it has to be an address. -/
def endsInNumber (name : List Char) : Bool :=
  let parts := splitAll (· == '.') name
  let parts := if parts.getLast? = some [] then parts.dropLast else parts
  match parts.getLast? with
  | none => false
  | some last => (!last.isEmpty && last.all Char.isDigit) || (addressNumber? last).isSome

/-- The address that numbers make; the last one fills all bytes that are left. -/
def addressOf? (numbers : List Nat) : Option Nat :=
  match numbers.reverse with
  | [] => none
  | last :: front =>
    if 4 < numbers.length ∨ front.any (255 < ·) ∨ Nat.pow 256 (5 - numbers.length) ≤ last then none
    else
      some (front.reverse.zipIdx.foldl
        (fun sum (n, place) => sum + n * Nat.pow 256 (3 - place)) last)

/-- An address of four bytes in its written form. -/
def fourBytes (address : Nat) : List Char :=
  joinWith '.' ([0x1000000, 0x10000, 0x100, 1].map fun unit => inBase 10 (address / unit % 256))

/-! ## Addresses of eight words -/

/-- The words of a part of an address; the last word may be written as four bytes. -/
def words? (mayEndInBytes : Bool) (text : List Char) : Option (List Nat) :=
  if text.isEmpty then some []
  else
    let parts := splitAll (· == ':') text
    let word? (part : List Char) : Option Nat :=
      if part.isEmpty ∨ 4 < part.length then none else number? 16 part
    match parts.getLast? with
    | some last =>
      if last.contains '.' ∧ mayEndInBytes then
        let bytes := splitAll (· == '.') last
        let byte? (part : List Char) : Option Nat :=
          if part.isEmpty ∨ (1 < part.length ∧ part.head? = some '0') then none
          else (number? 10 part).filter (· ≤ 255)
        match parts.dropLast.mapM word?, bytes.mapM byte? with
        | some words, some [a, b, c, d] => some (words ++ [a * 256 + b, c * 256 + d])
        | _, _ => none
      else parts.mapM word?
    | none => none

/-- Splits a text at the first pair of colons. -/
def splitGap : List Char → Option (List Char × List Char)
  | ':' :: ':' :: rest => some ([], rest)
  | c :: rest => (splitGap rest).map fun (before, after) => (c :: before, after)
  | [] => none

/-- The eight words of an address; a pair of colons stands for the zeros that are
missing. -/
def eightWords? (text : List Char) : Option (List Nat) :=
  match splitGap text with
  | none => (words? true text).filter (·.length == 8)
  | some (before, after) =>
    match words? false before, words? true after with
    | some before, some after =>
      let known := before.length + after.length
      if known < 8 then some (before ++ List.replicate (8 - known) 0 ++ after) else none
    | _, _ => none

/-- The length of the run of zeros at the front. -/
def zeroRun (words : List Nat) : Nat := (words.takeWhile (· == 0)).length

/-- Where the first longest run of at least two zeros begins, and how long it is. -/
def longestZeros (words : List Nat) : Option (Nat × Nat) :=
  let runs := (List.range words.length).map fun start => (start, zeroRun (words.drop start))
  runs.foldl
    (fun best (start, length) =>
      match best with
      | none => if 2 ≤ length then some (start, length) else none
      | some (_, longest) => if longest < length then some (start, length) else best)
    none

/-- An address of eight words in its written form. -/
def writeWords (words : List Nat) : List Char :=
  let write (words : List Nat) : List Char := joinWith ':' (words.map (inBase 16))
  match longestZeros words with
  | none => write words
  | some (start, length) =>
    write (words.take start) ++ [':', ':'] ++ write (words.drop (start + length))

/-! ## Names -/

/-- Characters that no host can hold. -/
def isForbiddenInHost (c : Char) : Bool :=
  [0x00, 0x09, 0x0A, 0x0D].contains c.toNat ||
    [' ', '#', '/', ':', '<', '>', '?', '@', '[', '\\', ']', '^', '|'].contains c

/-- Characters that no name can hold. -/
def isForbiddenInName (c : Char) : Bool :=
  isForbiddenInHost c || c.toNat < 0x20 || c == '%' || c.toNat == 0x7F

/-- Lower case, as far as that is a matter of a fixed distance. -/
def lower (c : Char) : Char :=
  let point := c.toNat
  if c.isUpper then c.toLower
  else if 0xC0 ≤ point ∧ point ≤ 0xDE ∧ point ≠ 0xD7 then Char.ofNat (point + 32)
  else if 0x391 ≤ point ∧ point ≤ 0x3A9 then Char.ofNat (point + 32)
  else if 0x410 ≤ point ∧ point ≤ 0x42F then Char.ofNat (point + 32)
  else if 0x400 ≤ point ∧ point ≤ 0x40F then Char.ofNat (point + 80)
  else c

/-- Whether a character separates labels. -/
def isDot (c : Char) : Bool := ['.', '\u3002', '\uff0e', '\uff61'].contains c

/-- A label in ASCII. -/
def asciiLabel (label : List Char) : List Char :=
  if label.all (fun c => c.toNat < 0x80) then label
  else ['x', 'n', '-', '-'] ++ Text.Punycode.encode label

/-- A name in ASCII and in lower case. -/
def asciiName (name : List Char) : List Char :=
  joinWith '.' ((splitAll isDot (name.map lower)).map asciiLabel)

/-- Control characters. -/
def isControl (c : Char) : Bool := c.toNat < 0x20 || c.toNat == 0x7F

/-- The host of a URL that does not belong to the web: it is not looked into. -/
def opaqueHost? (text : List Char) : Option (List Char) :=
  if text.any isForbiddenInHost then none else some (Text.Percent.encode isControl text)

/-- The host of a URL of the web. -/
def webHost? (text : List Char) : Option (List Char) :=
  match Text.Utf8.decode? (Text.Percent.decode text) with
  | none => none
  | some name =>
    let name := asciiName name.toList
    if name.isEmpty ∨ name.any isForbiddenInName then none
    else if endsInNumber name then
      (((addressParts name).mapM addressNumber?).bind addressOf?).map fourBytes
    else some name

/-- A host in its normal form. -/
def host? (isWeb : Bool) (text : List Char) : Option (List Char) :=
  match text with
  | '[' :: rest =>
    if rest.getLast? = some ']' then
      (eightWords? rest.dropLast).map fun words => '[' :: writeWords words ++ [']']
    else none
  | _ => if isWeb then webHost? text else opaqueHost? text

end WorksheetBar.Http.Url
