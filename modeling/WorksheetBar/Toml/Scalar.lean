import WorksheetBar.Text.Digits
import WorksheetBar.Toml.Basic

/-!
# Numbers, truth values and dates

What a run of characters without quotation marks means.  Digits may have single
underscores between them.  A date only has to be one: nothing here asks which.
-/

namespace WorksheetBar.Toml

/-- A value that is written without quotation marks. -/
inductive Scalar where
  | integer (value : Int)
  | float (value : Float)
  | boolean (value : Bool)
  | datetime
  deriving DecidableEq, Repr

/-- Digits without the underscores between them. -/
def digits? (isDigit : Char → Bool) : List Char → Option (List Char)
  | [] => none
  | [c] => if isDigit c then some [c] else none
  | c :: '_' :: rest => if isDigit c then (digits? isDigit rest).map (c :: ·) else none
  | c :: rest => if isDigit c then (digits? isDigit rest).map (c :: ·) else none

/-- The number that digits make. -/
def numberOf (base : Nat) (digits : List Char) : Nat :=
  digits.foldl (fun value c => value * base + (Text.Hex.value? c).getD 0) 0

/-- Splits a sign off: whether it is a minus, and what follows it. -/
def takeSign : List Char → Bool × List Char
  | '-' :: rest => (true, rest)
  | '+' :: rest => (false, rest)
  | rest => (false, rest)

/-- Decimal digits that do not begin with a needless zero. -/
def wholeDigits? (text : List Char) : Option (List Char) :=
  match text with
  | '0' :: _ :: _ => none
  | _ => digits? Char.isDigit text

/-- The greatest integer. -/
def greatestInteger : Nat := 0x7FFFFFFFFFFFFFFF

/-- An unsigned number in a base, if it is an integer of 64 bits. -/
def basedInteger? (base : Nat) (text : List Char) : Option Int :=
  let isDigit (c : Char) : Bool := (Text.Hex.value? c).any (· < base)
  match digits? isDigit text with
  | none => none
  | some digits =>
    let value := numberOf base digits
    if value ≤ greatestInteger then some value else none

/-- An integer. -/
def integer? (text : List Char) : Option Int :=
  match text with
  | '0' :: 'x' :: rest => basedInteger? 16 rest
  | '0' :: 'o' :: rest => basedInteger? 8 rest
  | '0' :: 'b' :: rest => basedInteger? 2 rest
  | _ =>
    let (isNegative, text) := takeSign text
    match wholeDigits? text with
    | none => none
    | some digits =>
      let value := numberOf 10 digits
      if isNegative then if value ≤ greatestInteger + 1 then some (-(value : Int)) else none
      else if value ≤ greatestInteger then some value
      else none

/-- The floating-point value nearest to `digits * 10 ^ power`.  A positive number
that is too great is none, a negative one is infinite. -/
def floatOf? (isNegative : Bool) (digits : List Char) (power : Int) : Option Float :=
  let beyond : Option Float := if isNegative then some (.infinite true) else none
  let digits := digits.dropWhile (· == '0')
  let magnitude := (digits.length : Int) + power
  if digits.isEmpty ∨ magnitude < -400 then
    (Binary64.ofNat? isNegative 0).map .finite
  else if 400 < magnitude then beyond
  else
    match Binary64.ofDecimal? isNegative (numberOf 10 digits) power with
    | some value => some (.finite value)
    | none => beyond

/-- Splits a text at the first character of a kind. -/
def splitAt? (isMark : Char → Bool) (text : List Char) : List Char × Option (List Char) :=
  match text.span (!isMark ·) with
  | (before, _ :: after) => (before, some after)
  | (before, []) => (before, none)

/-- The exponent of a number; nothing is zero. -/
def exponent? : Option (List Char) → Option Int
  | none => some 0
  | some text =>
    let (isNegative, text) := takeSign text
    (digits? Char.isDigit text).map fun digits =>
      let value := numberOf 10 digits
      if isNegative then -(value : Int) else value

/-- The digits behind a point; nothing is none. -/
def fraction? : Option (List Char) → Option (List Char)
  | none => some []
  | some text => digits? Char.isDigit text

/-- A floating-point value: one with a point or an exponent, or one with a name. -/
def float? (text : List Char) : Option Float :=
  let (isNegative, text) := takeSign text
  if text = ['i', 'n', 'f'] then some (.infinite isNegative)
  else if text = ['n', 'a', 'n'] then some .nan
  else
    let (front, exponent) := splitAt? (fun c => c == 'e' || c == 'E') text
    let (whole, fraction) := splitAt? (· == '.') front
    if exponent.isNone ∧ fraction.isNone then none
    else
      match wholeDigits? whole, fraction? fraction, exponent? exponent with
      | some whole, some fraction, some exponent =>
        floatOf? isNegative (whole ++ fraction) (exponent - fraction.length)
      | _, _, _ => none

/-! ## Dates and times -/

/-- The number that exactly so many digits make, and what follows them. -/
def takeDigits? (count : Nat) (text : List Char) : Option (Nat × List Char) :=
  let digits := text.take count
  if digits.length = count ∧ digits.all Char.isDigit then
    some (numberOf 10 digits, text.drop count)
  else none

/-- What follows a character. -/
def takeChar? (c : Char) : List Char → Option (List Char)
  | d :: rest => if c = d then some rest else none
  | [] => none

/-- How many days a month has. -/
def daysIn (year month : Nat) : Nat :=
  if month = 2 then
    if year % 4 = 0 ∧ (year % 100 ≠ 0 ∨ year % 400 = 0) then 29 else 28
  else if [4, 6, 9, 11].contains month then 30
  else 31

/-- What follows a date. -/
def takeDate? (text : List Char) : Option (List Char) := do
  let (year, rest) ← takeDigits? 4 text
  let rest ← takeChar? '-' rest
  let (month, rest) ← takeDigits? 2 rest
  let rest ← takeChar? '-' rest
  let (day, rest) ← takeDigits? 2 rest
  if 1 ≤ month ∧ month ≤ 12 ∧ 1 ≤ day ∧ day ≤ daysIn year month then some rest else none

/-- What follows a time of day. -/
def takeTime? (text : List Char) : Option (List Char) := do
  let (hour, rest) ← takeDigits? 2 text
  let rest ← takeChar? ':' rest
  let (minute, rest) ← takeDigits? 2 rest
  let rest ← takeChar? ':' rest
  let (second, rest) ← takeDigits? 2 rest
  if hour ≤ 23 ∧ minute ≤ 59 ∧ second ≤ 60 then
    match rest with
    | '.' :: fraction =>
      if (fraction.takeWhile Char.isDigit).isEmpty then none
      else some (fraction.dropWhile Char.isDigit)
    | _ => some rest
  else none

/-- Whether a text is a distance from universal time, or nothing. -/
def isOffset (text : List Char) : Bool :=
  match text with
  | [] | ['Z'] | ['z'] => true
  | c :: rest =>
    (c == '+' || c == '-') &&
      (match takeDigits? 2 rest with
      | some (hour, ':' :: rest) =>
        match takeDigits? 2 rest with
        | some (minute, []) => hour ≤ 23 && minute ≤ 59
        | _ => false
      | _ => false)

/-- Whether a text is a date, a time of day, or both. -/
def isDatetime (text : List Char) : Bool :=
  match takeDate? text with
  | some [] => true
  | some (c :: rest) => ['T', 't', ' '].contains c && (takeTime? rest).any isOffset
  | none => takeTime? text == some []

/-- What a run of characters means. -/
def scalar? (text : List Char) : Option Scalar :=
  if text = ['t', 'r', 'u', 'e'] then some (.boolean true)
  else if text = ['f', 'a', 'l', 's', 'e'] then some (.boolean false)
  else if isDatetime text then some .datetime
  else
    match float? text with
    | some value => some (.float value)
    | none => (integer? text).map .integer

/-- An item for a scalar. -/
def Scalar.item (start : Nat) : Scalar → Item
  | integer value => .integer start value
  | float value => .float start value
  | boolean value => .boolean start value
  | datetime => .datetime start

end WorksheetBar.Toml
