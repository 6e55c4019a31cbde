import WorksheetBar.Number.Binary64

/-!
# The fewest digits that read back

The decimal text of a binary64 number has as few digits as possible while no
other number is nearer to it; of two such texts it is the nearer one.  The digits
are found by looking at the two neighbours of the number on the decimal grids of
one digit, two digits and so on.

How the digits are laid out is a choice of the format that writes them, and is
passed in as the set of point positions that are written without an exponent.
-/

namespace WorksheetBar

/-- Decimal digits with the place of the point: the number is
`0.digits * 10 ^ point`. -/
structure Decimal where
  digits : List Char
  point : Int
  deriving DecidableEq, Repr

namespace Decimal

/-- Plain digits, with the point among them or zeros put where it lies outside,
and always at least one digit on each side. -/
def positional (d : Decimal) : List Char :=
  if d.point ≤ 0 then
    ['0', '.'] ++ List.replicate (-d.point).toNat '0' ++ d.digits
  else
    let whole := d.digits.take d.point.toNat
    let zeros := List.replicate (d.point.toNat - whole.length) '0'
    let fraction := d.digits.drop d.point.toNat
    whole ++ zeros ++ ['.'] ++ (if fraction.isEmpty then ['0'] else fraction)

/-- One digit before the point, the others behind it, and an exponent. -/
def scientific (d : Decimal) : List Char :=
  let exponent := ['e'] ++ (toString (d.point - 1)).toList
  match d.digits with
  | [] => ['0'] ++ exponent
  | [digit] => [digit] ++ exponent
  | digit :: more => [digit, '.'] ++ more ++ exponent

end Decimal

namespace Binary64

/-- Whether `a * 10 ^ p` is at most `b * 2 ^ q`. -/
def decimalLe (a : Nat) (p : Int) (b : Nat) (q : Int) : Bool :=
  a * tenTo p.toNat * twoTo (-q).toNat ≤ b * twoTo q.toNat * tenTo (-p).toNat

/-- Whether `b * 2 ^ q` is at most `a * 10 ^ p`. -/
def binaryLe (b : Nat) (q : Int) (a : Nat) (p : Int) : Bool :=
  b * twoTo q.toNat * tenTo (-p).toNat ≤ a * tenTo p.toNat * twoTo (-q).toNat

/-- Whether no other number is nearer to `a * 10 ^ p` than `x` is.  The numbers
below a power of two are twice as close together as those above it; the two ends
round to `x` exactly if its mantissa is even. -/
def readsBack (x : Binary64) (a : Nat) (p : Int) : Bool :=
  let below := if x.mantissa = twoTo 52 ∧ leastExponent < x.exponent then 1 else 2
  let low := 4 * x.mantissa - below
  let high := 4 * x.mantissa + 2
  let unit := x.exponent - 2
  if x.mantissa % 2 = 0 then binaryLe low unit a p && decimalLe a p high unit
  else !decimalLe a p low unit && !binaryLe high unit a p

/-- How many digits the number has before its point; not positive if it begins
behind the point. -/
def pointOf (x : Binary64) : Int :=
  let (num, den) := x.ratio
  if den ≤ num then ((toString (num / den)).length : Int)
  else
    match (List.range 400).find? (fun zeros => den ≤ num * tenTo zeros) with
    | some zeros => 1 - (zeros : Int)
    | none => 0

/-- The neighbour of the number on the grid of `count` digits that reads back, if
one does; the nearer one if both do, the even one if both are as near. -/
def onGrid? (x : Binary64) (point : Int) (count : Nat) : Option (Nat × Int) :=
  let power := point - (count : Int)
  let (num, den) := x.ratio
  let (num, den) :=
    if 0 ≤ power then (num, den * tenTo power.toNat) else (num * tenTo (-power).toNat, den)
  let under := num / den
  let nearest := roundDiv num den
  let other := if nearest = under then under + 1 else under
  if readsBack x nearest power then some (nearest, power)
  else if readsBack x other power then some (other, power)
  else none

/-- Drops the zeros at the end. -/
def trimZeros (digits : List Char) : List Char :=
  (digits.reverse.dropWhile (· == '0')).reverse

/-- The shortest digits of the magnitude. -/
def shortest (x : Binary64) : Decimal :=
  if x.mantissa = 0 then ⟨['0'], 1⟩
  else
    let point := x.pointOf
    match (List.range 17).findSome? (fun count => x.onGrid? point (count + 1)) with
    | some (digits, power) =>
      let text := (toString digits).toList
      ⟨trimZeros text, text.length + power⟩
    | none => ⟨['0'], 1⟩

/-- The text of a number: its sign, and its shortest digits with the point among
them if `isPlain` holds of the place of the point, and with an exponent
otherwise. -/
def text (isPlain : Int → Bool) (x : Binary64) : String :=
  let digits := x.shortest
  let body := if isPlain digits.point then digits.positional else digits.scientific
  String.ofList (if x.negative then '-' :: body else body)

end Binary64

end WorksheetBar
