/-!
# Host names outside ASCII

A label of a host name is written in ASCII by moving the characters outside ASCII
behind the others.  What is moved is written as the distances between them, counting
through all places for all code points; a distance is a number in base 36 whose
digits have thresholds that follow the sizes of the distances.

* `threshold_pos` / `threshold_le` — a threshold is one of 1 to 26, so a distance
  shrinks with every digit.
-/

namespace WorksheetBar.Text.Punycode

/-- A digit in base 36. -/
def digit (n : Nat) : Char :=
  if n < 26 then Char.ofNat (97 + n) else Char.ofNat (22 + n)

/-- The threshold of the digit in the given place. -/
def threshold (place bias : Nat) : Nat :=
  if place ≤ bias then 1 else min 26 (place - bias)

theorem threshold_pos (place bias : Nat) : 1 ≤ threshold place bias := by
  unfold threshold
  split <;> omega

/-- A threshold is at most the number of letters. -/
theorem threshold_le (place bias : Nat) : threshold place bias ≤ 26 := by
  unfold threshold
  split <;> omega

/-- The digits of a distance. -/
def digits (bias place distance : Nat) : List Char :=
  let least := threshold place bias
  if distance < least then [digit distance]
  else
    digit (least + (distance - least) % (36 - least)) ::
      digits bias (place + 36) ((distance - least) / (36 - least))
termination_by distance
decreasing_by
  have := threshold_pos place bias
  have := threshold_le place bias
  calc (distance - threshold place bias) / (36 - threshold place bias)
      ≤ distance - threshold place bias := Nat.div_le_self _ _
    _ < distance := by omega

/-- Scales a distance down until it is small, counting by how much. -/
def scaleDown (distance bias : Nat) : Nat :=
  if 455 < distance then scaleDown (distance / 35) (bias + 36)
  else bias + 36 * distance / (distance + 38)
termination_by distance
decreasing_by exact Nat.div_lt_self (by omega) (by omega)

/-- The bias after a distance, when so many characters are in place. -/
def nextBias (distance placed : Nat) (isFirst : Bool) : Nat :=
  let damped := if isFirst then distance / 700 else distance / 2
  scaleDown (damped + damped / placed) 0

/-- What has been written, and from where the next distance counts. -/
structure Writing where
  written : List Char := []
  distance : Nat := 0
  bias : Nat := 72
  placed : Nat
  isFirst : Bool := true

/-- Goes past one character of the label, looking for those with the given code
point. -/
def Writing.pass (point : Nat) (writing : Writing) (c : Char) : Writing :=
  if c.toNat < point then { writing with distance := writing.distance + 1 }
  else if c.toNat = point then
    { written := writing.written ++ digits writing.bias 36 writing.distance
      distance := 0
      bias := nextBias writing.distance (writing.placed + 1) writing.isFirst
      placed := writing.placed + 1
      isFirst := false }
  else writing

/-- Goes over the label once for every code point outside ASCII, in their order;
`start` is the first code point not gone over yet. -/
def writePoints (label : List Char) : List Nat → Nat → Writing → Writing
  | [], _, writing => writing
  | point :: rest, start, writing =>
    let skipped :=
      { writing with distance := writing.distance + (point - start) * (writing.placed + 1) }
    let passed := label.foldl (Writing.pass point) skipped
    writePoints label rest (point + 1) { passed with distance := passed.distance + 1 }

/-- The code points outside ASCII, in order, each once. -/
def foreignPoints (label : List Char) : List Nat :=
  ((label.map Char.toNat).filter (0x80 ≤ ·)).mergeSort.eraseDups

/-- A label in ASCII, without the mark that tells it from an ordinary one. -/
def encode (label : List Char) : List Char :=
  let ascii := label.filter fun c => c.toNat < 0x80
  let start := if ascii.isEmpty then [] else ascii ++ ['-']
  start ++ (writePoints label (foreignPoints label) 0x80 { placed := ascii.length }).written

end WorksheetBar.Text.Punycode
