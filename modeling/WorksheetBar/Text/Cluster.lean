import WorksheetBar.Text.CodePoints

/-!
# Clusters

Text as a reader sees it: a letter together with its marks, a syllable together with
its parts, a picture together with what is joined to it.  A cluster is the least that
a screen can show.

* `flatten_clusters` — the clusters of a text are the text;
* `ne_nil_of_mem_clusters` — and none of them is empty.
-/

namespace WorksheetBar.Text

/-- How a character behaves at the edge of a cluster. -/
inductive Joining where
  | carriageReturn
  | lineFeed
  | control
  | extending
  | joiner
  | spacing
  | leading
  | regional
  | pictograph
  | initial
  | vowel
  | final
  | openSyllable
  | closedSyllable
  | other
  deriving DecidableEq, Repr

/-- Format characters and separators that stand alone. -/
def lonePoints : CodePoints := [
  (0x0, 0x1f), (0x7f, 0x9f), (0xad, 0xad), (0x61c, 0x61c), (0x180e, 0x180e), (0x200b, 0x200b),
  (0x200e, 0x200f), (0x2028, 0x202e), (0x2060, 0x206f), (0xfeff, 0xfeff), (0xfff0, 0xfffb),
  (0x13430, 0x1343f), (0x1bca0, 0x1bca3), (0x1d173, 0x1d17a), (0xe0000, 0xe001f),
  (0xe0080, 0xe00ff), (0xe01f0, 0xe0fff)]

/-- Marks that join the character after them. -/
def leadingPoints : CodePoints := [
  (0x600, 0x605), (0x6dd, 0x6dd), (0x70f, 0x70f), (0x890, 0x891), (0x8e2, 0x8e2),
  (0xd4e, 0xd4e), (0x110bd, 0x110bd), (0x110cd, 0x110cd), (0x111c2, 0x111c3),
  (0x113d1, 0x113d1), (0x1193f, 0x1193f), (0x11941, 0x11941), (0x11a3a, 0x11a3a),
  (0x11a84, 0x11a89), (0x11d46, 0x11d46), (0x11f02, 0x11f02)]

/-- How a character joins its neighbours. -/
def Joining.of (c : Char) : Joining :=
  if ' ' ≤ c && c ≤ '~' then .other
  else if c = '\r' then .carriageReturn
  else if c = '\n' then .lineFeed
  else if isIn lonePoints c then .control
  else if c.toNat = 0x200D then .joiner
  else if isIn extendingPoints c then .extending
  else if isIn spacingPoints c then .spacing
  else if isIn leadingPoints c then .leading
  else if isIn [(0x1F1E6, 0x1F1FF)] c then .regional
  else if isIn [(0x1100, 0x115F), (0xA960, 0xA97C)] c then .initial
  else if isIn [(0x1160, 0x11A7), (0xD7B0, 0xD7C6)] c then .vowel
  else if isIn [(0x11A8, 0x11FF), (0xD7CB, 0xD7FB)] c then .final
  else if isIn [(0xAC00, 0xD7A3)] c then
    if (c.toNat - 0xAC00) % 28 = 0 then .openSyllable else .closedSyllable
  else if isPictograph c then .pictograph
  else .other

/-- What is known about the cluster so far: how its last character joins, whether it
ends in a picture that a joiner can add to, and whether a regional indicator of it still
has no partner. -/
structure Joined where
  last : Joining
  picture : Bool
  single : Bool
  deriving Repr

namespace Joined

/-- A cluster of one character. -/
def first (next : Joining) : Joined := ⟨next, next = .pictograph, next = .regional⟩

/-- Whether a character belongs to the cluster before it. -/
def admits (before : Joined) (next : Joining) : Bool :=
  match before.last, next with
  | .carriageReturn, .lineFeed => true
  | .carriageReturn, _ | .lineFeed, _ | .control, _ => false
  | _, .carriageReturn | _, .lineFeed | _, .control => false
  | .initial, .initial | .initial, .vowel | .initial, .openSyllable
  | .initial, .closedSyllable => true
  | .openSyllable, .vowel | .openSyllable, .final | .vowel, .vowel | .vowel, .final => true
  | .closedSyllable, .final | .final, .final => true
  | _, .extending | _, .joiner | _, .spacing => true
  | .leading, _ => true
  | .joiner, .pictograph => before.picture
  | .regional, .regional => before.single
  | _, _ => false

/-- The cluster with one more character. -/
def add (before : Joined) (next : Joining) : Joined :=
  { last := next
    picture :=
      match next with
      | .pictograph => true
      | .extending => before.picture && before.last != .joiner
      | .joiner => before.picture && before.last != .joiner
      | _ => false
    single := next = .regional && !before.single }

end Joined

/-- The clusters of some characters: the one begun, which is given backwards, and those
after it. -/
def clustersFrom (begun : List Char) (joined : Joined) : List Char → List (List Char)
  | [] => [begun.reverse]
  | c :: rest =>
    let next := Joining.of c
    if joined.admits next then clustersFrom (c :: begun) (joined.add next) rest
    else begun.reverse :: clustersFrom [c] (.first next) rest

/-- The clusters of some characters. -/
def clusters : List Char → List (List Char)
  | [] => []
  | c :: rest => clustersFrom [c] (.first (.of c)) rest

/-- The clusters put together are the one that has begun and the rest of the text. -/
theorem flatten_clustersFrom (begun : List Char) (joined : Joined) (rest : List Char) :
    (clustersFrom begun joined rest).flatten = begun.reverse ++ rest := by
  induction rest generalizing begun joined with
  | nil => simp [clustersFrom]
  | cons c rest ih =>
    simp only [clustersFrom]
    split <;> simp [ih]

/-- **The clusters of a text, put together, are the text.** -/
theorem flatten_clusters (chars : List Char) : (clusters chars).flatten = chars := by
  cases chars with
  | nil => rfl
  | cons c rest => simp [clusters, flatten_clustersFrom]

/-- No cluster is empty, if the one that has begun is not. -/
theorem ne_nil_of_mem_clustersFrom {begun : List Char} {joined : Joined} {rest cluster : List Char}
    (h : begun ≠ []) (mem : cluster ∈ clustersFrom begun joined rest) : cluster ≠ [] := by
  induction rest generalizing begun joined with
  | nil =>
    simp only [clustersFrom, List.mem_singleton] at mem
    simpa [mem] using h
  | cons c rest ih =>
    simp only [clustersFrom] at mem
    split at mem
    · exact ih (by simp) mem
    · rcases List.mem_cons.1 mem with rfl | mem
      · simpa using h
      · exact ih (by simp) mem

/-- **No cluster is empty.** -/
theorem ne_nil_of_mem_clusters {chars cluster : List Char} (mem : cluster ∈ clusters chars) :
    cluster ≠ [] := by
  cases chars with
  | nil => simp [clusters] at mem
  | cons c rest => exact ne_nil_of_mem_clustersFrom (by simp) mem

end WorksheetBar.Text
