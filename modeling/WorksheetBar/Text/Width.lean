import WorksheetBar.Text.Cluster
import WorksheetBar.Text.CodePoints

/-!
# Widths

How many cells of a screen a cluster takes.

* `charWidth_of_ascii` — a printable ASCII character takes one;
* `width_eq_length` — a cluster of characters that take one each takes as many as it has.
-/

namespace WorksheetBar.Text

/-- The selector that asks for a picture in black and white. -/
def textSelector : Nat := 0xFE0E

/-- The selector that asks for a picture in colour. -/
def pictureSelector : Nat := 0xFE0F

/-- How many cells a character takes by itself. -/
def charWidth (c : Char) : Nat :=
  if ' ' ≤ c && c ≤ '~' then 1
  else if c.toNat = 0x115F ∨ c.toNat = 0x17A4 then 2
  else if c.toNat = 0x17D8 then 3
  else if isIn [(0x1F3FB, 0x1F3FF)] c then 2
  else if isIn extendingPoints c || isIn invisiblePoints c then 0
  else if isIn widePoints c then 2
  else 1

/-- Whether a character and a selector for colour make a key of a keypad. -/
def isKeypad (c : Char) : Bool := c.isDigit || c = '#' || c = '*'

/-- The sum of the widths of some characters. -/
def charWidths : List Char → Nat
  | [] => 0
  | c :: rest => charWidth c + charWidths rest

/-- Whether a character makes one picture of what it stands between or behind: the joiner
and the modifiers do. -/
def isPictureJoint (c : Char) : Bool := c.toNat = 0x200D || isIn [(0x1F3FB, 0x1F3FF)] c

/-- How many cells a cluster takes.  A picture takes at most two, whatever is joined to
it; a selector can make it two or one. -/
def width : List Char → Nat
  | [] => 0
  | ['\r', '\n'] => 1
  | c :: rest =>
    let selector := (rest.head?.map Char.toNat).getD 0
    if isPictograph c then
      if selector = pictureSelector then 2
      else if selector = textSelector && !isIn [(0x1F200, 0x1F2FF)] c then 1
      else if rest.any isPictureJoint then min 2 (charWidths (c :: rest))
      else charWidths (c :: rest)
    else if isKeypad c && selector = pictureSelector then 2
    else charWidths (c :: rest)

/-- A printable character of ASCII takes one cell. -/
theorem charWidth_of_ascii {c : Char} (lower : ' ' ≤ c) (upper : c ≤ '~') : charWidth c = 1 := by
  simp [charWidth, lower, upper]

/-- Characters that take one cell each take as many as there are. -/
theorem charWidths_eq_length {chars : List Char} (h : ∀ c ∈ chars, charWidth c = 1) :
    charWidths chars = chars.length := by
  induction chars with
  | nil => rfl
  | cons c rest ih =>
    have first := h c List.mem_cons_self
    have others := ih fun d mem => h d (List.mem_cons_of_mem c mem)
    simp only [charWidths, first, others, List.length_cons]
    omega

/-- Nothing is drawn for a selector. -/
theorem charWidth_of_selector {c : Char}
    (h : c.toNat = textSelector ∨ c.toNat = pictureSelector) : charWidth c = 0 := by
  rw [← Char.ofNat_toNat c]
  rcases h with text | picture
  · rw [text]
    decide
  · rw [picture]
    decide

/-- Nothing is drawn for the joiner, and a modifier is as wide as a picture. -/
theorem charWidth_ne_one_of_joint {c : Char} (h : isPictureJoint c = true) : charWidth c ≠ 1 := by
  rw [isPictureJoint, Bool.or_eq_true, decide_eq_true_eq] at h
  rcases h with joiner | modifier
  · rw [← Char.ofNat_toNat c, joiner]
    decide +kernel
  · have range : 0x1F3FB ≤ c.toNat ∧ c.toNat ≤ 0x1F3FF := by simpa [isIn] using modifier
    have notAscii : ¬(' ' ≤ c && c ≤ '~') = true := by
      simp only [Bool.and_eq_true, decide_eq_true_eq, Char.le_def, UInt32.le_iff_toNat_le,
        Char.toNat_val] at range ⊢
      have : '~'.toNat = 126 := rfl
      omega
    rw [charWidth, if_neg notAscii, if_neg (by omega), if_neg (by omega), if_pos modifier]
    decide

/-- A cluster of characters of one cell takes a cell for each, unless a line feed in it
makes one end of a line of two characters. -/
theorem width_eq_length {cluster : List Char} (h : ∀ c ∈ cluster, charWidth c = 1)
    (unbroken : '\n' ∉ cluster) : width cluster = cluster.length := by
  have plain := charWidths_eq_length h
  unfold width
  split
  · rfl
  · exact absurd (by decide) unbroken
  · next c rest _ =>
    have unselected (selector : Nat) (known : selector = textSelector ∨ selector = pictureSelector) :
        (rest.head?.map Char.toNat).getD 0 ≠ selector := by
      cases rest with
      | nil => rcases known with rfl | rfl <;> decide
      | cons d rest =>
        rintro (rfl : d.toNat = selector)
        have one := h d (List.mem_cons_of_mem c List.mem_cons_self)
        rw [charWidth_of_selector known] at one
        cases one
    have separate : rest.any isPictureJoint = false := by
      rw [List.any_eq_false]
      intro d mem joins
      exact charWidth_ne_one_of_joint joins (h d (List.mem_cons_of_mem c mem))
    simp [unselected textSelector, unselected pictureSelector, separate, plain]

end WorksheetBar.Text
