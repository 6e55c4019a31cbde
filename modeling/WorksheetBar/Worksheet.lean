import WorksheetBar.Text.CodePoints

/-!
# Worksheet names

The name a worksheet is created under is what was typed, made to fit on one line:
a run of line breaks counts as one space.  Typing nothing but white space means
no name at all, and then a fixed one is used.

* `joinLines_of_breakless` — a text on one line is kept as it is;
* `not_isBreak_of_mem_joinLines` — the result is always on one line.
-/

namespace WorksheetBar.Worksheet

/-- The name of a worksheet that was given none. -/
def defaultName : String := "unnamed"

/-- Whether a character breaks a line. -/
def isBreak (c : Char) : Bool := c == '\r' || c == '\n'

/-- Puts one space for every run of line breaks.  The flag tells whether the text
stands behind a line break that already has its space. -/
def joinLines (afterBreak : Bool) : List Char → List Char
  | [] => []
  | c :: rest =>
    if isBreak c then
      if afterBreak then joinLines true rest else ' ' :: joinLines true rest
    else c :: joinLines false rest

/-- The name that is used for a typed one. -/
def effectiveName (typed : String) : String :=
  if Text.isBlank typed then defaultName
  else String.ofList (joinLines false typed.toList)

/-- The command that creates a worksheet of the given name. -/
def newCommand (name : String) : String := "new " ++ name

@[simp] theorem joinLines_nil (afterBreak : Bool) : joinLines afterBreak [] = [] := rfl

/-- A text without breaks stays as it is. -/
theorem joinLines_of_breakless {text : List Char} (afterBreak : Bool)
    (h : ∀ c ∈ text, isBreak c = false) : joinLines afterBreak text = text := by
  induction text generalizing afterBreak with
  | nil => rfl
  | cons c rest ih =>
      have first : isBreak c = false := h c (by simp)
      simp [joinLines, first, ih false fun d member => h d (by simp [member])]

/-- **Joined lines hold no break.** -/
theorem not_isBreak_of_mem_joinLines {text : List Char} {afterBreak : Bool} {c : Char}
    (h : c ∈ joinLines afterBreak text) : isBreak c = false := by
  induction text generalizing afterBreak with
  | nil => simp at h
  | cons d rest ih =>
      unfold joinLines at h
      split at h
      · split at h
        · exact ih h
        · rcases List.mem_cons.mp h with rfl | later
          · rfl
          · exact ih later
      · rcases List.mem_cons.mp h with rfl | later
        · simpa using ‹¬isBreak c = true›
        · exact ih later

end WorksheetBar.Worksheet
