import Mathlib.Data.List.SplitBy
import WorksheetBar.Worksheet

/-!
# The names of worksheets

A typed name is put on one line as it is read, character by character, with a flag for being
behind a line break.  Seen as a whole this is simpler: the text falls into stretches, of line
breaks and of other characters in turn, and each stretch of line breaks makes one space.

* `cut_iff` — a text falls into its stretches in one way only;
* `joinLines_flatten` — what is done character by character is done stretch by stretch;
* `effectiveName_effectiveName` — a name that was made to fit is left as it is;
* `names_fit_on_one_line` — what the name is, whatever was typed.
-/

namespace WorksheetBar.Worksheet

/-! ## Stretches -/

/-- The characters of a stretch are of one kind: all of them break a line, or none does. -/
def Uniform (stretch : List Char) : Prop :=
  (∀ c ∈ stretch, isBreak c = true) ∨ ∀ c ∈ stretch, isBreak c = false

/-- A text cut into stretches.  Where one ends, the next is of the other kind, so that no
stretch could be any longer. -/
structure Cut (text : List Char) (stretches : List (List Char)) : Prop where
  flatten : stretches.flatten = text
  ne_nil : ∀ stretch ∈ stretches, stretch ≠ []
  uniform : ∀ stretch ∈ stretches, Uniform stretch
  maximal : stretches.IsChain fun stretch next => stretch.all isBreak ≠ next.all isBreak

/-- What a stretch comes to on one line: line breaks make one space, and all else is kept. -/
def onOneLine (stretch : List Char) : List Char :=
  if stretch.all isBreak then [' '] else stretch

/-- Any character of a stretch tells its kind. -/
theorem Uniform.all_isBreak {stretch : List Char} (h : Uniform stretch) {c : Char}
    (hmem : c ∈ stretch) : stretch.all isBreak = isBreak c := by
  rcases h with hbreaks | hnone
  · rw [hbreaks c hmem, List.all_eq_true]
    exact hbreaks
  · rw [hnone c hmem, List.all_eq_false]
    exact ⟨c, hmem, by simp [hnone c hmem]⟩

/-- A stretch is of one kind if any two neighbours in it are. -/
theorem isChain_iff_uniform {stretch : List Char} :
    (stretch.IsChain fun a b => (isBreak a == isBreak b) = true) ↔ Uniform stretch := by
  constructor
  · intro hchain
    cases stretch with
    | nil => exact Or.inl fun c hmem => absurd hmem List.not_mem_nil
    | cons first rest =>
        have htrans : Trans (fun a b : Char => isBreak a = isBreak b)
            (fun a b : Char => isBreak a = isBreak b)
            (fun a b : Char => isBreak a = isBreak b) := ⟨Eq.trans⟩
        simp only [beq_iff_eq, List.isChain_iff_pairwise, List.pairwise_cons] at hchain
        have hsame : ∀ c ∈ first :: rest, isBreak c = isBreak first := by
          intro c hmem
          rcases List.mem_cons.mp hmem with rfl | hlater
          · rfl
          · exact (hchain.1 c hlater).symm
        cases hfirst : isBreak first with
        | true => exact Or.inl fun c hmem => (hsame c hmem).trans hfirst
        | false => exact Or.inr fun c hmem => (hsame c hmem).trans hfirst
  · intro huniform
    apply List.Pairwise.isChain
    rw [List.pairwise_iff_getElem]
    intro i j hi hj _
    rw [beq_iff_eq, ← huniform.all_isBreak (List.getElem_mem hi),
      ← huniform.all_isBreak (List.getElem_mem hj)]

/-- **A text falls into its stretches in one way only.** -/
theorem cut_iff {text : List Char} {stretches : List (List Char)} :
    Cut text stretches ↔ text.splitBy (fun a b => isBreak a == isBreak b) = stretches := by
  -- where two stretches meet, their kinds are told by the characters that meet
  have hmeet : (∀ stretch ∈ stretches, stretch ≠ []) → (∀ stretch ∈ stretches, Uniform stretch) →
      ((stretches.IsChain fun stretch next => stretch.all isBreak ≠ next.all isBreak) ↔
        stretches.IsChain fun stretch next =>
          ∃ (hlast : stretch ≠ []) (hhead : next ≠ []),
            (isBreak (stretch.getLast hlast) == isBreak (next.head hhead)) = false) := by
    intro hne huniform
    apply List.IsChain.iff_of_mem_imp
    intro stretch next hmem hmem'
    rw [(huniform stretch hmem).all_isBreak (List.getLast_mem (hne stretch hmem)),
      (huniform next hmem').all_isBreak (List.head_mem (hne next hmem'))]
    simp [hne stretch hmem, hne next hmem']
  have hne_nil : [] ∉ stretches ↔ ∀ stretch ∈ stretches, stretch ≠ [] :=
    ⟨fun h stretch hmem heq => h (heq ▸ hmem), fun h hmem => h [] hmem rfl⟩
  rw [List.splitBy_eq_iff, hne_nil]
  constructor
  · rintro ⟨hflatten, hne, huniform, hmaximal⟩
    exact ⟨hflatten.symm, hne, fun stretch hmem => isChain_iff_uniform.mpr (huniform stretch hmem),
      (hmeet hne huniform).mp hmaximal⟩
  · rintro ⟨hflatten, hne, hchains, hmeets⟩
    have huniform : ∀ stretch ∈ stretches, Uniform stretch :=
      fun stretch hmem => isChain_iff_uniform.mp (hchains stretch hmem)
    exact ⟨hflatten.symm, hne, huniform, (hmeet hne huniform).mpr hmeets⟩

/-- A text that is cut goes on with the rest of the cut. -/
theorem Cut.tail {text stretch : List Char} {rest : List (List Char)}
    (h : Cut text (stretch :: rest)) : Cut rest.flatten rest :=
  ⟨rfl, fun later hmem => h.ne_nil later (List.mem_cons_of_mem _ hmem),
    fun later hmem => h.uniform later (List.mem_cons_of_mem _ hmem), h.maximal.tail⟩

/-! ## Stretch by stretch -/

/-- Behind a line break, further ones are passed over. -/
theorem joinLines_breaks_append {breaks : List Char} (h : ∀ c ∈ breaks, isBreak c = true)
    (rest : List Char) : joinLines true (breaks ++ rest) = joinLines true rest := by
  induction breaks with
  | nil => rfl
  | cons c breaks ih =>
      have hfirst : isBreak c = true := h c List.mem_cons_self
      simp only [List.cons_append, joinLines, hfirst, if_true]
      exact ih fun d hmem => h d (List.mem_cons_of_mem _ hmem)

/-- Other characters are kept, and what follows them is not behind a line break. -/
theorem joinLines_append {kept : List Char} (hne : kept ≠ [])
    (h : ∀ c ∈ kept, isBreak c = false) (afterBreak : Bool) (rest : List Char) :
    joinLines afterBreak (kept ++ rest) = kept ++ joinLines false rest := by
  induction kept generalizing afterBreak with
  | nil => exact absurd rfl hne
  | cons c kept ih =>
      have hfirst : isBreak c = false := h c List.mem_cons_self
      have hlater : ∀ d ∈ kept, isBreak d = false := fun d hmem => h d (List.mem_cons_of_mem _ hmem)
      simp only [List.cons_append, joinLines, hfirst, Bool.false_eq_true, if_false]
      cases kept with
      | nil => rfl
      | cons d kept => rw [ih (List.cons_ne_nil d kept) hlater false]

/-- **What is done character by character is done stretch by stretch.**  The flag is of no
account where a stretch of other characters comes next. -/
theorem joinLines_flatten {text : List Char} {stretches : List (List Char)}
    (h : Cut text stretches) (afterBreak : Bool)
    (hnext : afterBreak = true → ∀ stretch ∈ stretches.head?, stretch.all isBreak = false) :
    joinLines afterBreak stretches.flatten = stretches.flatMap onOneLine := by
  induction stretches generalizing text afterBreak with
  | nil => rfl
  | cons stretch rest ih =>
      have hne : stretch ≠ [] := h.ne_nil stretch List.mem_cons_self
      have hneighbour : ∀ next ∈ rest.head?, stretch.all isBreak ≠ next.all isBreak :=
        (List.isChain_cons.mp h.maximal).1
      rw [List.flatten_cons, List.flatMap_cons, onOneLine]
      rcases h.uniform stretch List.mem_cons_self with hbreaks | hnone
      · have hall : stretch.all isBreak = true := List.all_eq_true.mpr hbreaks
        have hnotBehind : afterBreak = false := by
          by_contra hbehind
          have hother := hnext (by simpa using hbehind) stretch rfl
          rw [hall] at hother
          cases hother
        have hrest : joinLines true rest.flatten = rest.flatMap onOneLine :=
          ih h.tail true fun _ next hmem => by
            have hkind := hneighbour next hmem
            rw [hall] at hkind
            simpa using hkind.symm
        obtain ⟨c, breaks, rfl⟩ := List.exists_cons_of_ne_nil hne
        have hfirst : isBreak c = true := hbreaks c List.mem_cons_self
        have hlater : ∀ d ∈ breaks, isBreak d = true :=
          fun d hmem => hbreaks d (List.mem_cons_of_mem _ hmem)
        rw [if_pos hall, hnotBehind, List.cons_append, joinLines, if_pos hfirst,
          if_neg Bool.false_ne_true, joinLines_breaks_append hlater, hrest]
        rfl
      · have hall : stretch.all isBreak = false := by
          obtain ⟨c, hmem⟩ := List.exists_mem_of_ne_nil stretch hne
          rw [(h.uniform stretch List.mem_cons_self).all_isBreak hmem, hnone c hmem]
        rw [if_neg (by simp [hall]), joinLines_append hne hnone,
          ih h.tail false fun hbehind => absurd hbehind Bool.false_ne_true]

/-! ## Names -/

/-- A line break is white space. -/
theorem isBlankChar_of_isBreak {c : Char} (h : isBreak c = true) : Text.isBlankChar c = true := by
  simp only [isBreak, Bool.or_eq_true, beq_iff_eq] at h
  rcases h with rfl | rfl <;> decide

/-- What breaks no line is kept. -/
theorem mem_joinLines {text : List Char} {afterBreak : Bool} {c : Char} (hmem : c ∈ text)
    (h : isBreak c = false) : c ∈ joinLines afterBreak text := by
  induction text generalizing afterBreak with
  | nil => cases hmem
  | cons d rest ih =>
      unfold joinLines
      rcases List.mem_cons.mp hmem with rfl | hlater
      · simp [h]
      · split
        · split
          · exact ih hlater
          · exact List.mem_cons_of_mem _ (ih hlater)
        · exact List.mem_cons_of_mem _ (ih hlater)

/-- A blank name is replaced by the default. -/
theorem effectiveName_of_isBlank {typed : String} (h : Text.isBlank typed = true) :
    effectiveName typed = defaultName :=
  if_pos h

/-- Any other name is kept, with its lines joined. -/
theorem effectiveName_of_not_isBlank {typed : String} (h : Text.isBlank typed = false) :
    effectiveName typed = String.ofList (joinLines false typed.toList) :=
  if_neg (by simp [h])

/-- A name is never blank. -/
theorem isBlank_effectiveName (typed : String) : Text.isBlank (effectiveName typed) = false := by
  cases hblank : Text.isBlank typed with
  | true =>
      rw [effectiveName_of_isBlank hblank]
      decide
  | false =>
      rw [effectiveName_of_not_isBlank hblank, Text.isBlank, String.toList_ofList,
        List.all_eq_false]
      rw [Text.isBlank, List.all_eq_false] at hblank
      obtain ⟨c, hmem, hc⟩ := hblank
      -- what is not white space breaks no line, so it is kept
      refine ⟨c, mem_joinLines hmem ?_, hc⟩
      by_contra hbreak
      exact hc (isBlankChar_of_isBreak (by simpa using hbreak))

/-- A name is on one line. -/
theorem not_isBreak_of_mem_effectiveName {typed : String} {c : Char}
    (hmem : c ∈ (effectiveName typed).toList) : isBreak c = false := by
  cases hblank : Text.isBlank typed with
  | true =>
      have hdefault : defaultName.toList.all (fun c => !isBreak c) = true := by decide
      rw [effectiveName_of_isBlank hblank] at hmem
      simpa using List.all_eq_true.mp hdefault c hmem
  | false =>
      rw [effectiveName_of_not_isBlank hblank, String.toList_ofList] at hmem
      exact not_isBreak_of_mem_joinLines hmem

/-- **A name that was made to fit is left as it is.** -/
theorem effectiveName_effectiveName (typed : String) :
    effectiveName (effectiveName typed) = effectiveName typed := by
  rw [effectiveName_of_not_isBlank (isBlank_effectiveName typed),
    joinLines_of_breakless false fun c hmem => not_isBreak_of_mem_effectiveName hmem,
    String.ofList_toList]

/-- **Names fit on one line**, whatever was typed.  White space alone, or nothing, makes the fixed
name.  Anything else is cut into stretches, which can be done in one way, and the name is what
they come to: one space for each stretch of line breaks, and the others as they are, in order.

A name is never blank, no line breaks in it or in the command that is sent for it, and it is its
own name. -/
theorem names_fit_on_one_line (typed : String) :
    ((∀ c ∈ typed.toList, Text.isBlankChar c = true) → effectiveName typed = "unnamed") ∧
    ((∃ c ∈ typed.toList, Text.isBlankChar c = false) →
      ∀ stretches, Cut typed.toList stretches →
        effectiveName typed = String.ofList (stretches.flatMap onOneLine)) ∧
    (∃! stretches, Cut typed.toList stretches) ∧
    (∃ c ∈ (effectiveName typed).toList, Text.isBlankChar c = false) ∧
    (∀ c ∈ (effectiveName typed).toList, c ≠ '\r' ∧ c ≠ '\n') ∧
    (∀ c ∈ (newCommand (effectiveName typed)).toList, c ≠ '\r' ∧ c ≠ '\n') ∧
    effectiveName (effectiveName typed) = effectiveName typed := by
  have hline : ∀ c ∈ (effectiveName typed).toList, c ≠ '\r' ∧ c ≠ '\n' := by
    intro c hmem
    simpa [isBreak] using not_isBreak_of_mem_effectiveName hmem
  refine ⟨?_, ?_, ?_, ?_, hline, ?_, effectiveName_effectiveName typed⟩
  · intro hblank
    exact effectiveName_of_isBlank (Text.isBlank_eq_true_iff.mpr hblank)
  · rintro ⟨c, hmem, hc⟩ stretches hcut
    have hblank : Text.isBlank typed = false := by
      rw [Text.isBlank, List.all_eq_false]
      exact ⟨c, hmem, by simp [hc]⟩
    have hstretches := joinLines_flatten hcut false fun hbehind =>
      absurd hbehind Bool.false_ne_true
    rw [effectiveName_of_not_isBlank hblank, ← hstretches, hcut.flatten]
  · refine ⟨_, cut_iff.mpr rfl, ?_⟩
    intro other hother
    exact (cut_iff.mp hother).symm
  · have hblank := isBlank_effectiveName typed
    rw [Text.isBlank, List.all_eq_false] at hblank
    simpa using hblank
  · have hverb : "new ".toList.all (fun c => !isBreak c) = true := by decide
    intro c hmem
    rw [newCommand, String.toList_append] at hmem
    rcases List.mem_append.mp hmem with hfront | hname
    · simpa [isBreak] using List.all_eq_true.mp hverb c hfront
    · exact hline c hname

/-- Breaks of every kind, in the middle and at the end, and a space that was typed. -/
theorem names_fit_on_one_line_broken :
    let typed := " a\r\n\nb\r"
    let stretches := [[' ', 'a'], ['\r', '\n', '\n'], ['b'], ['\r']]
    Cut typed.toList stretches ∧ (∃ c ∈ typed.toList, Text.isBlankChar c = false) ∧
    effectiveName typed = String.ofList (stretches.flatMap onOneLine) ∧
    effectiveName typed = " a b " := by
  intro typed stretches
  have hcut : Cut typed.toList stretches := cut_iff.mpr (by decide)
  have hblank : ∃ c ∈ typed.toList, Text.isBlankChar c = false := ⟨'a', by decide, by decide⟩
  obtain ⟨_, hname, _⟩ := names_fit_on_one_line typed
  have hstretches := hname hblank stretches hcut
  exact ⟨hcut, hblank, hstretches, hstretches.trans (by decide)⟩

end WorksheetBar.Worksheet
