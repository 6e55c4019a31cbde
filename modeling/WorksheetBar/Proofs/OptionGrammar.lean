import Mathlib.Data.List.Induction
import WorksheetBar.Command.Options

/-!
# The grammar of options

Arguments are options exactly if they are items written one after the other: a flag and any
value, or a word that does not look like a flag.  There is one way at most to take them apart,
from left to right.  Where that comes to an end too early there is an **offender**: a flag
without a value, or something that looks like a flag and is none.

What the items come to is told for each flag by itself and for the words: the last value of the
flag counts, and the words are kept in their order.  So it makes no difference where the flags
stand among the words.

* `items_eq_ok_iff` — which arguments are items;
* `items_eq_error_iff` — which are not, and what is said of them;
* `ofItems_value?` — the last value of a flag counts;
* `parse_grammar` — which arguments are options, and which options they are.
-/

namespace WorksheetBar.Command

/-! ## Taking arguments apart -/

/-- An argument at which reading ends too early, with those behind it, and what is said of it. -/
inductive Offends : String → List String → UsageError → Prop
  /-- A flag at the end has no value. -/
  | missing (flag : Flag) : Offends flag.text [] flag.missing
  /-- It looks like a flag and is none. -/
  | unsupported {argument : String} (rest : List String)
      (hlike : isFlagLike argument = true) (hnone : ∀ flag : Flag, flag.text ≠ argument) :
      Offends argument rest (.unsupported argument)

namespace Flag

/-- There are three flags. -/
theorem mem_all (flag : Flag) : flag ∈ [config, baseUrl, session] := by
  cases flag <;> simp

/-- What is taken for a flag is its text. -/
theorem text_of_ofText? {argument : String} {flag : Flag} (h : ofText? argument = some flag) :
    flag.text = argument := by
  simpa using List.find?_some h

/-- What is taken for no flag is the text of none. -/
theorem ofText?_eq_none_iff {argument : String} :
    ofText? argument = none ↔ ∀ flag : Flag, flag.text ≠ argument := by
  rw [ofText?, List.find?_eq_none]
  constructor
  · intro h flag
    simpa using h flag flag.mem_all
  · intro h flag _
    simpa using h flag

/-- A flag is written with its value behind it. -/
theorem arguments_item (flag : Flag) (value : String) :
    (flag.item value).arguments = [flag.text, value] := by
  cases flag <;> rfl

/-- Any value may stand behind a flag. -/
theorem isWritable_item (flag : Flag) (value : String) : (flag.item value).isWritable = true := by
  cases flag <;> rfl

end Flag

/-- What is said of an offender names it. -/
theorem Offends.named {offender : String} {rest : List String} {error : UsageError}
    (h : Offends offender rest error) : ∃ before behind,
      error.message = before ++ offender ++ behind := by
  cases h with
  | missing flag =>
      cases flag with
      | config => exact ⟨"", " requires a path", by decide +kernel⟩
      | baseUrl => exact ⟨"", " requires a URL", by decide +kernel⟩
      | session => exact ⟨"", " requires a token", by decide +kernel⟩
  | unsupported => exact ⟨"unsupported argument: ", "", String.append_empty.symm⟩

/-- Behind items that are read back, reading goes on. -/
theorem items_append {written : List Item} (h : ∀ item ∈ written, item.isWritable = true)
    (rest : List String) :
    items (written.flatMap Item.arguments ++ rest) = (items rest).map (written ++ ·) := by
  induction written with
  | nil => cases hrest : items rest <;> simp [hrest, Except.map]
  | cons item written ih =>
      have hwritten := ih fun other hmem => h other (List.mem_cons_of_mem _ hmem)
      have hflag : ∀ (flag : Flag) (value : String), item = flag.item value →
          items ((item :: written).flatMap Item.arguments ++ rest) =
            (items rest).map (item :: written ++ ·) := by
        rintro flag value rfl
        rw [List.flatMap_cons, flag.arguments_item, List.append_assoc, List.cons_append,
          List.cons_append, List.nil_append, items_flag, hwritten]
        cases items rest <;> rfl
      cases item with
      | config path => exact hflag .config path rfl
      | baseUrl url => exact hflag .baseUrl url rfl
      | session token => exact hflag .session token rfl
      | word text =>
          have hplain : isFlagLike text = false := by
            simpa [Item.isWritable] using h (.word text) List.mem_cons_self
          rw [List.flatMap_cons, Item.arguments, List.append_assoc, List.singleton_append,
            items_word hplain, hwritten]
          cases items rest <;> rfl

/-- At an offender reading ends. -/
theorem Offends.items_eq {offender : String} {rest : List String} {error : UsageError}
    (h : Offends offender rest error) : items (offender :: rest) = .error error := by
  cases h with
  | missing flag => rw [items, Flag.ofText?_text]
  | unsupported rest hlike hnone =>
      have hnone := Flag.ofText?_eq_none_iff.mpr hnone
      cases rest with
      | nil => simp [items, hnone, hlike]
      | cons value rest => simp [items, hnone, hlike]

/-- What reading may come to: the items that the arguments are made of, or what is said of the
first offender. -/
def Splits (arguments : List String) : Except UsageError (List Item) → Prop
  | .ok written =>
    (∀ item ∈ written, item.isWritable = true) ∧ arguments = written.flatMap Item.arguments
  | .error error =>
    ∃ (written : List Item) (offender : String) (rest : List String),
      (∀ item ∈ written, item.isWritable = true) ∧
        arguments = written.flatMap Item.arguments ++ offender :: rest ∧
        Offends offender rest error

/-- One more item in front. -/
theorem Splits.cons {item : Item} (hitem : item.isWritable = true) {arguments : List String}
    {result : Except UsageError (List Item)} (h : Splits arguments result) :
    Splits (item.arguments ++ arguments) (result.map (item :: ·)) := by
  cases result with
  | ok written =>
      obtain ⟨hwritable, rfl⟩ := h
      exact ⟨List.forall_mem_cons.mpr ⟨hitem, hwritable⟩, rfl⟩
  | error error =>
      obtain ⟨written, offender, rest, hwritable, rfl, hoffends⟩ := h
      exact ⟨item :: written, offender, rest, List.forall_mem_cons.mpr ⟨hitem, hwritable⟩,
        (List.append_assoc _ _ _).symm, hoffends⟩

/-- Reading ends at an offender in front. -/
theorem Offends.splits {offender : String} {rest : List String} {error : UsageError}
    (h : Offends offender rest error) : Splits (offender :: rest) (.error error) :=
  ⟨[], offender, rest, fun _ hmem => absurd hmem List.not_mem_nil, rfl, h⟩

/-- **Reading comes to the items that the arguments are made of, or ends at an offender.** -/
theorem splits_items (arguments : List String) : Splits arguments (items arguments) := by
  fun_induction items arguments with
  | case1 => exact ⟨fun item hmem => absurd hmem List.not_mem_nil, rfl⟩
  | case2 argument flag hflag =>
      obtain rfl := Flag.text_of_ofText? hflag
      exact (Offends.missing flag).splits
  | case3 argument hflag hlike | case6 argument value rest hflag hlike =>
      exact (Offends.unsupported _ hlike (Flag.ofText?_eq_none_iff.mp hflag)).splits
  | case4 argument hflag hlike =>
      have hplain : isFlagLike argument = false := by simpa using hlike
      exact ⟨by simp [Item.isWritable, hplain], rfl⟩
  | case5 argument value rest flag hflag ih =>
      have hcons := ih.cons (flag.isWritable_item value)
      rwa [flag.arguments_item, Flag.text_of_ofText? hflag] at hcons
  | case7 argument value rest hflag hlike ih =>
      have hplain : (Item.word argument).isWritable = true := by
        simpa [Item.isWritable] using hlike
      exact ih.cons hplain

/-- **Which arguments are items.** -/
theorem items_eq_ok_iff {arguments : List String} {written : List Item} :
    items arguments = .ok written ↔
      (∀ item ∈ written, item.isWritable = true) ∧ arguments = written.flatMap Item.arguments := by
  constructor
  · intro h
    have hsplits := splits_items arguments
    rwa [h] at hsplits
  · rintro ⟨hwritable, rfl⟩
    exact items_arguments hwritable

/-- **Which arguments are not items, and what is said of them.** -/
theorem items_eq_error_iff {arguments : List String} {error : UsageError} :
    items arguments = .error error ↔
      ∃ (written : List Item) (offender : String) (rest : List String),
        (∀ item ∈ written, item.isWritable = true) ∧
          arguments = written.flatMap Item.arguments ++ offender :: rest ∧
          Offends offender rest error := by
  constructor
  · intro h
    have hsplits := splits_items arguments
    rwa [h] at hsplits
  · rintro ⟨written, offender, rest, hwritable, rfl, hoffends⟩
    rw [items_append hwritable, hoffends.items_eq]
    rfl

/-! ## What items come to -/

/-- The value that the options have for a flag. -/
def Options.value? (options : Options) : Flag → Option String
  | .config => options.config
  | .baseUrl => options.baseUrl
  | .session => options.session

/-- The flag that an item sets, and its value. -/
def Item.setting? : Item → Option (Flag × String)
  | config path => some (.config, path)
  | baseUrl url => some (.baseUrl, url)
  | session token => some (.session, token)
  | word _ => none

/-- The value that an item gives to a flag. -/
def Item.value? (flag : Flag) (item : Item) : Option String :=
  item.setting?.bind fun (set, value) => if set = flag then some value else none

/-- Options are known by the values of the flags and by the words. -/
theorem Options.ext_value? {first second : Options}
    (hvalue : ∀ flag, first.value? flag = second.value? flag)
    (hwords : first.words = second.words) : first = second := by
  obtain ⟨_, _, _, _⟩ := first
  obtain ⟨_, _, _, _⟩ := second
  obtain rfl := hvalue .config
  obtain rfl := hvalue .baseUrl
  obtain rfl := hvalue .session
  obtain rfl := hwords
  rfl

/-- An item gives its value to its own flag and leaves the others as they are. -/
theorem Options.value?_take (options : Options) (item : Item) (flag : Flag) :
    (options.take item).value? flag = (item.value? flag).or (options.value? flag) := by
  cases item <;> cases flag <;> rfl

/-- Along some items, a flag has the last value that is given to it. -/
theorem foldl_take_value? (written : List Item) (options : Options) (flag : Flag) :
    (written.foldl Options.take options).value? flag =
      (written.filterMap (Item.value? flag)).getLast?.or (options.value? flag) := by
  induction written using List.reverseRecOn with
  | nil => rfl
  | append_singleton written item ih =>
      rw [List.foldl_append, List.foldl_cons, List.foldl_nil, Options.value?_take, ih,
        List.filterMap_append]
      cases hvalue : item.value? flag <;> simp [hvalue]

/-- **The last value of a flag counts.** -/
theorem ofItems_value? (written : List Item) (flag : Flag) :
    (Options.ofItems written).value? flag = (written.filterMap (Item.value? flag)).getLast? := by
  have hempty : Options.value? {} flag = none := by cases flag <;> rfl
  rw [Options.ofItems, foldl_take_value?, hempty, Option.or_none]

/-- Items that give the same values to each flag, and the same words, come to the same. -/
theorem ofItems_congr {first second : List Item}
    (hvalue : ∀ flag, first.filterMap (Item.value? flag) = second.filterMap (Item.value? flag))
    (hwords : first.filterMap Item.word? = second.filterMap Item.word?) :
    Options.ofItems first = Options.ofItems second := by
  apply Options.ext_value?
  · intro flag
    rw [ofItems_value?, ofItems_value?, hvalue flag]
  · rw [ofItems_words, ofItems_words, hwords]

/-- Options are those of some items exactly if they have the last values, and all words. -/
theorem options_eq_ofItems_iff {options : Options} {written : List Item} :
    options = Options.ofItems written ↔
      (∀ flag, options.value? flag = (written.filterMap (Item.value? flag)).getLast?) ∧
        options.words = written.filterMap Item.word? := by
  constructor
  · rintro rfl
    exact ⟨ofItems_value? written, ofItems_words written⟩
  · rintro ⟨hvalue, hwords⟩
    apply Options.ext_value?
    · intro flag
      rw [hvalue, ofItems_value?]
    · rw [hwords, ofItems_words]

/-! ## Spelling options -/

/-- Options as items, the flags first. -/
def Options.items (options : Options) : List Item :=
  options.config.toList.map .config ++ options.baseUrl.toList.map .baseUrl ++
    options.session.toList.map .session ++ options.words.map .word

/-- Options as arguments. -/
def Options.arguments (options : Options) : List String :=
  options.items.flatMap Item.arguments

/-- Options that are written as items come to themselves. -/
theorem ofItems_items (options : Options) : Options.ofItems options.items = options := by
  obtain ⟨config, baseUrl, session, words⟩ := options
  rw [eq_comm, options_eq_ofItems_iff]
  constructor
  · intro flag
    have hwords : (words.map Item.word).filterMap (Item.value? flag) = [] := by
      rw [List.filterMap_map, List.filterMap_eq_nil_iff]
      exact fun word _ => rfl
    simp only [Options.items, List.filterMap_append, hwords]
    cases flag <;> cases config <;> cases baseUrl <;> cases session <;> rfl
  · have hwords : (words.map Item.word).filterMap Item.word? = words := by
      rw [List.filterMap_map]
      exact List.filterMap_some
    simp only [Options.items, List.filterMap_append, hwords]
    cases config <;> cases baseUrl <;> cases session <;> rfl

/-- Flags can always be written down; the words have to be plain. -/
theorem isWritable_items_iff (options : Options) :
    (∀ item ∈ options.items, item.isWritable = true) ↔
      ∀ word ∈ options.words, isFlagLike word = false := by
  simp only [Options.items, List.forall_mem_append, List.forall_mem_map, Item.isWritable,
    implies_true, true_and, Bool.not_eq_eq_eq_not, Bool.not_true]

/-- The words that items come to are plain. -/
theorem isFlagLike_of_mem_words {written : List Item}
    (h : ∀ item ∈ written, item.isWritable = true) {word : String}
    (hword : word ∈ (Options.ofItems written).words) : isFlagLike word = false := by
  rw [ofItems_words] at hword
  obtain ⟨item, hitem, hsame⟩ := List.mem_filterMap.mp hword
  have hwritable := h item hitem
  cases item with
  | word text =>
      cases hsame
      simpa [Item.isWritable] using hwritable
  | config | baseUrl | session => cases hsame

/-! ## The grammar -/

/-- The arguments are options if they are items. -/
theorem parse_eq_ok_iff {arguments : List String} {options : Options} :
    Options.parse arguments = .ok options ↔
      ∃ written : List Item, (∀ item ∈ written, item.isWritable = true) ∧
        arguments = written.flatMap Item.arguments ∧ options = Options.ofItems written := by
  rw [Options.parse]
  constructor
  · intro h
    cases hitems : items arguments with
    | error _ =>
        rw [hitems] at h
        cases h
    | ok written =>
        rw [hitems] at h
        cases h
        obtain ⟨hwritable, hsplit⟩ := items_eq_ok_iff.mp hitems
        exact ⟨written, hwritable, hsplit, rfl⟩
  · rintro ⟨written, hwritable, hsplit, rfl⟩
    rw [items_eq_ok_iff.mpr ⟨hwritable, hsplit⟩]
    rfl

/-- Arguments are refused exactly if there is an offender among them. -/
theorem parse_eq_error_iff {arguments : List String} {error : UsageError} :
    Options.parse arguments = .error error ↔ items arguments = .error error := by
  rw [Options.parse]
  cases items arguments <;> simp [Except.map]

/-- **The grammar of options.**  Arguments are options exactly if they are items written one
after the other; then the value of a flag is the last one that is given, if any, and the words
are the plain ones in their order.  Otherwise the first offender is named: a flag at the end,
or what looks like a flag and is none.  Items that come to the same values for each flag and
to the same words are the same options, wherever the flags stand among the words, and options
are read back from how they are spelled exactly if no word of theirs looks like a flag. -/
theorem parse_grammar :
    (∀ arguments options, Options.parse arguments = .ok options ↔
      ∃ written : List Item, (∀ item ∈ written, item.isWritable = true) ∧
        arguments = written.flatMap Item.arguments ∧
        (∀ flag, options.value? flag = (written.filterMap (Item.value? flag)).getLast?) ∧
        options.words = written.filterMap Item.word?) ∧
    (∀ arguments error, Options.parse arguments = .error error ↔
      ∃ (written : List Item) (offender : String) (rest : List String),
        (∀ item ∈ written, item.isWritable = true) ∧
          arguments = written.flatMap Item.arguments ++ offender :: rest ∧
          Offends offender rest error ∧
          ∃ before behind, error.message = before ++ offender ++ behind) ∧
    (∀ first second : List Item, (∀ item ∈ first, item.isWritable = true) →
      (∀ item ∈ second, item.isWritable = true) →
      (∀ flag, first.filterMap (Item.value? flag) = second.filterMap (Item.value? flag)) →
      first.filterMap Item.word? = second.filterMap Item.word? →
      Options.parse (first.flatMap Item.arguments) =
        Options.parse (second.flatMap Item.arguments)) ∧
    ∀ options : Options, Options.parse options.arguments = .ok options ↔
      ∀ word ∈ options.words, isFlagLike word = false := by
  refine ⟨?_, ?_, ?_, ?_⟩
  · intro arguments options
    simp only [parse_eq_ok_iff, options_eq_ofItems_iff]
  · intro arguments error
    rw [parse_eq_error_iff, items_eq_error_iff]
    constructor
    · rintro ⟨written, offender, rest, hwritable, hsplit, hoffends⟩
      exact ⟨written, offender, rest, hwritable, hsplit, hoffends, hoffends.named⟩
    · rintro ⟨written, offender, rest, hwritable, hsplit, hoffends, _⟩
      exact ⟨written, offender, rest, hwritable, hsplit, hoffends⟩
  · intro first second hfirst hsecond hvalue hwords
    rw [parse_eq_ok_iff.mpr ⟨first, hfirst, rfl, rfl⟩,
      parse_eq_ok_iff.mpr ⟨second, hsecond, rfl, rfl⟩, ofItems_congr hvalue hwords]
  · intro options
    constructor
    · intro hparse word hword
      obtain ⟨written, hwritable, _, rfl⟩ := parse_eq_ok_iff.mp hparse
      exact isFlagLike_of_mem_words hwritable hword
    · intro hplain
      exact parse_eq_ok_iff.mpr ⟨options.items, (isWritable_items_iff options).mpr hplain, rfl,
        (ofItems_items options).symm⟩

/-- A value that looks like a flag, a session that is given twice, and words around both. -/
theorem parse_grammar_flags_moved :
    Options.parse ["my", "--session", "--config", "sheet", "--session", "tok"] =
        Options.parse ["--session", "--config", "--session", "tok", "my", "sheet"] ∧
      Options.parse ["my", "--session", "--config", "sheet", "--session", "tok"] =
        .ok { session := some "tok", words := ["my", "sheet"] } := by
  have hmoved := parse_grammar.2.2.1
    [.word "my", .session "--config", .word "sheet", .session "tok"]
    [.session "--config", .session "tok", .word "my", .word "sheet"]
    (by decide) (by decide) (fun flag => by cases flag <;> rfl) rfl
  refine ⟨hmoved, ?_⟩
  rw [parse_grammar.1]
  refine ⟨[.word "my", .session "--config", .word "sheet", .session "tok"], by decide, rfl, ?_, rfl⟩
  intro flag
  cases flag <;> rfl

end WorksheetBar.Command
