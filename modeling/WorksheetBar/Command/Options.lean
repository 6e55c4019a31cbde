import WorksheetBar.Text.CodePoints

/-!
# The options of a command

The arguments behind the name of a command are flags with a value each, and plain
words.  A flag may be given again, and then its last value counts; where it stands
among the words makes no difference.  The value of a flag can be anything, even
something that looks like a flag.

* `items_arguments` — items written down one after the other are read back;
* `ofItems_words` — the words of the options are the plain words in their order.
-/

namespace WorksheetBar.Command

/-- What the arguments of a command come to. -/
structure Options where
  config : Option String := none
  baseUrl : Option String := none
  session : Option String := none
  words : List String := []
  deriving DecidableEq, Repr

/-- A flag with its value, or a plain word. -/
inductive Item where
  | config (path : String)
  | baseUrl (url : String)
  | session (token : String)
  | word (text : String)
  deriving DecidableEq, Repr

/-- Why arguments are not options. -/
inductive UsageError where
  | needsPath
  | needsUrl
  | needsToken
  | unsupported (argument : String)
  deriving DecidableEq, Repr

/-- The wording of a usage error. -/
def UsageError.message : UsageError → String
  | needsPath => "--config requires a path"
  | needsUrl => "--base-url requires a URL"
  | needsToken => "--session requires a token"
  | unsupported argument => "unsupported argument: " ++ argument

/-- The flags. -/
inductive Flag where
  | config
  | baseUrl
  | session
  deriving DecidableEq, Repr

namespace Flag

/-- How a flag is written. -/
def text : Flag → String
  | config => "--config"
  | baseUrl => "--base-url"
  | session => "--session"

/-- The flag that is written so. -/
def ofText? (argument : String) : Option Flag :=
  [config, baseUrl, session].find? fun flag => flag.text == argument

/-- A flag with its value. -/
def item : Flag → String → Item
  | config => .config
  | baseUrl => .baseUrl
  | session => .session

/-- What is said of a flag without a value. -/
def missing : Flag → UsageError
  | config => .needsPath
  | baseUrl => .needsUrl
  | session => .needsToken

theorem ofText?_text (flag : Flag) : ofText? flag.text = some flag := by
  cases flag <;> decide

end Flag

/-- Whether an argument looks like a flag. -/
def isFlagLike (argument : String) : Bool := ['-', '-'].isPrefixOf argument.toList

/-- Splits arguments into items, from left to right. -/
def items : List String → Except UsageError (List Item)
  | [] => .ok []
  | [argument] =>
    match Flag.ofText? argument with
    | some flag => .error flag.missing
    | none =>
      if isFlagLike argument then .error (.unsupported argument) else .ok [.word argument]
  | argument :: value :: rest =>
    match Flag.ofText? argument with
    | some flag => (items rest).map (flag.item value :: ·)
    | none =>
      if isFlagLike argument then .error (.unsupported argument)
      else (items (value :: rest)).map (.word argument :: ·)

/-- The arguments that make an item. -/
def Item.arguments : Item → List String
  | config path => ["--config", path]
  | baseUrl url => ["--base-url", url]
  | session token => ["--session", token]
  | word text => [text]

namespace Options

/-- Takes in an item. -/
def take (options : Options) : Item → Options
  | .config path => { options with config := some path }
  | .baseUrl url => { options with baseUrl := some url }
  | .session token => { options with session := some token }
  | .word text => { options with words := options.words ++ [text] }

/-- The options that items make. -/
def ofItems (items : List Item) : Options := items.foldl take {}

/-- The options that arguments make. -/
def parse (arguments : List String) : Except UsageError Options :=
  (items arguments).map ofItems

/-- The session to use: the one that was given, or else the one that is around.  A
blank one is none. -/
def token? (options : Options) (around : Option String) : Option String :=
  (options.session.or around).filter fun token => !Text.isBlank token

end Options

/-- Whether an item is written so that it is read back: a word must not look like a
flag. -/
def Item.isWritable : Item → Bool
  | config _ | baseUrl _ | session _ => true
  | word text => !isFlagLike text

/-- What does not look like a flag is none. -/
theorem ofText?_of_not_isFlagLike {argument : String} (h : isFlagLike argument = false) :
    Flag.ofText? argument = none := by
  unfold Flag.ofText?
  rw [List.find?_eq_none]
  intro flag _ same
  have written : flag.text = argument := by simpa using same
  subst written
  cases flag <;> exact absurd h (by decide)

/-- A word is an item by itself. -/
theorem items_word {text : String} (h : isFlagLike text = false) (rest : List String) :
    items (text :: rest) = (items rest).map (Item.word text :: ·) := by
  have noFlag := ofText?_of_not_isFlagLike h
  cases rest with
  | nil => simp [items, noFlag, h, Except.map]
  | cons value rest => simp [items, noFlag, h]

/-- A flag is an item with the argument behind it. -/
theorem items_flag (flag : Flag) (value : String) (rest : List String) :
    items (flag.text :: value :: rest) = (items rest).map (flag.item value :: ·) := by
  simp [items, Flag.ofText?_text]

/-- **Items that are written as arguments are read back.** -/
theorem items_arguments {written : List Item} (h : ∀ item ∈ written, item.isWritable = true) :
    items (written.flatMap Item.arguments) = .ok written := by
  induction written with
  | nil => rfl
  | cons item rest ih =>
      have others := ih fun other member => h other (by simp [member])
      have writable := h item (by simp)
      cases item with
      | config path =>
          have := items_flag .config path (rest.flatMap Item.arguments)
          simpa [Item.arguments, Flag.text, others, Except.map, Flag.item] using this
      | baseUrl url =>
          have := items_flag .baseUrl url (rest.flatMap Item.arguments)
          simpa [Item.arguments, Flag.text, others, Except.map, Flag.item] using this
      | session token =>
          have := items_flag .session token (rest.flatMap Item.arguments)
          simpa [Item.arguments, Flag.text, others, Except.map, Flag.item] using this
      | word text =>
          have plain : isFlagLike text = false := by simpa [Item.isWritable] using writable
          have := items_word plain (rest.flatMap Item.arguments)
          simpa [Item.arguments, others, Except.map] using this

/-- The text of a plain word. -/
def Item.word? : Item → Option String
  | word text => some text
  | config _ | baseUrl _ | session _ => none

/-- Items give their words to the options, in order. -/
theorem foldl_take_words (options : Options) (items : List Item) :
    (items.foldl Options.take options).words = options.words ++ items.filterMap Item.word? := by
  induction items generalizing options with
  | nil => simp
  | cons item rest ih =>
      rw [List.foldl_cons, ih]
      cases item <;> simp [Options.take, Item.word?, List.filterMap_cons]

/-- The words of the options are those of the items. -/
theorem ofItems_words (items : List Item) :
    (Options.ofItems items).words = items.filterMap Item.word? := by
  simpa [Options.ofItems] using foldl_take_words {} items

end WorksheetBar.Command
