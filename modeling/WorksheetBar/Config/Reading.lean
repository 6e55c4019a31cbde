import WorksheetBar.Config
import WorksheetBar.Text.Quoted
import WorksheetBar.Toml.Basic

/-!
# The configuration in a document

A configuration is read off a table entry by entry, in the order of the document.  An
entry replaces a default; an entry nobody knows is passed over; the first entry that
does not fit is the fault of the whole document.

A section may also be an array, whose values are its fields in their order, and a
theme may be a table whose only entry names it.
-/

namespace WorksheetBar.Config

open Toml (Item Key Table)

/-- Why a document is not a configuration. -/
inductive Cause where
  | wrongType (found expected : String)
  | unknownTheme (name : String)
  | themeNotNamed
  | noTheme
  | manyThemes
  | themeNotEmptyTable
  | themeNotEmptyArray
  | themeNotTable (found : String)
  deriving DecidableEq, Repr

/-- The wording of a cause. -/
def Cause.message : Cause → String
  | wrongType found expected => "invalid type: " ++ found ++ ", expected " ++ expected
  | unknownTheme name =>
    "unknown variant \x60" ++ name ++ "\x60, expected one of " ++
      String.intercalate ", " (Theme.all.map fun theme => "\x60" ++ theme.label ++ "\x60")
  | themeNotNamed => "wanted string or table"
  | noTheme => "wanted exactly 1 element, found 0 elements"
  | manyThemes => "wanted exactly 1 element, more than 1 element"
  | themeNotEmptyTable => "expected empty table"
  | themeNotEmptyArray => "expected empty array"
  | themeNotTable found => "expected table, found " ++ found

/-- A cause, and how many characters stand before the place that is at fault. -/
structure Fault where
  cause : Cause
  offset : Nat
  deriving DecidableEq, Repr

/-- What an item is called where it was not expected. -/
def describe : Item → String
  | .string _ value => "string " ++ Text.quoted value
  | .integer _ value => "integer \x60" ++ toString value ++ "\x60"
  | .float _ value => "floating point \x60" ++ value.text ++ "\x60"
  | .boolean _ value => "boolean \x60" ++ toString value ++ "\x60"
  | .datetime _ => "map"
  | .array _ _ | .tables _ _ => "sequence"
  | .table _ _ _ => "map"

/-- The kind of an item. -/
def kind : Item → String
  | .string _ _ => "string"
  | .integer _ _ => "integer"
  | .float _ _ => "float"
  | .boolean _ _ => "boolean"
  | .datetime _ => "datetime"
  | .array _ _ => "array"
  | .tables _ _ => "array of tables"
  | .table _ _ _ => "table"

/-- The text an item holds.  `near` is the place to name if the item has none. -/
def textOf (near : Nat) : Item → Except Fault String
  | .string _ value => .ok value
  | item => .error ⟨.wrongType (describe item) "a string", item.start?.getD near⟩

/-! ## Themes -/

/-- The theme of the given name. -/
def themeNamed (name : String) (offset : Nat) : Except Fault Theme :=
  match Theme.ofLabel? name with
  | some theme => .ok theme
  | none => .error ⟨.unknownTheme name, offset⟩

/-- What is wrong with the entry of a theme: it has to be empty. -/
def themeExcess? : Item → Option Cause
  | .table _ _ [] | .array _ [] | .tables _ [] => none
  | .table _ _ (_ :: _) | .array _ (_ :: _) => some .themeNotEmptyTable
  | .tables _ (_ :: _) => some .themeNotEmptyArray
  | item => some (.themeNotTable (kind item))

/-- The theme an item names. -/
def themeOf (near : Nat) (item : Item) : Except Fault Theme :=
  let offset := item.start?.getD near
  match item with
  | .string _ name => themeNamed name offset
  | .table _ _ [] => .error ⟨.noTheme, offset⟩
  | .table _ _ [(key, value)] =>
    match themeNamed key.name key.start with
    | .error fault => .error fault
    | .ok theme =>
      match themeExcess? value with
      | none => .ok theme
      | some cause => .error ⟨cause, value.start?.getD offset⟩
  | .table _ _ (_ :: _ :: _) => .error ⟨.manyThemes, offset⟩
  | _ => .error ⟨.themeNotNamed, offset⟩

/-! ## Sections -/

/-- A field of a section: its name, and how it is set. -/
structure Field (α : Type) where
  name : String
  set : α → String → α

/-- The fields of the service, in their order. -/
def serviceFields : List (Field Service) := [
  ⟨"base_url", fun service value => { service with baseUrl := value }⟩,
  ⟨"user_path", fun service value => { service with userPath := value }⟩,
  ⟨"command_path", fun service value => { service with commandPath := value }⟩,
  ⟨"session_cookie", fun service value => { service with sessionCookie := value }⟩]

/-- The links, in their order. -/
def linkFields : List (Field Links) := [
  ⟨"dashboard", fun links value => { links with dashboard := value }⟩,
  ⟨"gallery", fun links value => { links with gallery := value }⟩,
  ⟨"how_to", fun links value => { links with howTo := value }⟩,
  ⟨"contact", fun links value => { links with contact := value }⟩,
  ⟨"sign_up", fun links value => { links with signUp := value }⟩,
  ⟨"login", fun links value => { links with login := value }⟩,
  ⟨"account_profile", fun links value => { links with accountProfile := value }⟩]

/-- Sets fields by name. -/
def setNamed (fields : List (Field α)) (part : α) : Table → Except Fault α
  | [] => .ok part
  | (key, item) :: rest =>
    match fields.find? fun field => field.name == key.name with
    | none => setNamed fields part rest
    | some field =>
      match textOf key.start item with
      | .error fault => .error fault
      | .ok value => setNamed fields (field.set part value) rest

/-- Sets fields by their places. -/
def setInOrder (near : Nat) : List (Field α) → α → List Item → Except Fault α
  | [], part, _ => .ok part
  | _, part, [] => .ok part
  | field :: fields, part, item :: rest =>
    match textOf near item with
    | .error fault => .error fault
    | .ok value => setInOrder near fields (field.set part value) rest

/-- A section from an item. -/
def sectionOf (fields : List (Field α)) (expected : String) (part : α) (near : Nat)
    (item : Item) : Except Fault α :=
  let offset := item.start?.getD near
  match item with
  | .table _ _ entries => setNamed fields part entries
  | .array _ items | .tables _ items => setInOrder offset fields part items
  | .datetime _ => .ok part
  | .string _ _ | .integer _ _ | .float _ _ | .boolean _ _ =>
    .error ⟨.wrongType (describe item) expected, offset⟩

/-! ## The whole configuration -/

/-- Takes in an entry of the document. -/
def takeEntry (config : Config) (key : Key) (item : Item) : Except Fault Config :=
  if key.name = "theme" then
    (themeOf key.start item).map fun theme => { config with theme := theme }
  else if key.name = "api" then
    (sectionOf serviceFields "struct ApiConfig" config.service key.start item).map
      fun service => { config with service := service }
  else if key.name = "links" then
    (sectionOf linkFields "struct NavigationLinks" config.links key.start item).map
      fun links => { config with links := links }
  else .ok config

/-- Takes in entries in their order. -/
def takeEntries (config : Config) : Table → Except Fault Config
  | [] => .ok config
  | (key, item) :: rest =>
    match takeEntry config key item with
    | .error fault => .error fault
    | .ok config => takeEntries config rest

/-- The configuration in a table. -/
def ofTable (table : Table) : Except Fault Config := takeEntries {} table

end WorksheetBar.Config
