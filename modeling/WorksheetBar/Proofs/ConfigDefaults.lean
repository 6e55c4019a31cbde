import Mathlib.Data.Option.Basic
import Mathlib.Tactic.MkIffOfInductiveProp
import WorksheetBar.Command.Program
import WorksheetBar.Proofs.DistinctNames

/-!
# Defaults of a configuration

Every key of a configuration has its default for itself.  A key that is given replaces its own
default and no other; a key that is not known changes nothing; and a key that is given as
something else than a text is a mistake of the whole document, never a reason to fall back on the
default.  So all that counts of a document is what it gives for each known key.

* `setNamed_eq_ok_iff` — what a section comes to;
* `takeEntries_eq_ok_iff` — what a document comes to, part by part;
* `ofTable_eq_ok_iff` — which documents are configurations, and which configurations they are;
* `defaults_per_key` — the same of texts, files and commands.
-/

namespace WorksheetBar

namespace Toml

/-- The text that an item holds, if it holds one. -/
def Item.text? : Item → Option String
  | .string _ value => some value
  | _ => none

/-- The entries of an item, if it is a table. -/
def Item.entries? : Item → Option Table
  | .table _ _ entries => some entries
  | _ => none

namespace Table

/-- What a table gives for a name: nothing, or something, which may be a text. -/
def given (table : Table) (name : String) : Option (Option String) :=
  (table.get? name).map Item.text?

/-- The entries of the table under a name; without one there are none. -/
def inside (table : Table) (name : String) : Table :=
  ((table.get? name).bind Item.entries?).getD []

variable {key : Key} {item : Item} {rest table : Table} {name : String}

@[simp] theorem given_nil (name : String) : Table.given [] name = none := rfl

theorem given_cons (key : Key) (item : Item) (rest : Table) (name : String) :
    Table.given ((key, item) :: rest) name =
      if key.name = name then some item.text? else rest.given name := by
  rw [given, get?_cons]
  split <;> rfl

theorem inside_cons (key : Key) (item : Item) (rest : Table) (name : String) :
    Table.inside ((key, item) :: rest) name =
      if key.name = name then item.entries?.getD [] else rest.inside name := by
  rw [inside, get?_cons]
  split <;> rfl

/-- A name that is not there is given nothing. -/
theorem given_of_not_mem (habsent : name ∉ table.names) : table.given name = none := by
  rw [given, get?_eq_none_iff.mpr habsent]
  rfl

theorem inside_of_not_mem (habsent : name ∉ table.names) : table.inside name = [] := by
  rw [inside, get?_eq_none_iff.mpr habsent]
  rfl

/-- A table inside a table with different names has different names itself. -/
theorem Distinct.inside (h : table.Distinct) (name : String) : (table.inside name).Distinct := by
  rw [Table.inside]
  cases hfound : table.get? name with
  | none => exact distinct_nil
  | some item =>
      cases item with
      | table origin start entries => exact .ofItem (h.get? hfound)
      | string | integer | float | boolean | datetime | array | tables => exact distinct_nil

end Table

end Toml

open Toml (Item Key Table)

/-! ## The keys -/

/-- The keys of the service, and their values. -/
def Service.values (service : Service) : List (String × String) := [
  ("base_url", service.baseUrl),
  ("user_path", service.userPath),
  ("command_path", service.commandPath),
  ("session_cookie", service.sessionCookie)]

/-- The keys of the links, and their values. -/
def Links.values (links : Links) : List (String × String) := [
  ("dashboard", links.dashboard),
  ("gallery", links.gallery),
  ("how_to", links.howTo),
  ("contact", links.contact),
  ("sign_up", links.signUp),
  ("login", links.login),
  ("account_profile", links.accountProfile)]

theorem Service.values_injective : Function.Injective Service.values := by
  intro first second h
  cases first
  cases second
  simpa [Service.values] using h

theorem Links.values_injective : Function.Injective Links.values := by
  intro first second h
  cases first
  cases second
  simpa [Links.values] using h

namespace Theme

/-- A theme is found by its label, and by nothing else. -/
theorem ofLabel?_eq_some_iff {name : String} {theme : Theme} :
    ofLabel? name = some theme ↔ theme.label = name :=
  ⟨label_of_ofLabel?, fun h => h ▸ ofLabel?_label theme⟩

theorem label_injective : Function.Injective label := fun first second h =>
  Option.some_inj.mp (by rw [← ofLabel?_label, h, ofLabel?_label])

/-- A theme that may be chosen by its label. -/
theorem elim_ofLabel?_eq_some_iff {name : Option String} {old theme : Theme} :
    name.elim (some old) ofLabel? = some theme ↔ theme.label = name.getD old.label := by
  cases name with
  | none => simp [label_injective.eq_iff, eq_comm]
  | some name => exact ofLabel?_eq_some_iff

end Theme

/-! ## What is given for keys -/

section Given

variable {names : List String} {values : List (String × String)} {key : Key} {item : Item}
  {rest : Table} {value : String}

/-- None of the names is given anything but a text. -/
def GivesTexts (entries : Table) (names : List String) : Prop :=
  ∀ name ∈ names, entries.given name ≠ some none

/-- The values of keys, where those that are given replace the old ones. -/
def replaced (values : List (String × String)) (entries : Table) : List (String × String) :=
  values.map fun (name, old) => (name, (entries.given name).join.getD old)

/-- What stands under an unknown key need not be a text. -/
theorem givesTexts_cons_of_unknown (hunknown : key.name ∉ names) :
    GivesTexts ((key, item) :: rest) names ↔ GivesTexts rest names := by
  refine forall₂_congr fun name hname => ?_
  have hkey : key.name ≠ name := fun hkey => hunknown (hkey ▸ hname)
  rw [Table.given_cons, if_neg hkey]

/-- What stands under a known key has to be one. -/
theorem givesTexts_cons_of_known (hknown : key.name ∈ names) (hnew : key.name ∉ rest.names) :
    GivesTexts ((key, item) :: rest) names ↔ item.text? ≠ none ∧ GivesTexts rest names := by
  have hgone : rest.given key.name = none := Table.given_of_not_mem hnew
  constructor
  · intro hgives
    refine ⟨fun hnone => hgives key.name hknown ?_, fun name hname => ?_⟩
    · rw [Table.given_cons, if_pos rfl, hnone]
    · by_cases hkey : key.name = name
      · simp [← hkey, hgone]
      · simpa [Table.given_cons, hkey] using hgives name hname
  · rintro ⟨htext, hgives⟩ name hname
    by_cases hkey : key.name = name
    · simpa [Table.given_cons, hkey] using htext
    · simpa [Table.given_cons, hkey] using hgives name hname

theorem replaced_nil (values : List (String × String)) : replaced values [] = values :=
  List.map_id' values

/-- An unknown key replaces no value. -/
theorem replaced_cons_of_unknown (hunknown : key.name ∉ values.map Prod.fst) :
    replaced values ((key, item) :: rest) = replaced values rest := by
  refine List.map_congr_left fun (name, old) hmem => ?_
  have hkey : key.name ≠ name := fun hkey => hunknown (hkey ▸ List.mem_map_of_mem hmem)
  simp only [Table.given_cons, if_neg hkey]

/-- A key is given once, so it makes no difference whether it is set before the rest or along
with it. -/
theorem replaced_cons_of_text (htext : item.text? = some value) (hnew : key.name ∉ rest.names) :
    replaced values ((key, item) :: rest) =
      replaced (values.map fun (name, old) => (name, if name = key.name then value else old))
        rest := by
  rw [replaced, replaced, List.map_map]
  refine List.map_congr_left fun (name, old) _ => ?_
  simp only [Function.comp_apply, Table.given_cons]
  by_cases hkey : key.name = name
  · simp [← hkey, Table.given_of_not_mem hnew, htext]
  · simp [hkey, Ne.symm hkey]

end Given

namespace Config

/-! ## Sections -/

section Sections

variable {α : Type} {fields : List (Field α)} {values : α → List (String × String)}

/-- Fields are told apart by the keys of their values, and each is set by itself. -/
structure Spells (fields : List (Field α)) (values : α → List (String × String)) : Prop where
  names : ∀ part, (values part).map Prod.fst = fields.map Field.name
  set : ∀ field ∈ fields, ∀ part value, values (field.set part value) =
    (values part).map fun (name, old) => (name, if name = field.name then value else old)
  injective : Function.Injective values

/-- The fields of the service set the values of its keys. -/
theorem serviceFields_spells : Spells serviceFields Service.values where
  names _ := rfl
  set := by simp [serviceFields, Service.values]
  injective := Service.values_injective

/-- The fields of the links set the values of theirs. -/
theorem linkFields_spells : Spells linkFields Links.values where
  names _ := rfl
  set := by simp [linkFields, Links.values]
  injective := Links.values_injective

/-- A text is taken from an item that holds one, and from no other. -/
theorem textOf_eq_ok_iff {near : Nat} {item : Item} {value : String} :
    textOf near item = .ok value ↔ item.text? = some value := by
  cases item <;> simp [textOf, Item.text?]

/-- **What a section comes to**: every key that is known and given holds a text, which takes the
place of the old one. -/
theorem setNamed_eq_ok_iff (hspells : Spells fields values) {entries : Table}
    (hnames : entries.names.Nodup) {part result : α} :
    setNamed fields part entries = .ok result ↔
      GivesTexts entries (fields.map Field.name) ∧
        values result = replaced (values part) entries := by
  induction entries generalizing part with
  | nil =>
      have hgives : GivesTexts [] (fields.map Field.name) := fun _ _ => by simp
      rw [setNamed, replaced_nil, hspells.injective.eq_iff, and_iff_right hgives, Except.ok.injEq,
        eq_comm]
  | cons entry rest ih =>
      obtain ⟨key, item⟩ := entry
      obtain ⟨hnew, hrest⟩ := Table.nodup_names_cons.mp hnames
      rw [setNamed]
      split
      · next hnone =>
          have hunknown : key.name ∉ fields.map Field.name := by
            simpa using hnone
          rw [ih hrest, givesTexts_cons_of_unknown hunknown,
            replaced_cons_of_unknown (hspells.names part ▸ hunknown)]
      · next field hfound =>
          have hfield : field ∈ fields := List.mem_of_find?_eq_some hfound
          have hname : field.name = key.name := by simpa using List.find?_some hfound
          have hknown : key.name ∈ fields.map Field.name := hname ▸ List.mem_map_of_mem hfield
          rw [givesTexts_cons_of_known hknown hnew]
          split
          · next fault hfault =>
              refine iff_of_false (by simp) fun ⟨⟨htext, _⟩, _⟩ => ?_
              obtain ⟨value, hvalue⟩ := Option.ne_none_iff_exists'.mp htext
              rw [textOf_eq_ok_iff.mpr hvalue] at hfault
              cases hfault
          · next value hvalue =>
              have htext : item.text? = some value := textOf_eq_ok_iff.mp hvalue
              rw [ih hrest, hspells.set field hfield, hname, replaced_cons_of_text htext hnew]
              simp [htext]

end Sections

/-! ## The whole document -/

/-- The kinds of items that a document may give: a text for the theme, and tables for the
sections. -/
structure HasForm (table : Table) : Prop where
  theme : table.given "theme" ≠ some none
  sections : ∀ name ∈ ["api", "links"], ∀ item, table.get? name = some item →
    ∃ origin start entries, item = .table origin start entries

/-- What a document gives is all right: the theme is known, and every known key of a section holds
a text. -/
@[mk_iff fits_iff]
structure Fits (table : Table) : Prop where
  theme : ∀ name, table.given "theme" = some (some name) → name ∈ Theme.all.map Theme.label
  service : GivesTexts (table.inside "api") ((Service.values {}).map Prod.fst)
  links : GivesTexts (table.inside "links") ((Links.values {}).map Prod.fst)

/-- The configuration that a document gives: what is given, and the defaults of all else. -/
@[mk_iff isGiven_iff]
structure IsGiven (table : Table) (config : Config) : Prop where
  theme : config.theme.label = (table.given "theme").join.getD ({} : Config).theme.label
  service : config.service.values = replaced (Service.values {}) (table.inside "api")
  links : config.links.values = replaced (Links.values {}) (table.inside "links")

variable {table : Table} {key : Key} {item : Item}

theorem HasForm.of_cons (hform : HasForm ((key, item) :: table))
    (hnew : key.name ∉ table.names) : HasForm table := by
  constructor
  · by_cases hkey : key.name = "theme"
    · rw [Table.given_of_not_mem (hkey ▸ hnew)]
      simp
    · simpa [Table.given_cons, hkey] using hform.theme
  · intro name hname other hfound
    by_cases hkey : key.name = name
    · rw [Table.get?_eq_none_iff.mpr (hkey ▸ hnew)] at hfound
      cases hfound
    · refine hform.sections name hname other ?_
      rwa [Table.get?_cons, if_neg hkey]

/-- Under the key of the theme there is a string. -/
theorem HasForm.text_of_theme (hform : HasForm ((key, item) :: table))
    (hkey : key.name = "theme") : ∃ origin name, item = .string origin name := by
  have htext := hform.theme
  rw [Table.given_cons, if_pos hkey] at htext
  cases item with
  | string origin name => exact ⟨origin, name, rfl⟩
  | integer | float | boolean | datetime | array | table | tables => exact absurd rfl htext

/-- Under the key of a section there is a table. -/
theorem HasForm.table_of_section (hform : HasForm ((key, item) :: table))
    (hkey : key.name ∈ ["api", "links"]) :
    ∃ origin start entries, item = .table origin start entries :=
  hform.sections key.name hkey item (by rw [Table.get?_cons, if_pos rfl])

/-- A theme is read from its label; any other name is an error. -/
theorem themeNamed_eq_ok_iff {name : String} {offset : Nat} {theme : Theme} :
    themeNamed name offset = .ok theme ↔ Theme.ofLabel? name = some theme := by
  rw [themeNamed]
  split
  · next hfound => simp [hfound]
  · next hfound => simp [hfound]

/-- An entry is taken in if its part of the configuration can be read off it. -/
theorem takeEntry_eq_ok_iff {config next : Config} :
    takeEntry config key item = .ok next ↔
      if key.name = "theme" then
        ∃ theme, themeOf key.start item = .ok theme ∧ { config with theme } = next
      else if key.name = "api" then
        ∃ service, sectionOf serviceFields "struct ApiConfig" config.service key.start item =
          .ok service ∧ { config with service } = next
      else if key.name = "links" then
        ∃ links, sectionOf linkFields "struct NavigationLinks" config.links key.start item =
          .ok links ∧ { config with links } = next
      else config = next := by
  rw [takeEntry]
  split
  · cases themeOf key.start item <;> simp [Except.map]
  split
  · cases sectionOf serviceFields "struct ApiConfig" config.service key.start item <;>
      simp [Except.map]
  split
  · cases sectionOf linkFields "struct NavigationLinks" config.links key.start item <;>
      simp [Except.map]
  · rw [Except.ok.injEq]

/-- The entries of a table are taken one after another. -/
theorem takeEntries_cons_eq_ok_iff {config result : Config} :
    takeEntries config ((key, item) :: table) = .ok result ↔
      ∃ next, takeEntry config key item = .ok next ∧ takeEntries next table = .ok result := by
  rw [takeEntries]
  split
  · next hfault => simp [hfault]
  · next hnext => simp [hnext]

/-- **What a document comes to**, part by part: each is read off its own item. -/
theorem takeEntries_eq_ok_iff (hnames : table.names.Nodup) (hform : HasForm table)
    {config result : Config} :
    takeEntries config table = .ok result ↔
      (table.given "theme").join.elim (some config.theme) Theme.ofLabel? = some result.theme ∧
      setNamed serviceFields config.service (table.inside "api") = .ok result.service ∧
      setNamed linkFields config.links (table.inside "links") = .ok result.links := by
  induction table generalizing config with
  | nil =>
      obtain ⟨theme, service, links⟩ := config
      obtain ⟨theme', service', links'⟩ := result
      have hinside (name : String) : Table.inside [] name = [] := rfl
      simp [takeEntries, hinside, setNamed]
  | cons entry rest ih =>
      obtain ⟨key, item⟩ := entry
      obtain ⟨hnew, hrest⟩ := Table.nodup_names_cons.mp hnames
      have ih {config : Config} := @ih hrest (hform.of_cons hnew) config
      rw [takeEntries_cons_eq_ok_iff]
      simp only [ih, takeEntry_eq_ok_iff, Table.given_cons, Table.inside_cons]
      -- the name of the entry does not come again, so the rest leaves alone what it sets
      by_cases htheme : key.name = "theme"
      · have hgone : Table.given rest "theme" = none := Table.given_of_not_mem (htheme ▸ hnew)
        obtain ⟨origin, name, rfl⟩ := hform.text_of_theme htheme
        simp [htheme, hgone, themeOf, themeNamed_eq_ok_iff, Item.text?]
      by_cases hapi : key.name = "api"
      · have hgone : Table.inside rest "api" = [] := Table.inside_of_not_mem (hapi ▸ hnew)
        obtain ⟨origin, start, entries, rfl⟩ := hform.table_of_section (by simp [hapi])
        simpa [hapi, hgone, sectionOf, setNamed, Item.entries?]
          using and_left_comm
      by_cases hlinks : key.name = "links"
      · have hgone : Table.inside rest "links" = [] := Table.inside_of_not_mem (hlinks ▸ hnew)
        obtain ⟨origin, start, entries, rfl⟩ := hform.table_of_section (by simp [hlinks])
        simpa [hlinks, hgone, sectionOf, setNamed, Item.entries?]
          using and_rotate
      simp [htheme, hapi, hlinks]

/-- **Which documents are configurations, and which configurations they are.** -/
theorem ofTable_eq_ok_iff (hdistinct : table.Distinct) (hform : HasForm table)
    {config : Config} : ofTable table = .ok config ↔ Fits table ∧ IsGiven table config := by
  rw [ofTable, takeEntries_eq_ok_iff hdistinct.names_nodup hform,
    Theme.elim_ofLabel?_eq_some_iff,
    setNamed_eq_ok_iff serviceFields_spells (hdistinct.inside "api").names_nodup,
    setNamed_eq_ok_iff linkFields_spells (hdistinct.inside "links").names_nodup]
  constructor
  · rintro ⟨htheme, ⟨hservice, hservice'⟩, hlinks, hlinks'⟩
    refine ⟨⟨fun name hname => ?_, hservice, hlinks⟩, htheme, hservice', hlinks'⟩
    have hlabel : config.theme.label = name := by simpa [hname] using htheme
    exact hlabel ▸ List.mem_map_of_mem (Theme.mem_all _)
  · rintro ⟨hfits, hgiven⟩
    exact ⟨hgiven.theme, ⟨hfits.service, hgiven.service⟩, hfits.links, hgiven.links⟩

/-- If all is right with what a document gives, then it gives a configuration. -/
theorem Fits.exists_isGiven (hfits : Fits table) : ∃ config, IsGiven table config := by
  obtain ⟨theme, htheme⟩ : ∃ theme : Theme,
      theme.label = (table.given "theme").join.getD ({} : Config).theme.label := by
    cases hgiven : (table.given "theme").join with
    | none => exact ⟨({} : Config).theme, rfl⟩
    | some name =>
        obtain ⟨theme, _, hlabel⟩ :=
          List.mem_map.mp (hfits.theme name (Option.join_eq_some_iff.mp hgiven))
        exact ⟨theme, hlabel⟩
  exact ⟨{ theme := theme, service := ⟨_, _, _, _⟩, links := ⟨_, _, _, _, _, _, _⟩ },
    htheme, rfl, rfl⟩

/-- A table becomes a configuration exactly if it fits. -/
theorem ofTable_succeeds_iff (hdistinct : table.Distinct) (hform : HasForm table) :
    (∃ config, ofTable table = .ok config) ↔ Fits table := by
  simp only [ofTable_eq_ok_iff hdistinct hform]
  exact ⟨fun ⟨_, hfits, _⟩ => hfits, fun hfits => hfits.exists_isGiven.imp fun _ => .intro hfits⟩

/-! ## What counts of a document -/

/-- Documents that give the same for every key that is known.  They may differ in the order of
their keys, in keys that are not known, and in the places at which all of them stand. -/
structure GivesAlike (first second : Table) : Prop where
  theme : first.given "theme" = second.given "theme"
  service : ∀ name ∈ (Service.values {}).map Prod.fst,
    (first.inside "api").given name = (second.inside "api").given name
  links : ∀ name ∈ (Links.values {}).map Prod.fst,
    (first.inside "links").given name = (second.inside "links").given name

/-- Only what is given for the names themselves counts, wherever it stands in the table. -/
theorem givesTexts_congr {names : List String} {first second : Table}
    (h : ∀ name ∈ names, first.given name = second.given name) :
    GivesTexts first names ↔ GivesTexts second names :=
  forall₂_congr fun name hname => by rw [h name hname]

/-- Where two tables give the same for the known names, they replace the values by the same. -/
theorem replaced_congr {values : List (String × String)} {first second : Table}
    (h : ∀ name ∈ values.map Prod.fst, first.given name = second.given name) :
    replaced values first = replaced values second :=
  List.map_congr_left fun (name, old) hmem => by
    simp only [h name (List.mem_map_of_mem (f := Prod.fst) hmem)]

/-- **Only what is given for the known keys counts.** -/
theorem GivesAlike.ofTable_eq_ok_iff {first second : Table} (halike : GivesAlike first second)
    (hfirst : first.Distinct ∧ HasForm first) (hsecond : second.Distinct ∧ HasForm second)
    {config : Config} : ofTable first = .ok config ↔ ofTable second = .ok config := by
  rw [Config.ofTable_eq_ok_iff hfirst.1 hfirst.2, Config.ofTable_eq_ok_iff hsecond.1 hsecond.2]
  refine and_congr ?_ ?_
  · simp only [fits_iff, halike.theme, givesTexts_congr halike.service,
      givesTexts_congr halike.links]
  · simp only [isGiven_iff, halike.theme, replaced_congr halike.service,
      replaced_congr halike.links]

/-! ## Texts, files and commands -/

/-- A text is a configuration if it is a document, and the document is one. -/
theorem ofText_eq_ok_iff {text : String} {config : Config} :
    ofText text = .ok config ↔
      ∃ table, Toml.parse text = .ok table ∧ ofTable table = .ok config := by
  rw [ofText]
  cases Toml.parse text with
  | error offset => simp
  | ok table => cases hread : ofTable table <;> simp [hread]

/-- A file has a text if it can be read and its bytes are UTF-8. -/
theorem File.text_eq_ok_iff {file : File} {text : String} :
    file.text = .ok text ↔
      ∃ bytes, file = .holding bytes ∧ Text.Utf8.decode? bytes = some text := by
  cases file with
  | missing | directory | denied | failing _ => simp [File.text]
  | holding bytes => cases hdecode : Text.Utf8.decode? bytes <;> simp [File.text, hdecode]

/-- A file is a configuration if it holds a text, and the text is one. -/
theorem load_eq_ok_iff {path : String} {file : File} {config : Config} :
    load path file = .ok config ↔ ∃ bytes text, file = .holding bytes ∧
      Text.Utf8.decode? bytes = some text ∧ ofText text = .ok config := by
  have hload : load path file = .ok config ↔
      ∃ text, file.text = .ok text ∧ ofText text = .ok config := by
    rw [load]
    cases file.text with
    | error error => simp
    | ok text => cases hread : ofText text <;> simp [hread]
  rw [hload, exists_comm]
  simp only [File.text_eq_ok_iff, ← and_assoc, exists_and_right]

end Config

namespace Command

/-- The configuration that a command finds: in the file that is named, or else in the one that
the user may have. -/
def Setting.found (setting : Setting) (named : Option String) : Except Config.LoadError Config :=
  match named, setting.configHome with
  | some path, _ => Config.load path (setting.files path)
  | none, some home => Config.loadOrDefault (homeFile home) (setting.files (homeFile home))
  | none, none => .ok {}

/-- A configuration where another address of the service may be given. -/
def rebased (config : Config) (baseUrl : Option String) : Config :=
  { config with service := { config.service with
      baseUrl := baseUrl.getD config.service.baseUrl } }

/-- **No key changes but the base address.** -/
theorem rebased_eq_iff {found config : Config} {baseUrl : Option String} :
    rebased found baseUrl = config ↔
      config.theme = found.theme ∧ config.links = found.links ∧
        config.service.values = found.service.values.map fun (name, value) =>
          (name, if name = "base_url" then baseUrl.getD value else value) := by
  have hservice : (rebased found baseUrl).service.values =
      found.service.values.map fun (name, value) =>
        (name, if name = "base_url" then baseUrl.getD value else value) := rfl
  constructor
  · rintro rfl
    exact ⟨rfl, rfl, hservice⟩
  · rintro ⟨htheme, hlinks, hvalues⟩
    have hsame : config.service = (rebased found baseUrl).service :=
      Service.values_injective (hvalues.trans hservice.symm)
    obtain ⟨theme, service, links⟩ := config
    cases htheme
    cases hlinks
    cases hsame
    rfl

/-- A command has a configuration if it finds one. -/
theorem configOf_eq_ok_iff {setting : Setting} {options : Options} {config : Config} :
    configOf setting options = .ok config ↔
      ∃ found, setting.found options.config = .ok found ∧
        rebased found options.baseUrl = config := by
  change (setting.found options.config).map (rebased · options.baseUrl) = _ ↔ _
  cases setting.found options.config <;> simp [Except.map]

/-- Otherwise what is wrong is what is wrong with its file. -/
theorem configOf_eq_error_iff {setting : Setting} {options : Options}
    {error : Config.LoadError} :
    configOf setting options = .error error ↔ setting.found options.config = .error error := by
  change (setting.found options.config).map (rebased · options.baseUrl) = _ ↔ _
  cases setting.found options.config <;> simp [Except.map]

end Command

namespace Config

/-- **Every key has its default for itself, and nothing is passed over in silence.** -/
theorem defaults_per_key :
    -- a document is a configuration if all is right with what it gives, and then it is what is
    -- given, with the defaults of all else
    (∀ table : Table, table.Distinct → HasForm table →
      ((∃ config, ofTable table = .ok config) ↔ Fits table) ∧
      ∀ config, ofTable table = .ok config → IsGiven table config) ∧
    -- which depends on the known keys only, and not on their order
    (∀ first second : Table, first.Distinct ∧ HasForm first → second.Distinct ∧ HasForm second →
      GivesAlike first second →
        ∀ config, ofTable first = .ok config ↔ ofTable second = .ok config) ∧
    (∀ first second : Table, first.Distinct → first.Perm second → ∀ name,
      first.given name = second.given name ∧ first.inside name = second.inside name) ∧
    -- a text comes to what its document comes to
    (∀ text config, ofText text = .ok config ↔
      ∃ table, Toml.parse text = .ok table ∧ table.Distinct ∧ ofTable table = .ok config) ∧
    -- a file comes to what its text comes to, and the defaults stand in for a missing file only
    (∀ path file config, load path file = .ok config ↔
      ∃ bytes text, file = .holding bytes ∧ Text.Utf8.decode? bytes = some text ∧
        ofText text = .ok config) ∧
    (∀ path file, loadOrDefault path file = if file = .missing then .ok {} else load path file) ∧
    -- a command fails exactly as its file does, and changes no key but the base address
    ∀ (setting : Command.Setting) (options : Command.Options),
      (∀ error, Command.configOf setting options = .error error ↔
        setting.found options.config = .error error) ∧
      ∀ config, Command.configOf setting options = .ok config ↔
        ∃ found, setting.found options.config = .ok found ∧
          config.theme = found.theme ∧ config.links = found.links ∧
          config.service.values = found.service.values.map fun (name, value) =>
            (name, if name = "base_url" then options.baseUrl.getD value else value) := by
  refine ⟨fun table hdistinct hform => ⟨ofTable_succeeds_iff hdistinct hform, fun config h =>
      ((ofTable_eq_ok_iff hdistinct hform).mp h).2⟩,
    fun first second hfirst hsecond halike _ => halike.ofTable_eq_ok_iff hfirst hsecond,
    fun first second hdistinct hperm name => ?_, fun text config => ?_,
    fun path file config => ?_, fun path file => ?_, fun setting options => ⟨fun error => ?_,
      fun config => ?_⟩⟩
  · simp only [Table.given, Table.inside, Table.get?_eq_of_perm hdistinct.names_nodup hperm,
      and_self]
  · rw [ofText_eq_ok_iff]
    refine exists_congr fun table => and_congr_right fun hparse => ?_
    rw [and_iff_right (Toml.distinct_of_parse hparse)]
  · exact load_eq_ok_iff
  · split
    · next hmissing => rw [hmissing]; rfl
    · next hpresent => exact loadOrDefault_of_present hpresent
  · exact Command.configOf_eq_error_iff
  · rw [Command.configOf_eq_ok_iff]
    exact exists_congr fun found => and_congr_right fun _ => Command.rebased_eq_iff

/-- A document with a key that nobody knows. -/
def coloured : Table := [
  (⟨"colour", 0⟩, .integer 9 7),
  (⟨"theme", 11⟩, .string 19 "neon-noir"),
  (⟨"api", 32⟩, .table .header (some 31) [(⟨"user_path", 37⟩, .string 49 "/me")])]

/-- A document that gives the same, the other way round. -/
def dotted : Table := [
  (⟨"api", 0⟩, .table .dotted none [(⟨"user_path", 4⟩, .string 16 "/me")]),
  (⟨"theme", 22⟩, .string 30 "neon-noir")]

/-- Two spellings of one configuration, in another order and one with a key that nobody knows: all
that is not given has its default. -/
theorem defaults_per_key_neonNoir :
    Toml.parse "colour = 7\ntheme = \"neon-noir\"\n[api]\nuser_path = \"/me\"\n" = .ok coloured ∧
    Toml.parse "api.user_path = '/me'\ntheme = 'neon-noir'\n" = .ok dotted ∧
    GivesAlike coloured dotted ∧ Fits coloured ∧
    IsGiven coloured { theme := .neonNoir, service := { userPath := "/me" } } ∧
    ofTable dotted = .ok { theme := .neonNoir, service := { userPath := "/me" } } ∧
    ∀ name, coloured.given name = Table.given coloured.reverse name := by
  have hcoloured :
      Toml.parse "colour = 7\ntheme = \"neon-noir\"\n[api]\nuser_path = \"/me\"\n" =
        .ok coloured := by decide +kernel
  have hdotted : Toml.parse "api.user_path = '/me'\ntheme = 'neon-noir'\n" = .ok dotted := by
    decide +kernel
  have hdistinct : coloured.Distinct := Toml.distinct_of_parse hcoloured
  have hform : HasForm coloured := ⟨by decide, by simp [coloured, Table.get?]⟩
  have hdotted' : dotted.Distinct ∧ HasForm dotted :=
    ⟨Toml.distinct_of_parse hdotted, ⟨by decide, by simp [dotted, Table.get?]⟩⟩
  have halike : GivesAlike coloured dotted := ⟨by decide, by decide, by decide⟩
  have hread : ofTable coloured =
      .ok { theme := .neonNoir, service := { userPath := "/me" } } := rfl
  obtain ⟨hdocument, hcounts, horder, -⟩ := defaults_per_key
  obtain ⟨hfits, hgiven⟩ := hdocument coloured hdistinct hform
  refine ⟨hcoloured, hdotted, halike, hfits.mp ⟨_, hread⟩, hgiven _ hread, ?_, fun name => ?_⟩
  · exact (hcounts _ _ ⟨hdistinct, hform⟩ hdotted' halike _).mp hread
  · exact (horder _ _ hdistinct (List.reverse_perm _).symm name).1

end Config

end WorksheetBar
