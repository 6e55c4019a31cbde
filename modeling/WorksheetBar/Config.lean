/-!
# The configuration of the bar

What the bar looks like, which service it talks to and where its links lead.
Every field has a default, so the empty configuration is a complete one.

* `Theme.ofLabel?_label` — a theme is found again under its own label;
* `Theme.label_of_ofLabel?` — and a label that is found is the label of what
  was found.
-/

namespace WorksheetBar

/-- The colour themes of the terminal bar. -/
inductive Theme where
  | classic
  | cyberpunk
  | neonNoir
  | solarFlare
  | forestZen
  deriving DecidableEq, Repr

namespace Theme

/-- Every theme, in the order in which they are offered. -/
def all : List Theme := [classic, cyberpunk, neonNoir, solarFlare, forestZen]

/-- The name by which a configuration file chooses the theme. -/
def label : Theme → String
  | classic => "classic"
  | cyberpunk => "cyberpunk"
  | neonNoir => "neon-noir"
  | solarFlare => "solar-flare"
  | forestZen => "forest-zen"

/-- The theme with the given label. -/
def ofLabel? (name : String) : Option Theme :=
  all.find? (fun theme => theme.label == name)

/-- There are no other themes. -/
theorem mem_all (theme : Theme) : theme ∈ all := by
  cases theme <;> simp [all]

/-- A theme is found by its label. -/
theorem ofLabel?_label (theme : Theme) : ofLabel? theme.label = some theme := by
  cases theme <;> decide

/-- What is found by a label has that label. -/
theorem label_of_ofLabel? {name : String} {theme : Theme}
    (h : ofLabel? name = some theme) : theme.label = name := by
  simpa using List.find?_some h

end Theme

/-- The service behind the bar: where it answers, the paths of its session and
command endpoints, and the name of the cookie that carries the session. -/
structure Service where
  baseUrl : String := "http://localhost:2900"
  userPath : String := "/rest/user"
  commandPath : String := "/rest/cli/command"
  sessionCookie : String := "codalab_session"
  deriving DecidableEq, Repr

/-- Fixed link destinations.  The bar does not look inside them; it only hands
them to the navigator. -/
structure Links where
  dashboard : String := "/rest/worksheets/?name=dashboard"
  gallery : String := "/worksheets?name=home"
  howTo : String := "https://codalab-worksheets.readthedocs.io/en/latest/"
  contact : String := "mailto:codalab.worksheets@gmail.com"
  signUp : String := "/account/signup"
  login : String := "/account/login"
  accountProfile : String := "/account/profile"
  deriving DecidableEq, Repr

/-- The whole configuration. -/
structure Config where
  theme : Theme := .classic
  service : Service := {}
  links : Links := {}
  deriving DecidableEq, Repr

end WorksheetBar
