import WorksheetBar.Command.Options
import WorksheetBar.Config.File
import WorksheetBar.Host.Background
import WorksheetBar.Http.Client

/-!
# The program

What a command prints and whether it fails, as a function of its arguments and of
what it finds around it.  Options are read before anything else, then the
configuration, and only then is there a host.
-/

namespace WorksheetBar.Command

/-- The name and number of the program. -/
def version : String := "wsbar 0.1.0"

/-- The variable that may hold a session. -/
def sessionVariable : String := "WSBAR_SESSION"

/-- The lines of the help text. -/
def helpLines : List String := [
  version,
  "Usage:",
  "  wsbar run [--config PATH] [--base-url URL] [--session TOKEN]",
  "  wsbar whoami [--config PATH] [--base-url URL] [--session TOKEN]",
  "  wsbar new [NAME] [--config PATH] [--base-url URL] [--session TOKEN]",
  "  wsbar --help",
  "  wsbar --version",
  "",
  "The session token may also come from $" ++ sessionVariable ++ "."]

/-- A line of output. -/
def line (text : String) : String := text ++ "\n"

/-- The help text. -/
def help : String := String.join (helpLines.map line)

/-- Why a command failed. -/
inductive Error where
  | usage (error : UsageError)
  | config (error : Config.LoadError)
  | notSignedIn
  | unknownCommand (name : String)
  deriving DecidableEq, Repr

/-- The wording of an error. -/
def Error.message : Error → String
  | usage error => error.message
  | config error => error.message
  | notSignedIn => "not signed in: pass --session or set " ++ sessionVariable
  | unknownCommand name => "unknown command: " ++ name

/-- What a command finds around it: a session, the directory in which the user keeps
configurations, the files and the wire. -/
structure Setting where
  session : Option String := none
  configHome : Option String := none
  files : String → Config.File
  wire : Http.Wire

/-- The configuration file the user has if no other is named. -/
def homeFile (configHome : String) : String := configHome ++ "/wsbar/config.toml"

/-- The configuration a command uses. -/
def configOf (setting : Setting) (options : Options) : Except Config.LoadError Config :=
  let found :=
    match options.config, setting.configHome with
    | some path, _ => Config.load path (setting.files path)
    | none, some home => Config.loadOrDefault (homeFile home) (setting.files (homeFile home))
    | none, none => .ok {}
  found.map fun config =>
    { config with
      service := { config.service with
        baseUrl := options.baseUrl.getD config.service.baseUrl } }

/-- The host of a command: signed in if there is a session. -/
def hostOf (config : Config) (session : Option String) : Host :=
  { Host.fresh config { signedIn := session.isSome } with isTerminal := true }

/-- The service a command speaks to. -/
def backendOf (setting : Setting) (config : Config) (session : Option String) : Http.Backend :=
  (Http.Client.of config.service session).backend setting.wire

/-- What is said of the user of a shell. -/
def identity (shell : Shell) : String :=
  match shell.session with
  | .loaded profile => profile.userName
  | _ => if shell.signedIn then "profile unavailable" else "not signed in"

/-- Finds out who is signed in. -/
def whoami (backend : Http.Backend) (host : Host) : Host × String :=
  let host := (host.mount).1
  let host := (host.settle backend).1
  let answer := identity host.shell
  ((host.unmount).1, line answer)

/-- Creates a worksheet through the dialog. -/
def createWorksheet (backend : Http.Backend) (name : String) (host : Host) :
    Host × Except Error String :=
  let host := (host.mount).1
  let host := (host.handle (.activate .newWorksheet)).1
  if !host.shell.dialog.isShown then (host, .error .notSignedIn)
  else
    let host := (host.handle (.editName name)).1
    let host := (host.handle .confirmDialog).1
    let host := (host.settle backend).1
    let sent := Worksheet.newCommand (Worksheet.effectiveName name)
    ((host.unmount).1, .ok (line ("sent: " ++ sent)))

/-- The name of a worksheet that is given in words. -/
def nameOf (options : Options) : String := String.intercalate " " options.words

/-- Runs `whoami`. -/
def runWhoami (setting : Setting) (options : Options) : Except Error String := do
  let config ← (configOf setting options).mapError Error.config
  let session := options.token? setting.session
  return (whoami (backendOf setting config session) (hostOf config session)).2

/-- Runs `new`. -/
def runNew (setting : Setting) (options : Options) : Except Error String := do
  let config ← (configOf setting options).mapError Error.config
  let session := options.token? setting.session
  (createWorksheet (backendOf setting config session) (nameOf options) (hostOf config session)).2

/-- What a command comes to: something printed, something printed and an error, or the
bar itself, with its configuration and its session. -/
inductive Report where
  | printed (output : String)
  | failed (output : String) (error : Error)
  | interactive (config : Config) (session : Option String)

/-- A report of something that prints or fails. -/
def Report.of : Except Error String → Report
  | .ok output => printed output
  | .error error => failed "" error

/-- The options in arguments. -/
def optionsOf (arguments : List String) : Except Error Options :=
  (Options.parse arguments).mapError Error.usage

/-- Starts the bar, if its arguments and its configuration allow it. -/
def start (setting : Setting) (arguments : List String) : Report :=
  match optionsOf arguments with
  | .error error => .failed "" error
  | .ok options =>
    match options.words with
    | word :: _ => .failed "" (.usage (.unsupported word))
    | [] =>
      match configOf setting options with
      | .error error => .failed "" (.config error)
      | .ok config => .interactive config (options.token? setting.session)

/-- Runs the program. -/
def run (setting : Setting) : List String → Report
  | [] => .printed help
  | command :: arguments =>
    if ["--help", "-h", "help"].contains command then .printed help
    else if ["--version", "-V", "version"].contains command then .printed (line version)
    else if command = "run" then start setting arguments
    else if command = "whoami" then .of ((optionsOf arguments).bind (runWhoami setting))
    else if command = "new" then .of ((optionsOf arguments).bind (runNew setting))
    else .failed help (.unknownCommand command)

/-- The line on which an error is reported. -/
def Error.report (error : Error) : String := line ("error: " ++ error.message)

end WorksheetBar.Command
