import WorksheetBar.Config.Reading
import WorksheetBar.Text.Utf8
import WorksheetBar.Toml.Reader

/-!
# Configuration files

A file is read, understood as a document and then as a configuration; each of the
three can fail.  A file that is not there is no failure where the defaults will do.

* `loadOrDefault_of_present` — the defaults stand in for a missing file only.
-/

namespace WorksheetBar.Config

/-- What is found under the name of a file.  The reason of a failure is what the system says
of it; only a file that is not there is told apart. -/
inductive File where
  | missing
  | directory
  | denied
  | failing (reason : String)
  | holding (bytes : List UInt8)
  deriving DecidableEq, Repr

/-- Why a file cannot be read. -/
inductive ReadError where
  | missing
  | directory
  | denied
  | failing (reason : String)
  | notText
  deriving DecidableEq, Repr

/-- The wording of a read error. -/
def ReadError.message : ReadError → String
  | missing => "No such file or directory (os error 2)"
  | directory => "Is a directory (os error 21)"
  | denied => "Permission denied (os error 13)"
  | failing reason => reason
  | notText => "stream did not contain valid UTF-8"

/-- A line and a column, both counted from one. -/
structure Position where
  line : Nat := 1
  column : Nat := 1
  deriving DecidableEq, Repr

/-- The position behind the given characters. -/
def Position.behind (text : List Char) : Position :=
  text.foldl
    (fun position c =>
      if c = '\n' then ⟨position.line + 1, 1⟩ else ⟨position.line, position.column + 1⟩)
    {}

/-- Why a text is not a configuration: it is no document, or it does not say what it
should. -/
inductive TextError where
  | notToml (position : Position)
  | misfit (cause : Cause) (position : Position)
  deriving DecidableEq, Repr

/-- Where a text goes wrong. -/
def TextError.position : TextError → Position
  | notToml position => position
  | misfit _ position => position

/-- The wording of a text error: the position on a line of its own, and the cause. -/
def TextError.message (error : TextError) : String :=
  let position := error.position
  let reason := match error with
    | .notToml _ => "not a TOML document"
    | .misfit cause _ => cause.message
  "TOML parse error at line " ++ toString position.line ++ ", column " ++
    toString position.column ++ "\n" ++ reason

/-- The configuration in a text. -/
def ofText (text : String) : Except TextError Config :=
  let behind (offset : Nat) : Position := Position.behind (text.toList.take offset)
  match Toml.parse text with
  | .error offset => .error (.notToml (behind offset))
  | .ok table =>
    match ofTable table with
    | .error fault => .error (.misfit fault.cause (behind fault.offset))
    | .ok config => .ok config

/-- Why there is no configuration to be had from a file. -/
inductive LoadError where
  | unreadable (path : String) (error : ReadError)
  | unusable (path : String) (error : TextError)
  deriving DecidableEq, Repr

/-- The wording of a load error. -/
def LoadError.message : LoadError → String
  | unreadable path error => "failed to read config " ++ path ++ ": " ++ error.message
  | unusable path error => "failed to parse config " ++ path ++ ": " ++ error.message

/-- The text of a file. -/
def File.text : File → Except ReadError String
  | missing => .error .missing
  | directory => .error .directory
  | denied => .error .denied
  | failing reason => .error (.failing reason)
  | holding bytes =>
    match Text.Utf8.decode? bytes with
    | some text => .ok text
    | none => .error .notText

/-- The configuration in a file. -/
def load (path : String) (file : File) : Except LoadError Config :=
  match file.text with
  | .error error => .error (.unreadable path error)
  | .ok text =>
    match ofText text with
    | .error error => .error (.unusable path error)
    | .ok config => .ok config

/-- The configuration in a file, or the default one if there is no file. -/
def loadOrDefault (path : String) (file : File) : Except LoadError Config :=
  match file with
  | .missing => .ok {}
  | .directory | .denied | .failing _ | .holding _ => load path file

/-- **The defaults stand in for a missing file only**, whatever else goes wrong. -/
theorem loadOrDefault_of_present {path : String} {file : File} (h : file ≠ .missing) :
    loadOrDefault path file = load path file := by
  cases file with
  | missing => exact absurd rfl h
  | directory | denied | failing _ | holding _ => rfl

end WorksheetBar.Config
