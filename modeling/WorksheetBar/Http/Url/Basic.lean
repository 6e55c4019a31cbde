/-!
# URLs

The parts of a URL, each in its normal form, and the text they make.
-/

namespace WorksheetBar.Http

/-- What follows the host: segments behind slashes, or a text that is not looked
into. -/
inductive Url.Path where
  | segments (parts : List String)
  | unparted (text : String)
  deriving DecidableEq, Repr

/-- A URL. -/
structure Url where
  scheme : String
  userName : String := ""
  password : String := ""
  host : Option String := none
  port : Option Nat := none
  path : Url.Path
  query : Option String := none
  fragment : Option String := none
  deriving DecidableEq, Repr

namespace Url

/-- The port a scheme of the web uses if no other is named. -/
def defaultPort? : String → Option Nat
  | "http" | "ws" => some 80
  | "https" | "wss" => some 443
  | "ftp" => some 21
  | _ => none

/-- Whether a scheme belongs to the web, so that every URL of it has a host. -/
def isWebScheme (scheme : String) : Bool := (defaultPort? scheme).isSome

/-- Whether there is a host to speak to. -/
def hasHost (url : Url) : Bool := url.host.any (· ≠ "")

/-- The name and password in front of the host. -/
def userText (url : Url) : String :=
  if url.userName = "" ∧ url.password = "" then ""
  else if url.password = "" then url.userName ++ "@"
  else url.userName ++ ":" ++ url.password ++ "@"

/-- The text between the scheme and the path. -/
def hostText (url : Url) : String :=
  match url.host with
  | some host =>
    let port := match url.port with
      | some port => ":" ++ toString port
      | none => ""
    "//" ++ url.userText ++ host ++ port
  | none =>
    match url.path with
    | .segments ("" :: _ :: _) => "/."
    | _ => ""

/-- The text of a path. -/
def Path.text : Path → String
  | .segments parts => String.join (parts.map ("/" ++ ·))
  | .unparted text => text

/-- A part behind its mark, if it is there. -/
def marked (mark : String) : Option String → String
  | some part => mark ++ part
  | none => ""

/-- The text of a URL. -/
def text (url : Url) : String :=
  url.scheme ++ ":" ++ url.hostText ++ url.path.text ++ marked "?" url.query ++
    marked "#" url.fragment

end Url

end WorksheetBar.Http
