import WorksheetBar.Http.Url.Address
import WorksheetBar.Http.Url.Basic

/-!
# Reading URLs

An absolute URL from a text, in its normal form: the scheme and the host in lower
case, the steps of the path gone, and characters that cannot stand there encoded.
-/

namespace WorksheetBar.Http.Url

open Text (Percent.encode)

/-- What is encoded in a fragment. -/
def isEncodedInFragment (c : Char) : Bool :=
  isControl c || [' ', '"', '<', '>', '\x60'].contains c

/-- What is encoded in a query. -/
def isEncodedInQuery (isWeb : Bool) (c : Char) : Bool :=
  isControl c || [' ', '"', '#', '<', '>'].contains c || (isWeb && c == '\'')

/-- What is encoded in a path. -/
def isEncodedInPath (c : Char) : Bool :=
  isEncodedInFragment c || ['#', '?', '\x7b', '\x7d'].contains c

/-- What is encoded in a name or password. -/
def isEncodedInUser (c : Char) : Bool :=
  isEncodedInPath c || ['/', ':', ';', '=', '@', '[', '\\', ']', '^', '|'].contains c

/-- Drops what does not count: control characters and blanks around the text, and tabs
and line breaks anywhere. -/
def clean (text : List Char) : List Char :=
  let isMargin (c : Char) : Bool := c.toNat ≤ 0x20
  let trimmed := ((text.dropWhile isMargin).reverse.dropWhile isMargin).reverse
  trimmed.filter fun c => !([0x09, 0x0A, 0x0D].contains c.toNat)

/-- Whether a character can stand in a scheme, behind its first letter. -/
def isInScheme (c : Char) : Bool := c.isAlphanum || ['+', '-', '.'].contains c

/-- Takes the scheme and its colon off. -/
def takeScheme? (text : List Char) : Option (String × List Char) :=
  match text.span isInScheme with
  | (c :: scheme, ':' :: rest) =>
    if c.isAlpha then some (String.ofList ((c :: scheme).map Char.toLower), rest) else none
  | _ => none

/-- Splits a text at the first of a mark; the mark itself is dropped. -/
def splitAtFirst (mark : Char) (text : List Char) : List Char × Option (List Char) :=
  match text.span (· != mark) with
  | (before, _ :: after) => (before, some after)
  | (before, []) => (before, none)

/-- Splits a text at the last of a mark; the mark itself is dropped. -/
def splitAtLast (mark : Char) (text : List Char) : Option (List Char) × List Char :=
  match splitAtFirst mark text.reverse with
  | (after, some before) => (some before.reverse, after.reverse)
  | (after, none) => (none, after.reverse)

/-- Splits the port off, at the first colon outside brackets. -/
def splitPort (isInside : Bool) : List Char → List Char × Option (List Char)
  | [] => ([], none)
  | c :: rest =>
    if c == ':' && !isInside then ([], some rest)
    else
      let isInside := if c == '[' then true else if c == ']' then false else isInside
      let (host, port) := splitPort isInside rest
      (c :: host, port)

/-- A port, or `none` for no port at all; a port that the scheme uses anyway is left
out. -/
def port? (scheme : String) (text : List Char) : Option (Option Nat) :=
  if text.isEmpty then some none
  else
    match number? 10 text with
    | none => none
    | some port =>
      if 65535 < port then none
      else some (if defaultPort? scheme = some port then none else some port)

/-- What stands between the slashes and the path. -/
structure Authority where
  userName : String := ""
  password : String := ""
  host : String
  port : Option Nat := none

/-- The name and password in front of the host. -/
def userParts (text : List Char) : String × String :=
  let (name, password) := splitAtFirst ':' text
  (String.ofList (Percent.encode isEncodedInUser name),
    String.ofList (Percent.encode isEncodedInUser (password.getD [])))

/-- Reads what stands between the slashes and the path. -/
def authority? (scheme : String) (text : List Char) : Option Authority := do
  let isWeb := isWebScheme scheme
  let (user, hostPort) := splitAtLast '@' text
  let (hostText, portText) := splitPort false hostPort
  let (userName, password) := userParts (user.getD [])
  if hostText.isEmpty then
    if isWeb || user.isSome || portText.isSome then none
    else some { host := "" }
  else
    let host ← host? isWeb hostText
    let port ← port? scheme (portText.getD [])
    some { userName, password, host := String.ofList host, port }

/-- Whether a segment stays where it is. -/
def isHere (segment : List Char) : Bool :=
  ["." , "%2e"].contains (String.ofList (segment.map Char.toLower))

/-- Whether a segment goes up. -/
def isUp (segment : List Char) : Bool :=
  ["..", ".%2e", "%2e.", "%2e%2e"].contains (String.ofList (segment.map Char.toLower))

/-- Takes the steps of a path, with the segments so far in reverse order.  A path that
ends in a step ends in a slash. -/
def walk (done : List String) : List (List Char) → List String
  | [] => done.reverse
  | segment :: rest =>
    let isStep := isHere segment || isUp segment
    let done :=
      if isUp segment then done.drop 1
      else if isStep then done
      else String.ofList (Percent.encode isEncodedInPath segment) :: done
    match rest with
    | [] => (if isStep then "" :: done else done).reverse
    | _ :: _ => walk done rest

/-- The segments of a path that begins with a slash. -/
def segments (isSlash : Char → Bool) (path : List Char) : List String :=
  walk [] (splitAll isSlash (path.drop 1))

/-- Reads a URL of the web, behind its scheme.  Any number of slashes may stand
before the host, and they may lean to either side. -/
def webUrl? (scheme : String) (text : List Char) : Option Url := do
  let isSlash (c : Char) : Bool := c == '/' || c == '\\'
  let (before, path) := (text.dropWhile isSlash).span (!isSlash ·)
  let known ← authority? scheme before
  some { known with
    scheme, host := some known.host, path := .segments (segments isSlash path) }

/-- Reads a URL of any other scheme, behind the scheme. -/
def otherUrl? (scheme : String) (text : List Char) : Option Url :=
  match text with
  | '/' :: '/' :: rest => do
    let (before, path) := rest.span (· != '/')
    let known ← authority? scheme before
    let segments := if path.isEmpty then [] else segments (· == '/') path
    some { known with scheme, host := some known.host, path := .segments segments }
  | '/' :: _ => some { scheme, path := .segments (segments (· == '/') text) }
  | _ =>
    some { scheme, path := .unparted (String.ofList (Percent.encode isControl text)) }

/-- Reads a URL of a file, behind its scheme.  There is a host only behind two
slashes, and this machine is none. -/
def fileUrl? (text : List Char) : Option Url := do
  let isSlash (c : Char) : Bool := c == '/' || c == '\\'
  match text with
  | a :: b :: rest =>
    if isSlash a && isSlash b then
      let (before, path) := rest.span (!isSlash ·)
      let host ← if before.isEmpty then some [] else host? true before
      let host := String.ofList host
      let host := if host = "localhost" then "" else host
      some { scheme := "file", host := some host, path := .segments (segments isSlash path) }
    else
      let path := if isSlash a then text else '/' :: text
      some { scheme := "file", host := some "", path := .segments (segments isSlash path) }
  | _ =>
    some { scheme := "file", host := some "",
           path := .segments (segments isSlash ('/' :: text.filter (!isSlash ·))) }

/-- Reads an absolute URL. -/
def parse? (text : String) : Option Url := do
  let (scheme, rest) ← takeScheme? (clean text.toList)
  let (rest, fragment) := splitAtFirst '#' rest
  let (rest, query) := splitAtFirst '?' rest
  let isWeb := isWebScheme scheme
  let url ←
    if isWeb then webUrl? scheme rest
    else if scheme = "file" then fileUrl? rest
    else otherUrl? scheme rest
  some { url with
    query := query.map fun query =>
      String.ofList (Percent.encode (isEncodedInQuery (isWeb || scheme = "file")) query)
    fragment := fragment.map fun fragment =>
      String.ofList (Percent.encode isEncodedInFragment fragment) }

end WorksheetBar.Http.Url
