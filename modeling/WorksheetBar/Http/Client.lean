import WorksheetBar.Config
import WorksheetBar.Http.Exchange
import WorksheetBar.Http.Url.Parser
import WorksheetBar.Json.Printer
import WorksheetBar.Text.Digits

/-!
# The client

Turns the requests of the bar into requests that can be put on the wire, and what
comes off the wire into answers.  A client knows where the service lives and, if
there is a session, the cookie that says so.
-/

namespace WorksheetBar.Http

/-- The kinds of requests. -/
inductive Method where
  | get
  | post
  deriving DecidableEq, Repr

/-- The name of a method. -/
def Method.name : Method → String
  | get => "GET"
  | post => "POST"

/-- A request as it is put on the wire. -/
structure Outgoing where
  method : Method
  url : Url
  headers : List (String × String)
  body : Option String := none
  deriving DecidableEq, Repr

/-- What comes off the wire.  The body may break off before its end. -/
structure Arrival where
  status : UInt16
  body : List UInt8
  isWhole : Bool := true
  deriving DecidableEq, Repr

/-- The wire: what comes back for a request, if anybody answers. -/
abbrev Wire := Outgoing → Option Arrival

/-- A client of the service. -/
structure Client where
  baseUrl : String
  cookie : Option String := none
  deriving DecidableEq, Repr

namespace Client

/-- Why a request came to nothing. -/
inductive Error where
  | invalidCookie
  | unusableUrl (method : Method) (path : String) (url : Option Url)
  | unsupported (method : Method) (path : String) (url : Url)
  | unreachable (method : Method) (path : String) (url : Url)
  | brokenBody
  deriving DecidableEq, Repr

/-- The wording of an error. -/
def Error.message : Error → String
  | invalidCookie => "invalid session cookie: failed to parse header value"
  | unusableUrl method path none =>
    "invalid " ++ method.name ++ " " ++ path ++ ": builder error"
  | unusableUrl method path (some url) =>
    "invalid " ++ method.name ++ " " ++ path ++ ": builder error for url (" ++ url.text ++ ")"
  | unsupported method path url =>
    method.name ++ " " ++ path ++ " failed: builder error for url (" ++ url.text ++ ")"
  | unreachable method path url =>
    method.name ++ " " ++ path ++ " failed: error sending request for url (" ++ url.text ++ ")"
  | brokenBody => "failed to read response body: error decoding response body"

/-- The client of a service, which shows the session if there is one. -/
def of (service : Service) (session : Option String) : Client where
  baseUrl := service.baseUrl
  cookie := session.map fun token => service.sessionCookie ++ "=" ++ token

/-! ## Paths -/

/-- Whether a path is an address of its own. -/
def isAbsolute (path : List Char) : Bool :=
  "http://".toList.isPrefixOf path || "https://".toList.isPrefixOf path

/-- A base without the slashes at its end. -/
def trimSlashes (base : List Char) : List Char := (base.reverse.dropWhile (· == '/')).reverse

/-- A path without its first slash. -/
def dropSlash : List Char → List Char
  | '/' :: rest => rest
  | path => path

/-- The address of a path: the path itself if it is one, and otherwise the base and
the path with one slash between them. -/
def resolveFrom (base path : List Char) : List Char :=
  if isAbsolute path then path else trimSlashes base ++ '/' :: dropSlash path

/-- The address of a path of the service. -/
def resolve (client : Client) (path : String) : String :=
  String.ofList (resolveFrom client.baseUrl.toList path.toList)

/-! ## Building requests -/

/-- Whether a character can stand in a header. -/
def isHeaderChar (c : Char) : Bool := c == '\t' || (0x20 ≤ c.toNat && c.toNat != 0x7F)

/-- The header for a cookie. -/
def cookieHeader (cookie : Option String) : Except Error (List (String × String)) :=
  match cookie with
  | none => .ok []
  | some cookie =>
    if cookie.toList.all isHeaderChar then .ok [("cookie", cookie)] else .error .invalidCookie

/-- The name and password in a URL, as they are meant. -/
def credentials? (url : Url) : Option (String × String) := do
  let name ← Text.Utf8.decode? (Text.Percent.decode url.userName.toList)
  let password := (Text.Utf8.decode? (Text.Percent.decode url.password.toList)).getD ""
  if name = "" ∧ password = "" then none else some (name, password)

/-- Moves the name and password of a URL into a header. -/
def moveCredentials (url : Url) : Url × List (String × String) :=
  match credentials? url with
  | none => (url, [])
  | some (name, password) =>
    let bytes := (name ++ ":" ++ password).toUTF8.toList
    ({ url with userName := "", password := "" },
      [("authorization", "Basic " ++ String.ofList (Text.Base64.encode bytes))])

/-- Builds a request.  A cookie that cannot be shown is noticed before anything
else. -/
def build (client : Client) (method : Method) (path : String)
    (own : List (String × String)) (body : Option String) : Except Error Outgoing :=
  match cookieHeader client.cookie with
  | .error error => .error error
  | .ok cookie =>
    match Url.parse? (client.resolve path) with
    | none => .error (.unusableUrl method path none)
    | some url =>
      if !url.hasHost then .error (.unusableUrl method path (some url))
      else
        let (url, credentials) := moveCredentials url
        .ok { method, url, headers := credentials ++ own ++ cookie, body }

/-- The request for a path.  Nobody on the way may answer from memory. -/
def getRequest (client : Client) (path : String) : Except Error Outgoing :=
  client.build .get path [("cache-control", "no-cache")] none

/-- The request that posts a value to a path. -/
def postRequest (client : Client) (path : String) (body : Json) : Except Error Outgoing :=
  client.build .post path [("content-type", "application/json")] (some body.text)

/-! ## Sending requests -/

/-- An answer, once its body is complete. -/
def ofArrival (arrival : Arrival) : Except Error Response :=
  if arrival.isWhole then .ok ⟨arrival.status, arrival.body⟩ else .error .brokenBody

/-- Puts a request on the wire. -/
def send (wire : Wire) (path : String) (request : Outgoing) : Except Error Response :=
  if request.url.scheme ≠ "http" ∧ request.url.scheme ≠ "https" then
    .error (.unsupported request.method path request.url)
  else
    match wire request with
    | none => .error (.unreachable request.method path request.url)
    | some arrival => ofArrival arrival

/-- Asks for a path. -/
def get (client : Client) (wire : Wire) (path : String) : Except Error Response :=
  (client.getRequest path).bind (send wire path)

/-- Posts a value to a path. -/
def post (client : Client) (wire : Wire) (path : String) (body : Json) :
    Except Error Response :=
  (client.postRequest path body).bind (send wire path)

/-- What a request came to, for whoever waits for it. -/
def reply : Except Error Response → Reply
  | .ok response => .answered response
  | .error error => .failed error.message

/-- The service as it is seen through a client. -/
def backend (client : Client) (wire : Wire) : Backend where
  get _ path := reply (client.get wire path)
  post _ path body := reply (client.post wire path body)

end Client

end WorksheetBar.Http
