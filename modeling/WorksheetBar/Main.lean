import Std.Async.DNS
import Std.Async.TCP
import WorksheetBar.Command.Demand
import WorksheetBar.Http.Message
import WorksheetBar.Terminal.Ansi
import WorksheetBar.Terminal.Picture

/-!
# The command line

Finds out what is around the program, lets it run and prints what it says.  Requests
are put on a connection here; an answer that does not come is no answer.  The bar
itself reads lines: each character of a line is a key, and an empty line is the enter
key.
-/

namespace WorksheetBar.CommandLine

/-! ## The wire -/

/-- All bytes that come from a connection until it is closed. -/
partial def receive (client : Std.Async.TCP.Socket.Client) (bytes : ByteArray) :
    Std.Async.Async ByteArray := do
  match ← client.recv? 65536 with
  | some more => receive client (bytes ++ more)
  | none => return bytes

/-- Puts a request on a connection to an address, and waits for all that comes back. -/
def converse (request : Http.Outgoing) (address : Std.Net.SocketAddress) : IO ByteArray := do
  let client ← Std.Async.TCP.Socket.Client.mk
  Std.Async.Async.block do
    client.connect address
    client.send request.message.toUTF8
    receive client .empty

/-- The addresses of the host of a request. -/
def addressesOf (request : Http.Outgoing) : IO (List Std.Net.SocketAddress) := do
  let some host := request.url.host | return []
  let port := (request.url.port.getD 80).toUInt16
  let name := String.ofList (host.toList.filter fun c => c != '[' && c != ']')
  let found ← (Std.Async.DNS.getAddrInfo name (toString port)).block
  return found.toList.map fun
    | .v4 address => .v4 ⟨address, port⟩
    | .v6 address => .v6 ⟨address, port⟩

/-- The first answer to a request that one of the addresses gives. -/
def answerFrom (request : Http.Outgoing) :
    List Std.Net.SocketAddress → IO (Option Http.Arrival)
  | [] => return none
  | address :: rest => do
    try
      match Http.Arrival.ofBytes? (← converse request address).toList with
      | some arrival => return some arrival
      | none => answerFrom request rest
    catch _ => answerFrom request rest

/-- The answer to a request, if it can be put on a connection. -/
def answerTo (request : Http.Outgoing) : IO (Option Http.Arrival) := do
  if request.url.scheme ≠ "http" then return none
  try answerFrom request (← addressesOf request)
  catch _ => return none

/-- The wire that knows the answers to some requests. -/
def wireFor (requests : List Http.Outgoing) : IO Http.Wire := do
  let answers ← requests.filterMapM fun request => do
    return (← answerTo request).map fun arrival => (request, arrival)
  return Command.knownWire answers

/-! ## The surroundings -/

/-- The number the system has for an error, and what it says of it. -/
def causeOf : IO.Error → UInt32 × String
  | .otherError code text | .resourceBusy code text | .resourceVanished code text
  | .unsupportedOperation code text | .hardwareFault code text
  | .unsatisfiedConstraints code text | .illegalOperation code text | .protocolError code text
  | .timeExpired code text => (code, text)
  | .interrupted _ code text | .noFileOrDirectory _ code text => (code, text)
  | .alreadyExists _ code text | .invalidArgument _ code text | .permissionDenied _ code text
  | .resourceExhausted _ code text | .inappropriateType _ code text
  | .noSuchThing _ code text => (code, text)
  | .unexpectedEof => (0, "unexpected end of file")
  | .userError text => (0, text)

/-- What is found under the name of a file. -/
def fileAt (path : String) : IO Config.File := do
  try
    return .holding (← IO.FS.readBinFile path).toList
  catch error =>
    match causeOf error with
    | (2, _) => return .missing
    | (13, _) => return .denied
    | (21, _) => return .directory
    | (code, text) => return .failing (text ++ " (os error " ++ toString code ++ ")")

/-- The directory in which the user keeps configurations. -/
def configHome : IO (Option String) := do
  match ← IO.getEnv "XDG_CONFIG_HOME" with
  | some directory =>
    if directory.startsWith "/" then return some directory
  | none => pure ()
  return (← IO.getEnv "HOME").map (· ++ "/.config")

/-- The files a command may look at. -/
def filesFor (arguments : List String) (home : Option String) : IO (String → Config.File) := do
  let named := match Command.Options.parse (arguments.drop 1) with
    | .ok options => options.config.toList
    | .error _ => []
  let usual := home.toList.map Command.homeFile
  let found ← (named ++ usual).mapM fun path => do return (path, ← fileAt path)
  return fun path => (found.lookup path).getD .missing

/-- What a command finds around it, but for the wire. -/
def surroundings (arguments : List String) : IO Command.Setting := do
  let home ← configHome
  return {
    session := ← IO.getEnv Command.sessionVariable
    configHome := home
    files := ← filesFor arguments home
    wire := fun _ => none }

/-! ## The bar -/

/-- A number in the environment. -/
def numberOf (name : String) (fallback : Nat) : IO Nat := do
  return ((← IO.getEnv name).bind String.toNat?).getD fallback

/-- The key of a character that was typed. -/
def keyOf (c : Char) : Terminal.Press :=
  if c.toNat = 3 then ⟨.char 'c', true⟩
  else if c.toNat = 0x1B then ⟨.escape, false⟩
  else if c.toNat = 8 ∨ c.toNat = 0x7F then ⟨.backspace, false⟩
  else ⟨.char c, false⟩

/-- The keys of a line that was typed. -/
def keysOf (line : String) : List Terminal.Press :=
  let typed := line.toList.takeWhile fun c => c != '\n' && c != '\r'
  if typed.isEmpty then [⟨.enter, false⟩] else typed.map keyOf

/-- Lets everything in the background go on. -/
def serve (client : Http.Client) (host : Host) : IO Host := do
  let requests := (Command.readyJobs host).filterMap (Command.requestOf client)
  return host.runBackground (client.backend (← wireFor requests))

/-- Takes keys until one of them ends the program. -/
def pressAll (client : Http.Client) (terminal : Terminal) :
    List Terminal.Press → IO (Terminal × Bool)
  | [] => return (terminal, false)
  | key :: rest => do
    let (terminal, ended) := terminal.press key
    if ended then return (terminal, true)
    else pressAll client { terminal with host := ← serve client terminal.host } rest

/-- Draws the bar and takes keys, again and again. -/
partial def attend (client : Http.Client) (input output : IO.FS.Stream) (terminal : Terminal) :
    IO Unit := do
  let terminal := terminal.refresh
  let screen := terminal.draw (← numberOf "COLUMNS" 80) (← numberOf "LINES" 24)
  output.putStr screen.text
  output.flush
  let line ← input.getLine
  if line.isEmpty then return
  let (terminal, ended) ← pressAll client terminal (keysOf line)
  if ended then return
  attend client input output terminal

/-- Shows the bar. -/
def showBar (config : Config) (session : Option String) : IO Unit := do
  let client := Http.Client.of config.service session
  let host := (Command.hostOf config session).mount.1
  attend client (← IO.getStdin) (← IO.getStdout) ⟨← serve client host, {}⟩

/-- Runs a command. -/
def run (arguments : List String) : IO UInt32 := do
  let setting ← surroundings arguments
  let wire ← wireFor (Command.demand setting arguments)
  match Command.run { setting with wire := wire } arguments with
  | .printed output =>
    IO.print output
    return 0
  | .failed output error =>
    IO.print output
    IO.eprint error.report
    return 1
  | .interactive config session =>
    showBar config session
    return 0

end WorksheetBar.CommandLine

def main (arguments : List String) : IO UInt32 := WorksheetBar.CommandLine.run arguments
