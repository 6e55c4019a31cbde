import WorksheetBar.Http.Client
import WorksheetBar.Text.Digits

/-!
# Messages on a connection

How a request is written to a connection, and how an answer is read from all that came
back before the connection was closed.

* `eq_append_of_findBreak` — what stands before a mark and behind it, with the mark
  between them, is all that came.
-/

namespace WorksheetBar.Http

/-- The end of a line. -/
def lineBreak : String := "\r\n"

namespace Outgoing

/-- What is asked of the host. -/
def target (request : Outgoing) : String :=
  request.url.path.text ++ Url.marked "?" request.url.query

/-- The host and the port if it is not the usual one. -/
def hostHeader (request : Outgoing) : String :=
  let port := match request.url.port with
    | some port => ":" ++ toString port
    | none => ""
  request.url.host.getD "" ++ port

/-- Every header, with those that the connection needs. -/
def allHeaders (request : Outgoing) : List (String × String) :=
  let length := match request.body with
    | some body => [("content-length", toString body.utf8ByteSize)]
    | none => []
  [("host", request.hostHeader), ("accept", "*/*"), ("connection", "close")] ++
    request.headers ++ length

/-- A request as it is written to a connection. -/
def message (request : Outgoing) : String :=
  let head := request.method.name ++ " " ++ request.target ++ " HTTP/1.1" ++ lineBreak
  let headers := request.allHeaders.map fun (name, value) => name ++ ": " ++ value ++ lineBreak
  head ++ String.join headers ++ lineBreak ++ request.body.getD ""

end Outgoing

namespace Arrival

/-- The bytes of an empty line behind a line. -/
def emptyLine : List UInt8 := [13, 10, 13, 10]

/-- What stands before some bytes, and what stands behind them. -/
def findBreak (mark : List UInt8) : List UInt8 → Option (List UInt8 × List UInt8)
  | [] => none
  | byte :: rest =>
    if mark.isPrefixOf (byte :: rest) then some ([], (byte :: rest).drop mark.length)
    else (findBreak mark rest).map fun (before, behind) => (byte :: before, behind)

/-- The characters of a head, one for each byte. -/
def headChars (bytes : List UInt8) : List Char := bytes.map fun byte => Char.ofNat byte.toNat

/-- The status in the first line of a head. -/
def status? (line : List Char) : Option UInt16 := do
  let behind := (line.dropWhile (· != ' ')).drop 1
  let digits := behind.takeWhile (· != ' ')
  let code ← (String.ofList digits).toNat?
  if digits.length = 3 ∧ "HTTP/1.".toList.isPrefixOf line then some code.toUInt16 else none

/-- The name of a header in small letters, and its value without the blanks around it. -/
def header (line : List Char) : String × String :=
  let trim (chars : List Char) := chars.dropWhile (fun c => c == ' ' || c == '\t')
  let value := trim ((line.dropWhile (· != ':')).drop 1)
  (String.ofList ((line.takeWhile (· != ':')).map Char.toLower),
    String.ofList (trim value.reverse).reverse)

/-- The bytes of a body that comes in pieces, each behind its length, and whether the
last piece came. -/
def joinChunks : Nat → List UInt8 → List UInt8 × Bool
  | 0, _ => ([], false)
  | more + 1, bytes =>
    match findBreak [13, 10] bytes with
    | none => ([], false)
    | some (line, behind) =>
      let digits := (headChars line).takeWhile fun c => (Text.Hex.value? c).isSome
      let length := digits.foldl (fun n c => n * 16 + (Text.Hex.value? c).getD 0) 0
      if digits.isEmpty then ([], false)
      else if length = 0 then ([], true)
      else
        let (rest, isWhole) := joinChunks more (behind.drop (length + 2))
        (behind.take length ++ rest, isWhole && length ≤ behind.length)

/-- An answer, from all the bytes that came. -/
def ofBytes? (bytes : List UInt8) : Option Arrival := do
  let (head, behind) ← findBreak emptyLine bytes
  let lines := Url.splitAll (· == '\n') ((headChars head).filter (· != '\r'))
  let status ← status? (← lines.head?)
  let headers := lines.tail.map header
  if headers.lookup "transfer-encoding" = some "chunked" then
    let (body, isWhole) := joinChunks (behind.length + 1) behind
    return { status, body, isWhole }
  else
    match (headers.lookup "content-length").bind String.toNat? with
    | some length =>
      return { status, body := behind.take length, isWhole := length ≤ behind.length }
    | none => return { status, body := behind }

/-- **What stands before a mark and behind it, with the mark in the middle, is the whole.** -/
theorem eq_append_of_findBreak {mark bytes before behind : List UInt8}
    (found : findBreak mark bytes = some (before, behind)) :
    bytes = before ++ mark ++ behind := by
  induction bytes generalizing before with
  | nil => simp [findBreak] at found
  | cons byte rest ih =>
    simp only [findBreak] at found
    split at found
    · rename_i here
      obtain ⟨rfl, rfl⟩ := Prod.mk.inj (Option.some.inj found)
      have marked := List.prefix_iff_eq_append.1 (List.isPrefixOf_iff_prefix.1 here)
      simpa using marked.symm
    · obtain ⟨⟨front, back⟩, foundLater, same⟩ := Option.map_eq_some_iff.1 found
      obtain ⟨rfl, rfl⟩ := Prod.mk.inj same
      simpa using ih foundLater

end Arrival

end WorksheetBar.Http
