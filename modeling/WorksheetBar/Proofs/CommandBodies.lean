import WorksheetBar.Dispatch
import WorksheetBar.Proofs.QuotedStrings
import WorksheetBar.Proofs.SessionCookie

/-!
# A command on the wire

A command is posted as the only member of an object.  Whatever is typed, quotation marks,
backslashes, control characters or any other character, it is written into a string of that
object and read back from the bytes as it was.  So a name cannot close the string it stands in
and add a member of its own, and nothing of the request but its body depends on it.

* `ofPieces_member` — the object with one member is read back, and has only that member;
* `document_body` — so is the body that a command is sent in, from its bytes;
* `build_body` — what a request is apart from its body does not depend on the body;
* `command_survives_the_wire` — a command is read back from the bytes of the request.
-/

namespace WorksheetBar

namespace Json

/-- What is read of an object with one member, before its closing brace. -/
def memberFields (name value : String) : Fields :=
  let colon := 2 + width (escape name.toList) + 1
  let stop := colon + 1 + 1 + width (escape value.toList) + 1
  .cons (quotedReading 2 name) colon (.string (quotedReading (colon + 1 + 1) value))
    (.closed (stop + 1))

/-- A single member is decoded as it is. -/
theorem memberFields_decode (name value : String) (room : Nat) :
    (memberFields name value).decode room = .ok [(name, .string value)] := rfl

/-- **The object with one member is read back**, and nothing is left behind it. -/
theorem ofPieces_member (name value : String) :
    Document.ofPieces (spelled (chars (.object [(name, .string value)]))) =
      ⟨.object 0 (memberFields name value), none⟩ := by
  let colon := 2 + width (escape name.toList) + 1
  let stop := colon + 1 + 1 + width (escape value.toList) + 1
  let behindName := Text.Piece.char ':' :: (spelled (quoted value) ++ [.char '\x7d'])
  have hpieces : spelled (chars (.object [(name, .string value)])) =
      .char '\x7b' :: .char '"' :: (spelled (escape name.toList ++ ['"']) ++ behindName) := by
    simp [chars, memberChars, quoted, behindName]
  have hend (fuel : Nat) : readMoreFields (fuel + 1) ⟨stop, [.char '\x7d']⟩ =
      (.closed (stop + 1), some ⟨stop + 1, []⟩) := rfl
  have hcolon : Cursor.skipBlanks ⟨colon, behindName⟩ = ⟨colon, behindName⟩ := rfl
  have hvalue : Cursor.next ⟨colon, behindName⟩ =
      ⟨colon + 1, spelled (quoted value) ++ [.char '\x7d']⟩ := rfl
  have hfield (fuel : Nat) :
      readField (fuel + 2) ⟨2, spelled (escape name.toList ++ ['"']) ++ behindName⟩ =
        (memberFields name value, some ⟨stop + 1, []⟩) := by
    rw [readField, readString_quoted]
    dsimp only
    rw [hcolon, hvalue, readValue_quoted]
    dsimp only
    rw [hend]
    rfl
  have hread (fuel : Nat) :
      readValue (fuel + 4)
          ⟨0, .char '\x7b' :: .char '"' :: (spelled (escape name.toList ++ ['"']) ++ behindName)⟩ =
        (.object 0 (memberFields name value), some ⟨stop + 1, []⟩) := by
    have hinside : readFields (fuel + 3)
        ⟨1, .char '"' :: (spelled (escape name.toList ++ ['"']) ++ behindName)⟩ =
          readField (fuel + 2) ⟨2, spelled (escape name.toList ++ ['"']) ++ behindName⟩ := rfl
    have hbrace : readValue (fuel + 4)
        ⟨0, .char '\x7b' :: .char '"' :: (spelled (escape name.toList ++ ['"']) ++ behindName)⟩ =
          let read := readFields (fuel + 3)
            ⟨1, .char '"' :: (spelled (escape name.toList ++ ['"']) ++ behindName)⟩
          (.object 0 read.1, read.2) := rfl
    rw [hbrace, hinside, hfield]
  rw [Document.ofPieces, hpieces, hread]
  rfl

end Json

namespace Http.Client

open Json (Document)

/-- **What a request is apart from its body** does not depend on the body. -/
theorem build_body (client : Client) (method : Method) (path : String)
    (own : List (String × String)) (body : Option String) :
    client.build method path own body =
      (client.build method path own none).map fun request => { request with body } := by
  unfold build
  cases cookieHeader client.cookie with
  | error _ => rfl
  | ok cookie =>
      dsimp only
      cases Url.parse? (client.resolve path) with
      | none => rfl
      | some url =>
          dsimp only
          split <;> rfl

/-- **The body in which a command is sent** is a document with nothing behind it: an object whose
only member, repetitions counted, is the command as it was given. -/
theorem document_body (command : String) :
    ∃ members, Document.ofBytes (Dispatch.body command).text.toUTF8.toList =
        ⟨.object 0 members, none⟩ ∧
      (∀ room, members.decode room = .ok [("command", .string command)]) ∧
      (Document.ofBytes (Dispatch.body command).text.toUTF8.toList).toJson =
        .ok (.object [("command", .string command)]) := by
  have hdocument : Document.ofBytes (Dispatch.body command).text.toUTF8.toList =
      ⟨.object 0 (Json.memberFields "command" command), none⟩ := by
    rw [Document.ofBytes, Text.Utf8.pieces_toUTF8, Json.text, String.toList_ofList]
    exact Json.ofPieces_member "command" command
  refine ⟨_, hdocument, Json.memberFields_decode "command" command, ?_⟩
  rw [hdocument]
  rfl

/-- The compact text of the body: the command stands between quotation marks, escaped. -/
theorem toList_text_body (command : String) :
    (Dispatch.body command).text.toList =
      '\x7b' :: Json.quoted "command" ++ ':' :: Json.quoted command ++ ['\x7d'] := by
  rw [Json.text, String.toList_ofList]
  simp only [Dispatch.body, Json.chars, Json.memberChars, List.cons_append, List.append_assoc]

/-- **A command survives the wire.**  Whether a request is built for it is no matter of the command:
it is exactly if the path leads to an address with a host and the cookie can be shown, and another
command fails with the same error or is put into the same request, which differs in its body alone.

The body of every request that is built is the compact text of an object, in which the command
stands escaped between quotation marks.  Its bytes are a JSON document with nothing behind it, and
the only member that is read back from them, repetitions counted, is the command as it was given. -/
theorem command_survives_the_wire (client : Client) (path : String) :
    (∀ command, (∃ request, client.postRequest path (Dispatch.body command) = .ok request) ↔
      ∃ url, client.Reaches path url) ∧
    (∀ command other,
      client.postRequest path (Dispatch.body other) =
        (client.postRequest path (Dispatch.body command)).map fun request =>
          { request with body := some (Dispatch.body other).text }) ∧
    ∀ command request, client.postRequest path (Dispatch.body command) = .ok request →
      request.method = .post ∧
      ∃ body members, request.body = some body ∧
        body.toList =
          '\x7b' :: Json.quoted "command" ++ ':' :: Json.quoted command ++ ['\x7d'] ∧
        Document.ofBytes body.toUTF8.toList = ⟨.object 0 members, none⟩ ∧
        (∀ room, members.decode room = .ok [("command", .string command)]) ∧
        (Document.ofBytes body.toUTF8.toList).toJson =
          .ok (.object [("command", .string command)]) := by
  refine ⟨fun command => ?_, fun command other => ?_, fun command request hbuilt => ?_⟩
  · simp only [postRequest, build_eq_ok_iff]
    constructor
    · rintro ⟨_, url, hreaches, _⟩
      exact ⟨url, hreaches⟩
    · rintro ⟨url, hreaches⟩
      exact ⟨_, url, hreaches, rfl⟩
  · rw [postRequest, postRequest, build_body, client.build_body .post path _ (some _)]
    cases client.build .post path [("content-type", "application/json")] none <;> rfl
  · obtain ⟨url, _, rfl⟩ := build_eq_ok_iff.mp hbuilt
    obtain ⟨members, hdocument, hmembers, hjson⟩ := document_body command
    exact ⟨rfl, _, members, rfl, toList_text_body command, hdocument, hmembers, hjson⟩

/-- A name with quotation marks, a backslash, a line break, a brace and a comma in it, and one that
cannot be sent because the service has no host. -/
theorem command_survives_the_wire_quoted :
    let client : Client := { baseUrl := "http://localhost:2900/", cookie := some "sid=a" }
    let nowhere : Client := { baseUrl := "" }
    let path := "/rest/cli/command"
    let command := "new \"a\\b\"\n\x7d, \"x\": \"é"
    let request : Outgoing :=
      { method := .post
        url :=
          { scheme := "http"
            host := some "localhost"
            port := some 2900
            path := .segments ["rest", "cli", "command"] }
        headers := [("content-type", "application/json"), ("cookie", "sid=a")]
        body := some
          "\x7b\"command\":\"new \\\"a\\\\b\\\"\\n\x7d, \\\"x\\\": \\\"é\"\x7d" }
    client.postRequest path (Dispatch.body command) = .ok request ∧
    (∃ body members, request.body = some body ∧
      Document.ofBytes body.toUTF8.toList = ⟨.object 0 members, none⟩ ∧
      (Document.ofBytes body.toUTF8.toList).toJson =
        .ok (.object [("command", .string command)])) ∧
    client.postRequest path (Dispatch.body "") =
      .ok { request with body := some "\x7b\"command\":\"\"\x7d" } ∧
    nowhere.postRequest path (Dispatch.body command) = .error (.unusableUrl .post path none) ∧
    ¬ ∃ url, nowhere.Reaches path url := by
  intro client nowhere path command request
  have hbuilt : client.postRequest path (Dispatch.body command) = .ok request := by decide +kernel
  have hfailed : nowhere.postRequest path (Dispatch.body command) =
      .error (.unusableUrl .post path none) := by decide +kernel
  obtain ⟨_, hother, hbody⟩ := command_survives_the_wire client path
  obtain ⟨hbuilds, _⟩ := command_survives_the_wire nowhere path
  obtain ⟨_, body, members, hmem, _, hdocument, _, hjson⟩ := hbody command request hbuilt
  refine ⟨hbuilt, ⟨body, members, hmem, hdocument, hjson⟩, ?_, hfailed, fun hreaches => ?_⟩
  · have hempty : (Dispatch.body "").text = "\x7b\"command\":\"\"\x7d" := by decide +kernel
    rw [hother command "", hbuilt, hempty]
    rfl
  · obtain ⟨_, hposted⟩ := (hbuilds command).mpr hreaches
    rw [hfailed] at hposted
    cases hposted

end Http.Client

end WorksheetBar
