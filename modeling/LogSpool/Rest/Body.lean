import LogSpool.Entry
import LogSpool.Json.Reader.Record
import LogSpool.Rest.Message
import LogSpool.Text.Blank

/-!
# Bodies of requests

This module reads the bodies of the two requests that have one.  A new entry must be declared as
JSON; a request for a batch need not be, and may have an empty body.  A body longer than the
server's limit is not looked at.
-/

namespace LogSpool.Rest

/-- The reason for refusing a body that is too long. -/
def tooLongReason : String :=
  "Failed to buffer the request body: length limit exceeded"

/-- The members of a new entry's document. -/
def entryFields : List (Json.Reader.Field Fields) :=
  [⟨"level", false, fun f => return { f with level := ← Json.Reader.text }⟩,
    ⟨"source", false, fun f => return { f with source := ← Json.Reader.text }⟩,
    ⟨"message", true, fun f => return { f with message := ← Json.Reader.text }⟩]

/-- Reads a new entry; a level or a source that is left out is empty. -/
def entryReader : Json.Reader Fields :=
  Json.Reader.record "LogRequest" entryFields ⟨"", "", ""⟩

/-- Reads the size of a batch; zero, also if it is left out, means the configured one. -/
def batchReader : Json.Reader Nat :=
  Json.Reader.record "ProcessRequest" [⟨"max_items", false, fun _ => Json.Reader.size⟩] 0

/-- Reads bytes as a document. -/
def readBytes {α : Type} (r : Json.Reader α) (bytes : List UInt8) : Except Json.Fault α :=
  match Text.Utf8.decode bytes with
  | .ok text => Json.Reader.run r (String.ofList text)
  | .error flaw => .error ⟨.invalidCharacter, ⟨1, flaw.index + 1⟩, []⟩

/-- Whether a content type is the one of JSON, or of a format that is written in it. -/
def isJsonType (contentType : String) : Bool :=
  let essence := (contentType.toList.takeWhile (· ≠ ';')).map Char.toLower
  let essence := Text.trim essence
  let main := essence.takeWhile (· ≠ '/')
  let sub := (essence.dropWhile (· ≠ '/')).drop 1
  main = "application".toList && (sub = "json".toList || "+json".toList.isSuffixOf sub)

/-- Where in a document a fault is, if it is inside a member. -/
def placeOf (fault : Json.Fault) : String :=
  if fault.path.isEmpty then "" else String.intercalate "." fault.path ++ ": "

/-- The reason for refusing a document. -/
def documentReason (fault : Json.Fault) : String :=
  (if fault.complaint.isAboutMeaning then
    "Failed to deserialize the JSON body into the target type: "
  else "Failed to parse the request body as JSON: ") ++ placeOf fault ++ fault.message

/-- The new entry in a request, or the reason for refusing it. -/
def entryOf (maxBodySize : Nat) (r : Request) : Except String Fields :=
  if !(r.header? "content-type").any isJsonType then
    .error "Expected request with `Content-Type: application/json`"
  else if maxBodySize < r.body.length then .error tooLongReason
  else (readBytes entryReader r.body).mapError documentReason

/-- The size of the batch that a request asks for, or the reason for refusing it. -/
def batchOf (r : Request) : Except String Nat :=
  if r.body.all Text.isBlankByte then .ok 0
  else (readBytes batchReader r.body).mapError Json.Fault.message

end LogSpool.Rest
