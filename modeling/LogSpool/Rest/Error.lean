import LogSpool.Fault.Engine
import LogSpool.Json.Document

/-!
# Errors of requests

This module holds the errors that a request is answered with, and their document.  An error of the
engine is passed on as it is; its document names the deepest cause.
-/

namespace LogSpool.Rest

/-- An error of a request. -/
inductive RequestError where
  | engine (why : EngineError)
  | invalidBody (reason : String)
  /-- The metrics could not be written. -/
  | encode (reason : String)
  deriving Repr, DecidableEq

namespace RequestError

/-- The code that the error's document carries. -/
def code : RequestError → String
  | .engine why => why.kind.name
  | .invalidBody _ => ErrorKind.validationError.name
  | .encode _ => "internal"

/-- The class of the error. -/
def status : RequestError → Status
  | .engine why => why.kind.status
  | .invalidBody _ => .invalidArgument
  | .encode _ => .internal

/-- The text of the error itself. -/
def text : RequestError → String
  | .engine why => why.message
  | .invalidBody reason => "Invalid request body: " ++ reason
  | .encode _ => "Failed to encode metrics"

/-- What the error was caused by. -/
def cause : RequestError → Option Cause
  | .engine why => why.cause
  | .invalidBody _ => none
  | .encode reason => some ⟨"Error: " ++ reason, []⟩

/-- The error in the general shape of a failure. -/
def trouble (e : RequestError) : Trouble :=
  .single e.status e.text e.cause

/-- The message of the error's document. -/
def message : RequestError → String
  | .engine why => why.outputMessage
  | other => other.text

/-- The document of the error. -/
def document (e : RequestError) : Json :=
  .record [("code", .text e.code), ("message", .text e.message)]

end RequestError

end LogSpool.Rest
