import LogSpool.Json.Document
import LogSpool.Text.Utf8

/-!
# Requests and responses

This module holds the messages of the server, as far as its routes look at them or decide them.
Names of headers are in lower case.
-/

namespace LogSpool.Rest

/-- A request. -/
structure Request where
  method : String
  /-- The target of the request, with its query if it has one. -/
  target : String
  headers : List (String × String)
  body : List UInt8

/-- A response. -/
structure Response where
  status : Nat
  headers : List (String × String)
  body : String
  deriving Repr, DecidableEq

namespace Request

/-- The path of the target, without the query. -/
def path (r : Request) : String :=
  String.ofList (r.target.toList.takeWhile (· ≠ '?'))

/-- The first header of a name. -/
def header? (r : Request) (name : String) : Option String :=
  r.headers.lookup name

end Request

namespace Response

/-- A response that carries a document. -/
def ofDocument (status : Nat) (document : Json) : Response :=
  ⟨status, [("content-type", "application/json")], document.write⟩

/-- A response that carries a plain text. -/
def ofText (status : Nat) (text : String) : Response :=
  ⟨status, [("content-type", "text/plain; charset=utf-8")], text⟩

/-- A response without a body. -/
def empty (status : Nat) (headers : List (String × String)) : Response :=
  ⟨status, headers, ""⟩

/-- The response with the length of its body among the headers. -/
def measured (r : Response) : Response :=
  { r with headers := r.headers ++ [("content-length", toString r.body.utf8ByteSize)] }

end Response

end LogSpool.Rest
