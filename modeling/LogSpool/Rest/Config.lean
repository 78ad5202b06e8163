import LogSpool.Json.Reader.Record
import LogSpool.Rest.Address

/-!
# The configuration of a server

This module holds what a server is started with, the document of it, and how starting one fails.
Unlike the other documents this one has no optional members.
-/

namespace LogSpool.Rest

/-- The most bytes of a request's body when nothing is said. -/
def defaultMaxBodySize : Nat := 64 * 1024

/-- What a server is started with. -/
structure ServerConfig where
  bindAddress : String
  /-- The most bytes of a request's body. -/
  maxBodySize : Nat
  /-- Whether pages of any origin may use the server. -/
  enableCors : Bool
  deriving Repr, DecidableEq

namespace ServerConfig

/-- The configuration for a port on all addresses of this machine. -/
def forPort (port : Nat) : ServerConfig :=
  ⟨"0.0.0.0:" ++ toString port, defaultMaxBodySize, true⟩

/-- The configuration when nothing is said. -/
def standard : ServerConfig :=
  forPort 8000

/-- The document of a configuration. -/
def document (c : ServerConfig) : Json :=
  .record [
    ("bind_address", .text c.bindAddress),
    ("max_body_size", .natural c.maxBodySize),
    ("enable_cors", .bool c.enableCors)]

/-- The members of the document. -/
def fields : List (Json.Reader.Field ServerConfig) :=
  [⟨"bind_address", true, fun c => return { c with bindAddress := ← Json.Reader.text }⟩,
    ⟨"max_body_size", true, fun c => return { c with maxBodySize := ← Json.Reader.size }⟩,
    ⟨"enable_cors", true, fun c => return { c with enableCors := ← Json.Reader.flag }⟩]

/-- Reads a configuration. -/
def ofText? (s : String) : Except Json.Fault ServerConfig :=
  Json.Reader.run (Json.Reader.record "RestServerConfig" fields standard) s

end ServerConfig

/-- Why a server could not be started. -/
inductive ListenError where
  | parseAddress (address : String)
  | bind (address : String)
  deriving Repr, DecidableEq

namespace ListenError

/-- The name of the error's kind. -/
def kind : ListenError → String
  | .parseAddress _ => "parse_address"
  | .bind _ => "bind"

/-- The text of the error. -/
def message : ListenError → String
  | .parseAddress address => "Failed to parse address " ++ address
  | .bind address => "Failed to bind " ++ address

end ListenError

/-- The address that a server listens on, if it is one that can be listened on. -/
def ServerConfig.listen (c : ServerConfig) : Except ListenError SocketAddress :=
  match SocketAddress.ofText? c.bindAddress with
  | none => .error (.parseAddress c.bindAddress)
  | some address =>
    if address.host.isOpen then .ok address else .error (.bind c.bindAddress)

end LogSpool.Rest
