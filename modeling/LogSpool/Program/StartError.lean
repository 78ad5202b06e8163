import LogSpool.Fault.Engine
import LogSpool.Postgres.Session
import LogSpool.Settings.Reading

/-!
# Errors of starting

This module holds the errors that keep a program from starting: a configuration that cannot be
read, one that makes no sense, and a sink that cannot be opened.
-/

namespace LogSpool

/-- Why a configuration could not be read. -/
inductive LoadFault where
  /-- The document is no TOML. -/
  | unreadable
  | misfit (why : Settings.Misfit)
  deriving Repr, DecidableEq

/-- The text of a load fault. -/
def LoadFault.message : LoadFault → String
  | .unreadable => "the document cannot be read"
  | .misfit why => why.message

/-- An error of starting. -/
inductive StartError where
  | loadConfig (why : LoadFault)
  | invalidConfig (reason : String)
  | connectSink (why : Postgres.ConnectError)
  deriving Repr, DecidableEq

namespace StartError

/-- The name of the error's kind. -/
def kind : StartError → String
  | .loadConfig _ => "load_config"
  | .invalidConfig _ => "invalid_config"
  | .connectSink _ => "connect_sink"

/-- The class of the error. -/
def status : StartError → Status
  | .loadConfig _ | .invalidConfig _ => .invalidArgument
  | .connectSink _ => .unavailable

/-- The text of the error itself. -/
def message : StartError → String
  | .loadConfig _ => "Failed to load configuration"
  | .invalidConfig reason => "Invalid configuration: " ++ reason
  | .connectSink _ => "Failed to open the postgres sink"

/-- What the error was caused by. -/
def cause : StartError → Option Cause
  | .loadConfig why => some ⟨why.message, []⟩
  | .invalidConfig _ => none
  | .connectSink why => some why.asCause

/-- The error in the general shape of a failure. -/
def trouble (e : StartError) : Trouble :=
  .single e.status e.message e.cause

/-- The message for a client. -/
def outputMessage (e : StartError) : String :=
  e.trouble.outputMessage

/-- An error of the engine while it is set up is an error of its configuration. -/
def ofEngine (why : EngineError) : StartError :=
  .invalidConfig why.message

end StartError

end LogSpool
