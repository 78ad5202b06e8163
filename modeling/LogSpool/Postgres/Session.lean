import LogSpool.Network
import LogSpool.Postgres.Config
import LogSpool.Postgres.Statement

/-!
# Sessions with a PostgreSQL server

This module holds the sink that writes to a PostgreSQL server.  A server is described by what it
refuses: the connection itself, or statements by their number, counted from zero over the whole
session.  It keeps every statement that reaches it, with the refusal if there was one.

A session starts with the connection and the creation of both tables.  After it was closed no
statement reaches the server any more.  What the server's tables hold is not described here.
-/

namespace LogSpool.Postgres

/-- A statement that reached the server. -/
structure Executed where
  statement : Statement
  refusal : Option String

/-- A server and the way to it. -/
structure Server where
  network : Network
  /-- The text that every connection is refused with, if there is one. -/
  refusesConnection : Option String
  /-- The text that the statement of a number is refused with, if there is one. -/
  refusesStatement : Nat → Option String
  /-- What has been executed, the latest first. -/
  executed : List Executed

/-- A session with a server. -/
structure Session where
  server : Server
  isClosed : Bool

/-- Why a session could not be started. -/
inductive ConnectError where
  | connect (host : String) (port : Nat) (why : Cause)
  | schema (table : String) (why : Cause)
  deriving Repr, DecidableEq

namespace ConnectError

/-- The name of the error's kind. -/
def kind : ConnectError → String
  | .connect _ _ _ => "connect"
  | .schema _ _ => "schema"

/-- The text of the error itself. -/
def message : ConnectError → String
  | .connect host port _ => "Failed to connect to postgres at " ++ host ++ ":" ++ toString port
  | .schema table _ => "Failed to create table " ++ table

/-- What the error was caused by. -/
def why : ConnectError → Cause
  | .connect _ _ why | .schema _ why => why

/-- The error as a cause of another one. -/
def asCause (e : ConnectError) : Cause :=
  ⟨e.message, e.why.chain⟩

end ConnectError

/-- A refusal by the server, as a cause. -/
def refusalCause (text : String) : Cause :=
  ⟨"error returned from database: " ++ text, [text]⟩

/-- A fault of the network, as a cause. -/
def networkCause (text : String) : Cause :=
  ⟨"error communicating with database: " ++ text, [text]⟩

/-- The cause of every failure after the session was closed. -/
def closedCause : Cause :=
  ⟨"attempted to acquire a connection on a closed pool", []⟩

/-- Executes a statement; answers with the text it was refused with, if it was. -/
def Server.execute (statement : Statement) (s : Server) : Option String × Server :=
  let refusal := s.refusesStatement s.executed.length
  (refusal, { s with executed := ⟨statement, refusal⟩ :: s.executed })

/-- Creates a table, or says why not. -/
def Server.create (table : String) (statement : Statement) (s : Server) :
    Except ConnectError Unit × Server :=
  match s.execute statement with
  | (none, s) => (.ok (), s)
  | (some text, s) => (.error (.schema table (refusalCause text)), s)

/-- Starts a session.  The server is given back whether the session starts or not. -/
def Server.connect (c : Connection) (s : Server) : Except ConnectError Session × Server :=
  match s.network.fault? with
  | some text => (.error (.connect c.host c.port (networkCause text)), s)
  | none =>
    match s.refusesConnection with
    | some text => (.error (.connect c.host c.port (refusalCause text)), s)
    | none =>
      match s.create "processed_logs" .createLogs with
      | (.error why, s) => (.error why, s)
      | (.ok (), s) =>
        match s.create "processing_metrics" .createMetrics with
        | (.error why, s) => (.error why, s)
        | (.ok (), s) => (.ok ⟨s, false⟩, s)

/-- Answers a call by the statement that belongs to it. -/
def Session.answer (call : Call) (s : Session) : Answer × Session :=
  if s.isClosed then (.refused (.backend call.operation closedCause), s)
  else
    match s.server.execute (.ofCall call) with
    | (none, server) => (.accepted, { s with server })
    | (some text, server) =>
      (.refused (.backend call.operation (refusalCause text)), { s with server })

instance : Sink Session where
  receive _ s := (.none, s)
  settle := Session.answer
  close s := { s with isClosed := true }

end LogSpool.Postgres
