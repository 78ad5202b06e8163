import LogSpool.Json.Document
import LogSpool.Text.Quoted

/-!
# Connections to PostgreSQL

This module holds what a connection to a PostgreSQL server is made with.  The description of a
connection for logs leaves out the password; the document holds it.
-/

namespace LogSpool.Postgres

/-- What a connection is made with.  The timeout is in seconds. -/
structure Connection where
  host : String
  port : Nat
  database : String
  user : String
  password : String
  connectTimeout : Nat
  maxConnections : Nat
  deriving Repr, DecidableEq

namespace Connection

/-- A connection to a server on the same machine. -/
def standard : Connection :=
  ⟨"127.0.0.1", 5432, "log_engine", "log_engine", "log_engine", 5, 4⟩

/-- Whole seconds in a description. -/
def describeSeconds (n : Nat) : String :=
  if n = 0 then "0ns" else toString n ++ "s"

/-- The description of a connection, without its password. -/
def describe (c : Connection) : String :=
  "PostgresConfig \x7b host: " ++ Text.quote c.host ++ ", port: " ++ toString c.port ++
    ", database: " ++ Text.quote c.database ++ ", user: " ++ Text.quote c.user ++
    ", connect_timeout: " ++ describeSeconds c.connectTimeout ++ ", max_connections: " ++
    toString c.maxConnections ++ ", .. \x7d"

/-- The document of a connection. -/
def document (c : Connection) : Json :=
  .record [
    ("host", .text c.host),
    ("port", .natural c.port),
    ("database", .text c.database),
    ("user", .text c.user),
    ("password", .text c.password),
    ("connect_timeout",
      .record [("secs", .natural c.connectTimeout), ("nanos", .natural 0)]),
    ("max_connections", .natural c.maxConnections)]

end Connection

end LogSpool.Postgres
