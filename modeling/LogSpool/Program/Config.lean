import LogSpool.Engine.Config
import LogSpool.Logging.Options
import LogSpool.Postgres.Config
import LogSpool.Program.Choice
import LogSpool.Settings.Reading
import LogSpool.Sink.Memory

/-!
# The configuration of a program

This module holds everything that one process of the program is configured by, its document, and
the two ways to read it: from a document, and from a tree of settings.  A member that is left out
has its standard value, and a member that is not known is ignored.
-/

namespace LogSpool

/-- The configuration of a process. -/
structure ProgramConfig where
  engine : EngineConfig
  logLevel : LogLevel
  /-- The directory of log files; none are written if it is empty. -/
  logDir : String
  logFormat : Logging.Format
  sink : SinkKind
  /-- How many records of a kind a memory sink keeps. -/
  memoryRetention : Nat
  dbHost : String
  dbPort : Nat
  dbName : String
  dbUser : String
  dbPassword : String
  /-- In seconds. -/
  dbConnectTimeout : Nat
  apiPort : Nat
  deriving Repr, DecidableEq

namespace ProgramConfig

/-- The configuration when nothing is said. -/
def standard : ProgramConfig where
  engine := .standard
  logLevel := .standard
  logDir := ""
  logFormat := .standard
  sink := .postgres
  memoryRetention := defaultRetention
  dbHost := Postgres.Connection.standard.host
  dbPort := Postgres.Connection.standard.port
  dbName := Postgres.Connection.standard.database
  dbUser := Postgres.Connection.standard.user
  dbPassword := Postgres.Connection.standard.password
  dbConnectTimeout := Postgres.Connection.standard.connectTimeout
  apiPort := 8000

/-- The document of a configuration. -/
def document (c : ProgramConfig) : Json :=
  .record (c.engine.members ++ [
    ("log_level", .text c.logLevel.name),
    ("log_dir", .text c.logDir),
    ("log_format", .text c.logFormat.name),
    ("sink", .text c.sink.name),
    ("memory_retention", .natural c.memoryRetention),
    ("db_host", .text c.dbHost),
    ("db_port", .natural c.dbPort),
    ("db_name", .text c.dbName),
    ("db_user", .text c.dbUser),
    ("db_password", .text c.dbPassword),
    ("db_connect_timeout", .natural c.dbConnectTimeout),
    ("api_port", .natural c.apiPort)])

/-- The connection to the database. -/
def connection (c : ProgramConfig) : Postgres.Connection :=
  { Postgres.Connection.standard with
    host := c.dbHost
    port := c.dbPort
    database := c.dbName
    user := c.dbUser
    password := c.dbPassword
    connectTimeout := c.dbConnectTimeout }

/-- The options of logging. -/
def logging (c : ProgramConfig) : Logging.Options :=
  { Logging.Options.standard with
    dir := c.logDir
    level := some c.logLevel.filter
    format := c.logFormat }

/-! ### Reading a document -/

/-- The members of the document; each may be left out. -/
def fields : List (Json.Reader.Field ProgramConfig) :=
  EngineConfig.fields.map
      (Json.Reader.Field.within ProgramConfig.engine fun engine c => { c with engine }) ++
    [⟨"log_level", false, fun c => return { c with logLevel := ← LogLevel.reader }⟩,
      ⟨"log_dir", false, fun c => return { c with logDir := ← Json.Reader.text }⟩,
      ⟨"log_format", false, fun c => return { c with logFormat := ← Logging.Format.reader }⟩,
      ⟨"sink", false, fun c => return { c with sink := ← SinkKind.reader }⟩,
      ⟨"memory_retention", false, fun c => return { c with memoryRetention := ← Json.Reader.size }⟩,
      ⟨"db_host", false, fun c => return { c with dbHost := ← Json.Reader.text }⟩,
      ⟨"db_port", false, fun c => return { c with dbPort := ← Json.Reader.unsigned 16 "u16" }⟩,
      ⟨"db_name", false, fun c => return { c with dbName := ← Json.Reader.text }⟩,
      ⟨"db_user", false, fun c => return { c with dbUser := ← Json.Reader.text }⟩,
      ⟨"db_password", false, fun c => return { c with dbPassword := ← Json.Reader.text }⟩,
      ⟨"db_connect_timeout", false,
        fun c => return { c with dbConnectTimeout := ← Json.Reader.unsigned 64 "u64" }⟩,
      ⟨"api_port", false, fun c => return { c with apiPort := ← Json.Reader.unsigned 16 "u16" }⟩]

/-- Reads a configuration from a document. -/
def ofText? (s : String) : Except Json.Fault ProgramConfig :=
  Json.Reader.run (Json.Reader.record "AppConfig" fields standard) s

/-! ### Reading settings -/

open Settings (Misfit Tree Value)

/-- A setting: its name, and how its value is stored. -/
structure Setting where
  key : String
  store : String → Value → ProgramConfig → Except Misfit ProgramConfig

/-- Every setting, in the order in which settings are read. -/
def settings : List Setting :=
  [⟨"buffer_capacity", fun key v c =>
      return { c with engine.bufferCapacity := ← v.natural? key }⟩,
    ⟨"auto_process_threshold", fun key v c =>
      return { c with engine.autoProcessThreshold := ← v.natural? key }⟩,
    ⟨"process_batch_size", fun key v c =>
      return { c with engine.processBatchSize := ← v.natural? key }⟩,
    ⟨"pending_preview_limit", fun key v c =>
      return { c with engine.pendingPreviewLimit := ← v.natural? key }⟩,
    ⟨"log_level", fun key v c => return { c with logLevel := .ofSetting (← v.text? key) }⟩,
    ⟨"log_dir", fun key v c => return { c with logDir := ← v.text? key }⟩,
    ⟨"log_format", fun _ v c =>
      return { c with logFormat := ← v.choice? "LogFormat" Logging.Format.named }⟩,
    ⟨"sink", fun _ v c => return { c with sink := ← v.choice? "SinkKind" SinkKind.named }⟩,
    ⟨"memory_retention", fun key v c => return { c with memoryRetention := ← v.natural? key }⟩,
    ⟨"db_host", fun key v c => return { c with dbHost := ← v.text? key }⟩,
    ⟨"db_port", fun key v c => return { c with dbPort := ← v.natural16? key }⟩,
    ⟨"db_name", fun key v c => return { c with dbName := ← v.text? key }⟩,
    ⟨"db_user", fun key v c => return { c with dbUser := ← v.text? key }⟩,
    ⟨"db_password", fun key v c => return { c with dbPassword := ← v.text? key }⟩,
    ⟨"db_connect_timeout", fun key v c =>
      return { c with dbConnectTimeout := ← v.natural? key }⟩,
    ⟨"api_port", fun key v c => return { c with apiPort := ← v.natural16? key }⟩]

/-- Stores what a tree says about one setting. -/
def Setting.read (tree : Tree) (c : ProgramConfig) (s : Setting) : Except Misfit ProgramConfig :=
  match tree.find? s.key with
  | none => .ok c
  | some v => s.store s.key v c

/-- The configuration of a tree of settings. -/
def ofTree (tree : Tree) : Except Misfit ProgramConfig :=
  settings.foldlM (Setting.read tree) standard

end ProgramConfig

end LogSpool
