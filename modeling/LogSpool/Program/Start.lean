import LogSpool.Engine.Basic
import LogSpool.Program.Config
import LogSpool.Program.StartError
import LogSpool.Settings.Environment
import LogSpool.Settings.Path
import LogSpool.Sink.Memory
import LogSpool.Toml.Document

/-!
# Starting

This module brings an engine up.  The configuration is put together from a document, if there is
one, and the environment, which goes over it; the sink is the one that the configuration names.
A configuration that makes no sense is refused before anything is connected to.
-/

namespace LogSpool

/-- The configuration of an engine in range, as an error of starting otherwise. -/
def ProgramConfig.normalEngine (c : ProgramConfig) : Except StartError EngineConfig :=
  c.engine.normalize.mapError .ofEngine

/-- Reads a configuration from an environment over an optional document. -/
def ProgramConfig.load (document : Option String) (environment : List (String × String)) :
    Except StartError ProgramConfig := do
  let below ← match document with
    | none => pure []
    | some text =>
      match Toml.read? text with
      | some settings => pure settings
      | none => throw (.loadConfig .unreadable)
  let tree := Settings.Tree.ofLayers [below, Settings.ofEnvironment environment]
  let c ← (ofTree tree).mapError (.loadConfig ∘ .misfit)
  let _ ← c.normalEngine
  pure c

/-- The sinks that a configuration can name. -/
inductive ProgramSink where
  | memory (s : MemorySink)
  | postgres (s : Postgres.Session)

namespace ProgramSink

/-- Answers a call. -/
def answer (call : Call) : ProgramSink → Answer × ProgramSink
  | .memory s =>
    let (answer, s) := s.answer call
    (answer, .memory s)
  | .postgres s =>
    let (answer, s) := s.answer call
    (answer, .postgres s)

/-- Closes the sink. -/
def close : ProgramSink → ProgramSink
  | .memory s => .memory (Sink.close s)
  | .postgres s => .postgres (Sink.close s)

instance : Sink ProgramSink where
  receive _ s := (.none, s)
  settle := answer
  close := close

end ProgramSink

/-- An engine over a sink; a configuration that makes no sense is an error of starting. -/
def Engine.start {σ : Type} (config : EngineConfig) (sink : σ) (clock : Clock) :
    Except StartError (Engine σ) :=
  (Engine.withSink config sink clock).mapError .ofEngine

/-- An engine over a session with a server.  The connection is the first event of its journal. -/
def Engine.startConnected (c : ProgramConfig) (session : Postgres.Session) (clock : Clock) :
    Except StartError (Engine ProgramSink) := do
  let e ← Engine.start c.engine (.postgres session) clock
  let connected : Event := .connected c.dbHost c.dbName
  pure { e with station := { e.station with journal := e.station.journal ++ [connected] } }

/-- Opens the sink that a configuration names, and an engine over it.  The server is given back as
far as it was used before the engine took it over. -/
def ProgramConfig.startEngine (c : ProgramConfig) (server : Postgres.Server) (clock : Clock) :
    Except StartError (Engine ProgramSink) × Postgres.Server :=
  match c.normalEngine with
  | .error why => (.error why, server)
  | .ok _ =>
    match c.sink with
    | .memory =>
      (Engine.start c.engine (.memory (.withRetention c.memoryRetention)) clock, server)
    | .postgres =>
      match server.connect c.connection with
      | (.error why, server) => (.error (.connectSink why), server)
      | (.ok session, server) => (Engine.startConnected c session clock, server)

end LogSpool
