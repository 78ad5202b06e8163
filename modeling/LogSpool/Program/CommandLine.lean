import LogSpool.Logging.Installation
import LogSpool.Program.HelpText
import LogSpool.Program.Start
import LogSpool.Rest.Config
import LogSpool.Shell.Session

/-!
# The command line

This module runs the program on its arguments, its environment and its input, and says what it
prints and how it exits.  Refused arguments exit with 2; a configuration, a logger, a sink, a
listener or an input that fails exits with 1.  The arguments are looked at before anything else.

The clock stands still during a run, and a server gets no request: what the program does with time
and with the network is left to the outer layer.
-/

namespace LogSpool

/-- How the program ends: its exit code, and the texts on the output and on the error output. -/
structure Exit where
  code : Nat
  output : String
  errors : String
  deriving Repr, DecidableEq

/-- The surroundings of a run. -/
structure Surroundings where
  environment : List (String × String)
  input : List UInt8
  /-- The database server that a configuration may name. -/
  database : Postgres.Server
  clock : Clock

namespace CommandLine

/-- The line that names the program and its version. -/
def versionLine : String := "logbuf 0.1.0-unofficial"

/-- The line that the shell ends with. -/
def farewell : String := "Shutdown complete."

/-- Exits because something failed, with what was printed before. -/
def fail (output : String) (errors : List String) (what : String) : Exit :=
  ⟨1, output, Shell.joinLines (errors ++ ["Error: " ++ what])⟩

/-- The configuration and the logger of a process; its failure as an exit.  The configuration names
the log filter, so that no other one counts. -/
def prepare (environment : List (String × String)) : Except Exit ProgramConfig := do
  let config ← (ProgramConfig.load none environment).mapError
    fun why => fail "" [] why.outputMessage
  (Logging.install config.logging none false).mapError
    fun why => fail "" [] ("Failed to initialize logging: " ++ why.message)
  pure config

/-- An engine for a process; its failure as an exit. -/
def openEngine (s : Surroundings) (config : ProgramConfig) : Except Exit (Engine ProgramSink) :=
  (config.startEngine s.database s.clock).1.mapError
    fun why => fail "" [] ("Failed to open log engine: " ++ why.outputMessage)

/-- How the shell exits after a session.  The engine has been shut down by then. -/
def exitOf (t : Shell.Transcript) : Exit :=
  match t.ending with
  | .exhausted | .left =>
    ⟨0, Shell.joinLines (t.output ++ [farewell]), Shell.joinLines t.errors⟩
  | .unreadable why =>
    fail (Shell.joinLines t.output) t.errors ("Failed to read stdin: " ++ why.message)
  | .stuck => fail (Shell.joinLines t.output) t.errors "The engine did not answer"

/-- Runs the shell. -/
def runShell (s : Surroundings) (source : String) : Except Exit Exit := do
  let config ← prepare s.environment
  let e ← openEngine s config
  let (transcript, e) := Shell.run source s.input e
  let (_, _) := e.shutdown
  pure (exitOf transcript)

/-- Runs the server until its signal, which comes at once. -/
def runServer (s : Surroundings) (port : Option Nat) : Except Exit Exit := do
  let config ← prepare s.environment
  let e ← openEngine s config
  let _ ← (Rest.ServerConfig.forPort (port.getD config.apiPort)).listen.mapError
    fun why => fail "" [] ("Failed to start REST server: " ++ why.message)
  let (_, _) := e.shutdown
  pure ⟨0, "", ""⟩

/-- Either way of ending a run. -/
def either : Except Exit Exit → Exit
  | .ok exit | .error exit => exit

/-- Runs the program. -/
def run (arguments : List String) (s : Surroundings) : Exit :=
  match Invocation.ofArguments? arguments with
  | none => ⟨2, "", HelpTopic.program.text⟩
  | some .version => ⟨0, Shell.joinLines [versionLine], ""⟩
  | some (.help topic) => ⟨0, topic.text, ""⟩
  | some (.shell source) => either (runShell s source)
  | some (.server port) => either (runServer s port)

end CommandLine

end LogSpool
