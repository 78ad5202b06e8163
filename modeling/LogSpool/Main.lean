import LogSpool.Program.CommandLine

/-!
# The program

This module is the outer layer of the program: it reads the environment, the clock and the standard
input, and prints what the library says.  The shell answers line by line; everything else is decided
by `CommandLine.run` in one step.

This layer opens no connections, so that a database cannot be reached from it.
-/

namespace LogSpool.Outer

/-- Divides bytes at a separator. -/
def divide (separator : UInt8) (part : List UInt8) : List UInt8 → List (List UInt8)
  | [] => [part.reverse]
  | b :: rest =>
    if b = separator then part.reverse :: divide separator [] rest
    else divide separator (b :: part) rest

/-- A variable of the environment, if its bytes are a text with an equals sign. -/
def binding? (bytes : List UInt8) : Option (String × String) :=
  match Text.Utf8.decode bytes with
  | .error _ => none
  | .ok text =>
    match text.dropWhile (· ≠ '=') with
    | [] => none
    | _ :: value => some (String.ofList (text.takeWhile (· ≠ '=')), String.ofList value)

/-- The file that shows the environment of the process. -/
def environmentFile : String := "/proc/self/environ"

/-- The variables of the environment. -/
def readEnvironment : IO (List (String × String)) := do
  let bytes ← IO.FS.readBinFile environmentFile
  return (divide 0 [] bytes.toList).filterMap binding?

/-- The wall clock at the start of the process, from the time stamp of a file that is made for the
process, and a monotonic clock at its start. -/
def readClock : IO Clock := do
  let stamp := (← ((← IO.currentDir) / environmentFile).metadata).modified
  return ⟨stamp.sec * 1000000 + stamp.nsec.toNat / 1000, 0⟩

/-- The clock after some time. -/
def clockAfter (start : Clock) (startMicros : Nat) : IO Clock := do
  return start.advance ((← IO.monoNanosNow) / 1000 - startMicros)

/-- A database server that cannot be reached. -/
def noDatabase : Postgres.Server :=
  ⟨.down, none, fun _ => none, []⟩

/-- Prints how the program ends. -/
def leave (exit : Exit) : IO UInt32 := do
  (← IO.getStdout).putStr exit.output
  (← IO.getStderr).putStr exit.errors
  return exit.code.toUInt32

/-- The bytes up to the last line feed, and the bytes after it. -/
def completeLines (bytes : List UInt8) : List UInt8 × List UInt8 :=
  let rest := bytes.reverse.takeWhile (· ≠ 0x0A)
  (bytes.take (bytes.length - rest.length), rest.reverse)

/-- Reads the standard input, and answers lines as they are completed. -/
partial def converse (source : String) (start : Clock) (startMicros : Nat) (begun : List UInt8)
    (e : Engine ProgramSink) : IO (Shell.Transcript × Engine ProgramSink) := do
  let chunk ← (← IO.getStdin).read 4096
  let bytes := begun ++ chunk.toList
  let (complete, rest) := if chunk.isEmpty then (bytes, []) else completeLines bytes
  let e := { e with station := { e.station with clock := ← clockAfter start startMicros } }
  let (transcript, e) := Shell.runLines source (Text.lines complete) e
  (← IO.getStdout).putStr (Shell.joinLines transcript.output)
  (← IO.getStderr).putStr (Shell.joinLines transcript.errors)
  (← IO.getStdout).flush
  if transcript.ending = .exhausted ∧ chunk.isEmpty = false then
    converse source start startMicros rest e
  else return (.ended transcript.ending, e)

/-- Runs the shell. -/
def runShell (environment : List (String × String)) (source : String) : IO UInt32 := do
  let start ← readClock
  let startMicros := (← IO.monoNanosNow) / 1000
  match CommandLine.prepare environment with
  | .error exit => leave exit
  | .ok config =>
    match CommandLine.openEngine ⟨environment, [], noDatabase, start⟩ config with
    | .error exit => leave exit
    | .ok e => do
      (← IO.getStdout).putStrLn Shell.banner
      let (transcript, e) ← converse source start startMicros [] e
      let (_, _) := e.shutdown
      leave (CommandLine.exitOf transcript)

end LogSpool.Outer

/-- Runs the program on the arguments of its command line. -/
def main (arguments : List String) : IO UInt32 := do
  let environment ← LogSpool.Outer.readEnvironment
  match LogSpool.Invocation.ofArguments? arguments with
  | some (.shell source) => LogSpool.Outer.runShell environment source
  | _ => do
    let start ← LogSpool.Outer.readClock
    LogSpool.Outer.leave
      (LogSpool.CommandLine.run arguments
        ⟨environment, [], LogSpool.Outer.noDatabase, start⟩)
