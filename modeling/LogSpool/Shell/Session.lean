import LogSpool.Engine.Basic
import LogSpool.Shell.Line
import LogSpool.Text.Lines
import LogSpool.Text.Utf8

/-!
# Sessions of the shell

This module runs the lines of an input against an engine.  What a line makes the shell say goes to
the output or, for errors, to the error output; an error of the engine does not end the session.
The session ends at `quit`, at the end of the input, at the first line that is no text, or where a
call to the engine had to be given up.
-/

namespace LogSpool.Shell

/-- What the shell says when a session begins. -/
def banner : String :=
  "Log Engine CLI started.
Commands:
  LEVEL|SOURCE|MESSAGE  -> enqueue log
  process               -> process queue batch
  metrics               -> show metrics
  pending               -> show pending queue
  quit                  -> shutdown
"

/-- What the shell does about a line. -/
inductive Reaction where
  | silent
  /-- A line on the output. -/
  | say (line : String)
  /-- A line on the error output. -/
  | complain (line : String)
  | leave
  /-- The engine did not answer. -/
  | giveUp
  deriving Repr, DecidableEq

/-- The document of a batch that the shell ran. -/
def batchDocument (r : BatchReport) : Json :=
  .record [
    ("elapsed_ms", .float r.elapsedMs),
    ("processed", .natural r.processed),
    ("status", .text "ok")]

/-- The reaction to an answer of the engine. -/
def Reaction.ofExcept {α : Type} (what : String) (document : α → Json) :
    Except EngineError α → Reaction
  | .ok a => .say (document a).write
  | .error why => .complain (what ++ " failed: " ++ why.message)

/-- Carries out a command. -/
def perform {σ : Type} [Sink σ] (command : Command) (e : Engine σ) : Reaction × Engine σ :=
  match command with
  | .skip => (.silent, e)
  | .quit => (.leave, e)
  | .invalid => (.complain "Invalid input. Expected LEVEL|SOURCE|MESSAGE", e)
  | .metrics => (.ofExcept "metrics" Report.document e.report, e)
  | .pending => (.ofExcept "pending" Preview.document e.pending, e)
  | .process =>
    match e.process 0 with
    | (.answered report, e) => (.say (batchDocument report).write, e)
    | (.failed why, e) => (.complain ("process failed: " ++ why.message), e)
    | (.abandoned, e) => (.giveUp, e)
  | .add fields =>
    match e.addLog fields with
    | (.answered _, e) => (.silent, e)
    | (.failed why, e) => (.complain ("enqueue failed: " ++ why.message), e)
    | (.abandoned, e) => (.giveUp, e)

/-- How a session ended. -/
inductive Ending where
  /-- There were no more lines. -/
  | exhausted
  /-- A line asked for the end. -/
  | left
  /-- A line was no text. -/
  | unreadable (why : Text.Utf8.Flaw)
  /-- The engine did not answer. -/
  | stuck
  deriving Repr, DecidableEq

/-- What a session said, line by line, and how it ended. -/
structure Transcript where
  output : List String
  errors : List String
  ending : Ending
  deriving Repr, DecidableEq

namespace Transcript

/-- A session that said nothing. -/
def ended (ending : Ending) : Transcript :=
  ⟨[], [], ending⟩

/-- A transcript with one more line of output in front. -/
def say (line : String) (t : Transcript) : Transcript :=
  { t with output := line :: t.output }

/-- A transcript with one more line of errors in front. -/
def complain (line : String) (t : Transcript) : Transcript :=
  { t with errors := line :: t.errors }

end Transcript

/-- Runs lines of bytes one after the other. -/
def runLines {σ : Type} [Sink σ] (defaultSource : String) :
    List (List UInt8) → Engine σ → Transcript × Engine σ
  | [], e => (.ended .exhausted, e)
  | line :: rest, e =>
    match Text.Utf8.decode line with
    | .error flaw => (.ended (.unreadable flaw), e)
    | .ok text =>
      match perform (.ofLine defaultSource (String.ofList text)) e with
      | (.leave, e) => (.ended .left, e)
      | (.giveUp, e) => (.ended .stuck, e)
      | (.silent, e) => runLines defaultSource rest e
      | (.say said, e) =>
        let (transcript, e) := runLines defaultSource rest e
        (transcript.say said, e)
      | (.complain said, e) =>
        let (transcript, e) := runLines defaultSource rest e
        (transcript.complain said, e)

/-- Runs a session on an input. -/
def run {σ : Type} [Sink σ] (defaultSource : String) (input : List UInt8) (e : Engine σ) :
    Transcript × Engine σ :=
  let (transcript, e) := runLines defaultSource (Text.lines input) e
  (transcript.say banner, e)

/-- Lines as one text, each with its ending. -/
def joinLines (lines : List String) : String :=
  String.join (lines.map (· ++ "\n"))

end LogSpool.Shell
