import LogSpool.Entry
import LogSpool.Text.Blank

/-!
# Lines of the shell

This module reads one line of the shell.  A line is one of four words, or an entry whose level,
source and message are separated by bars.  Blanks around the line and around each part do not
count.  Only the first two bars separate: the message keeps the others.
-/

namespace LogSpool.Shell

/-- What a line asks for. -/
inductive Command where
  /-- A blank line asks for nothing. -/
  | skip
  | quit
  | process
  | metrics
  | pending
  | add (fields : Fields)
  /-- The line is no command. -/
  | invalid
  deriving Repr, DecidableEq

/-- The text before the first bar, and the text after it if there is one. -/
def cutAtBar : List Char → List Char × Option (List Char)
  | [] => ([], none)
  | c :: rest =>
    if c = '|' then ([], some rest)
    else
      let (before, after) := cutAtBar rest
      (c :: before, after)

/-- A part of a line, or the default if nothing is in it. -/
def partOr (default : String) (part : List Char) : String :=
  if (Text.trim part).isEmpty then default else String.ofList (Text.trim part)

/-- An entry written with bars.  A line without two bars, or without a message, is none. -/
def entryOf (defaultSource : String) (line : List Char) : Command :=
  match cutAtBar line with
  | (_, none) => .invalid
  | (level, some rest) =>
    match cutAtBar rest with
    | (_, none) => .invalid
    | (source, some message) =>
      if (Text.trim message).isEmpty then .invalid
      else .add ⟨partOr defaultLevel level, partOr defaultSource source,
        String.ofList (Text.trim message)⟩

/-- Reads a line.  An empty level is the default level, and an empty source is
`defaultSource`. -/
def Command.ofLine (defaultSource : String) (line : String) : Command :=
  let text := Text.trim line.toList
  match String.ofList text with
  | "" => .skip
  | "quit" => .quit
  | "process" => .process
  | "metrics" => .metrics
  | "pending" => .pending
  | _ => entryOf defaultSource text

end LogSpool.Shell
