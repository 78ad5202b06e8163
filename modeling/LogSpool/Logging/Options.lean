import LogSpool.Json.Reader.Record

/-!
# Options of logging

This module holds where log lines go and in which form, and the document of these options.  In a
document the form may also be an empty text, which means the standard form.

What a log line looks like is not described here.
-/

namespace LogSpool.Logging

/-- The form of log lines. -/
inductive Format where
  /-- One JSON document per event. -/
  | json
  | text
  deriving Repr, DecidableEq

namespace Format

/-- The forms by the names they have in documents. -/
def named : List (String × Format) :=
  [("json", .json), ("text", .text)]

/-- The name of a form in documents. -/
def name : Format → String
  | .json => "json"
  | .text => "text"

/-- The title of a form. -/
def title : Format → String
  | .json => "Json"
  | .text => "Text"

/-- The form when nothing is said. -/
def standard : Format :=
  .text

/-- Reads a form. -/
def reader : Json.Reader Format :=
  Json.Reader.choice named

/-- Reads a form whose name may be empty. -/
def readerOrEmpty : Json.Reader Format := do
  let name ← Json.Reader.text
  if name = "" then pure standard
  else
    match Json.Reader.variantNamed named name with
    | .ok format => pure format
    | .error what =>
      Json.Reader.failFloating
        (.other ("invalid value, expect empty string, err: " ++ what.message))

end Format

/-- Where log lines go. -/
structure Options where
  /-- The directory of rolling log files; none are written if it is empty. -/
  dir : String
  /-- The filter, if there is one of its own. -/
  level : Option String
  format : Format
  /-- How many files of a kind are kept. -/
  maxFiles : Nat
  /-- Whether log lines go to the output too. -/
  toOutput : Bool
  deriving Repr, DecidableEq

namespace Options

/-- The options when nothing is said. -/
def standard : Options :=
  ⟨"", none, .standard, 720, true⟩

/-- The document of the options. -/
def document (o : Options) : Json :=
  .record [
    ("dir", .text o.dir),
    ("level", match o.level with
      | none => .null
      | some level => .text level),
    ("log_format", .text o.format.name),
    ("max_log_files", .natural o.maxFiles),
    ("append_stdout", .bool o.toOutput)]

/-- The members of the document; each may be left out. -/
def fields : List (Json.Reader.Field Options) :=
  [⟨"dir", false, fun o => return { o with dir := ← Json.Reader.text }⟩,
    ⟨"level", false, fun o => return { o with level := ← Json.Reader.optional Json.Reader.text }⟩,
    ⟨"log_format", false, fun o => return { o with format := ← Format.readerOrEmpty }⟩,
    ⟨"max_log_files", false, fun o => return { o with maxFiles := ← Json.Reader.size }⟩,
    ⟨"append_stdout", false, fun o => return { o with toOutput := ← Json.Reader.flag }⟩]

/-- Reads options; members that are left out have their standard value. -/
def ofText? (s : String) : Except Json.Fault Options :=
  Json.Reader.run (Json.Reader.record "LoggingOptions" fields standard) s

end Options

end LogSpool.Logging
