import LogSpool.Program.Invocation

/-!
# Help

This module holds what the program says about itself: the help on the program, and the help on each
command, in short and in detail.  Explanations stand beside a name in short help, and below it in
detailed help; a list of commands shows the whole description of each.
-/

namespace LogSpool

/-- A text with every line after the first moved to the right. -/
def indented (width : Nat) (lines : List String) : List String :=
  match lines with
  | [] => []
  | first :: rest => first :: rest.map (String.ofList (List.replicate width ' ') ++ ·)

/-- A name with an explanation beside it, both in a column of their own. -/
def besideName (width : Nat) (name : String) (explanation : List String) : List String :=
  let padding := String.ofList (List.replicate (width - name.length) ' ')
  match indented (width + 4) explanation with
  | [] => ["  " ++ name ++ padding ++ "  "]
  | first :: rest => ("  " ++ name ++ padding ++ "  " ++ first) :: rest

/-- A name with an explanation below it. -/
def belowName (name : String) (explanation : List String) : List String :=
  ("  " ++ name) :: explanation.map ("          " ++ ·)

/-- The description of the command that runs the server, after an empty line. -/
def serverDescription : List String :=
  ["",
    "Serves the REST API until Ctrl-C or SIGTERM, then drains the buffer.",
    "Settings come from the environment (BUFFER_CAPACITY, SINK, DB_HOST, API_PORT, ...).",
    "Examples:",
    "",
    "SINK=memory logbuf server",
    "logbuf server --port 9000"]

/-- The description of the command that runs the shell, after an empty line. -/
def shellDescription : List String :=
  ["",
    "Reads commands from stdin: LEVEL|SOURCE|MESSAGE, process, metrics, pending, quit.",
    "Examples:",
    "",
    "SINK=memory logbuf repl",
    "printf 'ERROR|db|disk full\\nprocess\\n' | logbuf repl"]

/-- The description of the command that prints help. -/
def helpDescription : String :=
  "Print this message or the help of the given subcommand(s)"

/-- An option of a command: its name with its value, its explanation, and its standard value. -/
structure OptionHelp where
  name : String
  explanation : String
  standard : Option String

/-- The option of the command that runs the shell. -/
def sourceHelp : OptionHelp :=
  ⟨"    --source <SOURCE>", "Source used when a line leaves it empty",
    some Invocation.standardSource⟩

/-- The option of the command that runs the server. -/
def portHelp : OptionHelp :=
  ⟨"    --port <PORT>", "Overrides API_PORT", none⟩

/-- The help on a command, in short. -/
def shortHelp (command : String) (option : OptionHelp) : List String :=
  let width := option.name.length
  let standard := option.standard.elim "" fun value => " [default: " ++ value ++ "]"
  ["Usage: logbuf " ++ command ++ " [OPTIONS]", "", "Options:"] ++
    besideName width option.name [option.explanation ++ standard] ++
    besideName width "-h, --help" ["Print help (see more with '--help')"]

/-- The help on a command, in detail. -/
def detailedHelp (command : String) (description : List String) (option : OptionHelp) :
    List String :=
  let standard := option.standard.elim [] fun value => ["", "[default: " ++ value ++ "]"]
  description ++ ["", "Usage: logbuf " ++ command ++ " [OPTIONS]", "", "Options:"] ++
    belowName option.name (option.explanation :: standard) ++ [""] ++
    belowName "-h, --help" ["Print help (see a summary with '-h')"]

/-- The help on a command. -/
def commandHelp (command : String) (description : List String) (option : OptionHelp)
    (detailed : Bool) : List String :=
  if detailed then detailedHelp command description option else shortHelp command option

/-- The lines of the help on a topic. -/
def HelpTopic.lines : HelpTopic → List String
  | .program =>
    ["Bounded log buffer with batched delivery", "", "Usage: logbuf <COMMAND>", "", "Commands:"] ++
      besideName 6 "server" ("" :: serverDescription) ++
      besideName 6 "repl" ("" :: shellDescription) ++
      besideName 6 "help" [helpDescription] ++
      ["", "Options:"] ++
      besideName 13 "-h, --help" ["Print help"] ++
      besideName 13 "-V, --version" ["Print version"]
  | .shell detailed => commandHelp "repl" shellDescription sourceHelp detailed
  | .server detailed => commandHelp "server" serverDescription portHelp detailed
  | .help =>
    [helpDescription, "", "Usage: logbuf help [COMMAND]...", "", "Arguments:"] ++
      besideName 12 "[COMMAND]..." ["Print help for the subcommand(s)"]

/-- The help on a topic. -/
def HelpTopic.text (topic : HelpTopic) : String :=
  String.join (topic.lines.map (· ++ "\n"))

end LogSpool
