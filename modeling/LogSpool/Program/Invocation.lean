import LogSpool.Decimal.Numeral
import LogSpool.Power

/-!
# Invocations

This module reads the arguments of the command line.  The first argument says what to do; an
option's value follows it as the next argument or after an equals sign.  Anything that is not asked
for is refused, and so is an option that is given twice.
-/

namespace LogSpool

/-- What help is asked for. -/
inductive HelpTopic where
  | program
  /-- The help on the shell, or on the server: in short, or in detail. -/
  | shell (detailed : Bool)
  | server (detailed : Bool)
  /-- The command that prints help. -/
  | help
  deriving Repr, DecidableEq

/-- What the program is asked to do. -/
inductive Invocation where
  | version
  | help (topic : HelpTopic)
  /-- Run the shell on the standard input; `source` is the source of lines that name none. -/
  | shell (source : String)
  /-- Run the server, on a port of its own if there is one. -/
  | server (port : Option Nat)
  deriving Repr, DecidableEq

namespace Invocation

/-- The source of lines that name none when nothing is said. -/
def standardSource : String := "cli"

/-- Whether an argument is taken for an option rather than for a value. -/
def looksLikeOption (argument : List Char) : Bool :=
  match argument with
  | '-' :: _ :: _ => true
  | _ => false

/-- Whether an argument asks for help, and if it does, whether in detail. -/
def asksForHelp? (argument : String) : Option Bool :=
  if argument = "--help" then some true
  else if ['-', 'h'].isPrefixOf argument.toList then some false
  else none

/-- A command with a single option. -/
structure Command where
  option : String
  absent : Invocation
  /-- The invocation with a value of the option, if it is one. -/
  given : String → Option Invocation
  help : Bool → HelpTopic

/-- The arguments after the value of the option: only an end of options, or a wish for help. -/
def Command.last (command : Command) (value : String) (rest : List String) : Option Invocation := do
  let invocation ← command.given value
  match rest with
  | [] | ["--"] => pure invocation
  | next :: _ => return .help (command.help (← asksForHelp? next))

/-- Reads the arguments of a command. -/
def Command.ofArguments? (command : Command) : List String → Option Invocation
  | [] | ["--"] => some command.absent
  | argument :: rest =>
    let attached := (command.option ++ "=").toList
    if let some detailed := asksForHelp? argument then some (.help (command.help detailed))
    else if argument = command.option then
      match rest with
      | [] => none
      | value :: rest => if looksLikeOption value.toList then none else command.last value rest
    else if attached.isPrefixOf argument.toList then
      command.last (String.ofList (argument.toList.drop attached.length)) rest
    else none

/-- A port.  It may be written with a sign, as long as it is in range. -/
def port? (s : String) : Option Nat :=
  ((Decimal.signed64? s.toList).filter fun n => 0 ≤ n ∧ n < (pow2 16 : Int)).map Int.toNat

/-- The command that runs the shell. -/
def shellCommand : Command :=
  ⟨"--source", .shell standardSource, fun source => some (.shell source), .shell⟩

/-- The command that runs the server. -/
def serverCommand : Command :=
  ⟨"--port", .server none, fun port => (port? port).map fun n => .server (some n), .server⟩

/-- The topic that names after the help command lead to.  They are the names of commands and no
arguments. -/
def topic? : List String → Option HelpTopic
  | [] => some .program
  | ["repl"] => some (.shell true)
  | ["server"] => some (.server true)
  | ["help"] => some .help
  | _ => none

/-- Reads the arguments of the command line. -/
def ofArguments? : List String → Option Invocation
  | [] => none
  | "repl" :: rest => shellCommand.ofArguments? rest
  | "server" :: rest => serverCommand.ofArguments? rest
  | "help" :: rest => (topic? rest).map .help
  | first :: _ =>
    if first = "--version" ∨ ['-', 'V'].isPrefixOf first.toList then some .version
    else (asksForHelp? first).map fun _ => .help .program

end Invocation

end LogSpool
