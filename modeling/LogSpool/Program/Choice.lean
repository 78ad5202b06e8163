import LogSpool.Decimal.Nearest
import LogSpool.Json.Reader.Record
import LogSpool.Text.Blank

/-!
# Choices of a program

This module holds the two choices that a program's configuration makes by name: how severe an event
has to be to be logged, and where processed entries are delivered.
-/

namespace LogSpool

/-- The least severity of events that are logged. -/
inductive LogLevel where
  | debug
  | info
  | error
  deriving Repr, DecidableEq

namespace LogLevel

/-- Every level. -/
def all : List LogLevel :=
  [.debug, .info, .error]

/-- The name of a level in documents. -/
def name : LogLevel → String
  | .debug => "DEBUG"
  | .info => "INFO"
  | .error => "ERROR"

/-- The log filter of a level. -/
def filter : LogLevel → String
  | .debug => "debug"
  | .info => "info"
  | .error => "error"

/-- The level when nothing is said. -/
def standard : LogLevel :=
  .info

/-- The level of a name, in any case. -/
def ofName? (s : String) : Option LogLevel :=
  all.find? fun level => Decimal.lowerAscii level.name.toList = Decimal.lowerAscii s.toList

/-- The level that a setting stands for.  Blanks around it do not count, and a name of no level
stands for the standard one, so that a misspelt level does not keep a program from starting. -/
def ofSetting (s : String) : LogLevel :=
  (ofName? (String.ofList (Text.trim s.toList))).getD standard

/-- Reads a level. -/
def reader : Json.Reader LogLevel := do
  return ofSetting (← Json.Reader.text)

/-- A name leads back to its level. -/
theorem ofName?_name (level : LogLevel) : ofName? level.name = some level := by
  cases level <;> decide

end LogLevel

/-- Where processed entries are delivered. -/
inductive SinkKind where
  | postgres
  /-- Entries are kept in memory and are gone when the program ends. -/
  | memory
  deriving Repr, DecidableEq

namespace SinkKind

/-- The kinds by their names. -/
def named : List (String × SinkKind) :=
  [("postgres", .postgres), ("memory", .memory)]

/-- The name of a kind. -/
def name : SinkKind → String
  | .postgres => "postgres"
  | .memory => "memory"

/-- Reads a kind. -/
def reader : Json.Reader SinkKind :=
  Json.Reader.choice named

end SinkKind

end LogSpool
