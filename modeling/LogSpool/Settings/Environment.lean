import LogSpool.Settings.Value
import LogSpool.Decimal.Nearest

/-!
# Settings from the environment

This module reads settings from environment variables.  The value of a variable is a truth value,
an integer or a double if its text is one, tried in this order, and a text otherwise.  The name of
a variable is taken in lower case.
-/

namespace LogSpool.Settings

/-- The value that a variable's text stands for. -/
def Scalar.ofVariable (s : String) : Scalar :=
  match Text.lower s with
  | "true" => .bool true
  | "false" => .bool false
  | _ =>
    match Decimal.signed64? s.toList with
    | some n => .integer n
    | none =>
      match Decimal.float? s.toList with
      | some x => .float x
      | none => .text s

/-- The settings of an environment. -/
def ofEnvironment (bindings : List (String × String)) : List (String × Value) :=
  bindings.map fun (name, value) =>
    (Text.lower name, .scalar (.ofVariable value) .environment)

end LogSpool.Settings
